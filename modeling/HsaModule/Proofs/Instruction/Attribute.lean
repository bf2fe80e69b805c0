import HsaModule.Instruction
import HsaModule.Proofs.Coded.Value

namespace HsaModule.Instruction

variable {α : Type} [Coded α] {i i' : Instruction} {p : Property}

theorem valueOr_zero_eq_zero_iff :
    i.valueOr p 0 = 0 ↔ i.property p = none ∨ i.property p = some 0 := by
  rw [valueOr]
  cases i.property p with
  | none => simp
  | some value => simp

theorem valueOr_zero_eq_iff {value : UInt32} (hvalue : value ≠ 0) :
    i.valueOr p 0 = value ↔ i.property p = some value := by
  rw [valueOr]
  cases i.property p with
  | none => simp [hvalue.symm]
  | some value' => simp

/-- A read of the attribute that property `p` holds. Nothing stored and zero stand for no member,
and a value that is not the code of a member is reported in full, with the name of the family. -/
structure ReadsExactly (p : Property) (family : String)
    (read : Instruction → Logged ContractViolation (Option α)) : Prop where
  none_iff (i : Instruction) :
    (read i).result = .ok none ↔ i.property p = none ∨ i.property p = some 0
  some_iff (i : Instruction) (a : α) : (read i).result = .ok (some a) ↔
    ∃ value, i.property p = some value ∧ value.toNat = Coded.code a
  error_iff (i : Instruction) (v : ContractViolation) : (read i).result = .error v ↔
    ∃ value, i.property p = some value ∧ value ≠ 0 ∧ (∀ a : α, value.toNat ≠ Coded.code a) ∧
      v = .unknownCode family value.toNat
  value_unique {i i' : Instruction} {value value' : UInt32} {a : α} :
    i.property p = some value → i'.property p = some value' →
      (read i).result = .ok (some a) → (read i').result = .ok (some a) → value = value'
  congr {i i' : Instruction} : i.property p = i'.property p → read i = read i'

section

variable [LawfulCoded α]

theorem attribute?_eq_ok_some_iff (hpos : ∀ a : α, Coded.code a ≠ 0) {a : α} :
    (i.attribute? α p).result = .ok (some a) ↔
      ∃ value, i.property p = some value ∧ value.toNat = Coded.code a := by
  rw [attribute?, Coded.decodeValue?_eq_ok_some_iff hpos]
  constructor
  · intro hcode
    refine ⟨i.valueOr p 0, ?_, hcode.symm⟩
    rw [← valueOr_zero_eq_iff]
    intro hzero
    rw [hzero] at hcode
    exact hpos a hcode
  · rintro ⟨value, hvalue, hcode⟩
    rw [valueOr, hvalue]
    exact hcode.symm

theorem attribute?_eq_error_iff {v : ContractViolation} :
    (i.attribute? α p).result = .error v ↔
      ∃ value, i.property p = some value ∧ value ≠ 0 ∧
        (∀ a : α, value.toNat ≠ Coded.code a) ∧
          v = .unknownCode (Coded.family α) value.toNat := by
  rw [attribute?, Coded.decodeValue?_eq_error_iff]
  constructor
  · rintro ⟨hzero, hcode, rfl⟩
    exact ⟨i.valueOr p 0, (valueOr_zero_eq_iff hzero).1 rfl, hzero, fun a => (hcode a).symm, rfl⟩
  · rintro ⟨value, hvalue, hzero, hcode, rfl⟩
    rw [(valueOr_zero_eq_iff hzero).2 hvalue]
    exact ⟨hzero, fun a => (hcode a).symm, rfl⟩

theorem readsExactly_attribute? (hpos : ∀ a : α, Coded.code a ≠ 0) (p : Property) :
    ReadsExactly p (Coded.family α) fun i => i.attribute? α p where
  none_iff i := by
    rw [attribute?, Coded.decodeValue?_eq_ok_none_iff, valueOr_zero_eq_zero_iff]
  some_iff i a := attribute?_eq_ok_some_iff hpos
  error_iff i v := attribute?_eq_error_iff
  value_unique hvalue hvalue' hread hread' := by
    obtain ⟨w, hw, hcode⟩ := (attribute?_eq_ok_some_iff hpos).1 hread
    obtain ⟨w', hw', hcode'⟩ := (attribute?_eq_ok_some_iff hpos).1 hread'
    obtain rfl := Option.some.inj (hw.symm.trans hvalue)
    obtain rfl := Option.some.inj (hw'.symm.trans hvalue')
    exact UInt32.toNat_inj.1 (hcode.trans hcode'.symm)
  congr hvalue := by
    rw [attribute?, attribute?, valueOr, valueOr, hvalue]

end

/-- Every typed attribute, with the property that holds it and the name under which unknown codes of
it are reported. -/
theorem attributes_readExactly :
    ReadsExactly .type "TypeCode" resultType? ∧
      ReadsExactly .sourceType "TypeCode" sourceType? ∧
      ReadsExactly .coordType "TypeCode" coordinateType? ∧
      ReadsExactly .signalType "TypeCode" signalType? ∧
      ReadsExactly .imageType "TypeCode" imageType? ∧
      ReadsExactly .segment "Segment" segment? ∧
      ReadsExactly .pack "PackingMode" packing? ∧
      ReadsExactly .imageSegmentMemoryScope "MemoryScope" imageScope? := by
  have htype (p : Property) :
      ReadsExactly p "TypeCode" fun i => i.attribute? DataType p :=
    readsExactly_attribute? (by decide +kernel) p
  refine ⟨htype .type, htype .sourceType, htype .coordType, htype .signalType, htype .imageType,
    ?_, ?_, ?_⟩
  · exact readsExactly_attribute? (α := Segment) (by decide) .segment
  · exact readsExactly_attribute? (α := Packing) (by decide) .pack
  · exact readsExactly_attribute? (α := MemoryScope) (by decide) .imageSegmentMemoryScope

end HsaModule.Instruction
