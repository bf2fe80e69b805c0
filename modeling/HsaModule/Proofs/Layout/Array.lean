import HsaModule.Proofs.Layout.Split
import HsaModule.Proofs.Layout.Variable

namespace HsaModule.Operand

/-- The constants in their order, with alignments up to the strongest one put in anywhere. -/
inductive Interspersed (strongest : Alignment) : List ByteConstant → List Operand → Prop
  | nil : Interspersed strongest [] []
  | constant {k : ByteConstant} {constants : List ByteConstant} {elements : List Operand}
      (hrest : Interspersed strongest constants elements) :
      Interspersed strongest (k :: constants) (.constantBytes k :: elements)
  | align {a : Alignment} {constants : List ByteConstant} {elements : List Operand}
      (hle : a ≤ strongest) (hrest : Interspersed strongest constants elements) :
      Interspersed strongest constants (.align a :: elements)

theorem Interspersed.front_of_align {strongest a : Alignment} {constants : List ByteConstant}
    {front back : List Operand}
    (h : Interspersed strongest constants (front ++ .align a :: back)) :
    a ≤ strongest ∧ ∃ first, first <+: constants ∧ Interspersed strongest first front := by
  induction front generalizing constants with
  | nil =>
      cases h with
      | align hle hrest => exact ⟨hle, [], List.nil_prefix, .nil⟩
  | cons o front ih =>
      cases h with
      | @constant k constants _ hrest =>
          obtain ⟨ha, first, hfirst, hfront⟩ := ih hrest
          exact ⟨ha, k :: first, List.cons_prefix_cons.2 ⟨rfl, hfirst⟩, .constant hfront⟩
      | align hle hrest =>
          obtain ⟨ha, first, hfirst, hfront⟩ := ih hrest
          exact ⟨ha, first, hfirst, .align hle hfront⟩

theorem bytes_dvd_mul_byteCount {type : DataType} {a : Alignment}
    (hle : a ≤ type.naturalAlignment) (m : Nat) (ha : a ≠ .unspecified) :
    a.bytes ∣ m * type.byteCount := by
  rw [← type.bytes_naturalAlignment]
  exact Nat.dvd_mul_left_of_dvd (Alignment.bytes_dvd_of_le ha hle) m

theorem Interspersed.foldlM_place {type : DataType} {constants : List ByteConstant}
    {elements : List Operand} (h : Interspersed type.naturalAlignment constants elements)
    (hsize : ∀ k ∈ constants, k.bytes.length = type.byteCount) (m : Nat) :
    elements.foldlM place (m * type.byteCount) =
      .ok ((m + constants.length) * type.byteCount) := by
  -- the invariant: between two elements, the offset is a whole number of elements
  induction h generalizing m with
  | nil => rfl
  | @constant k constants elements hrest ih =>
      have hnext : place (m * type.byteCount) (.constantBytes k) =
          .ok ((m + 1) * type.byteCount) := by
        rw [place, hsize k List.mem_cons_self, Nat.add_mul, Nat.one_mul]
      have hwhole := ih (fun k' hk' => hsize k' (List.mem_cons_of_mem k hk')) (m + 1)
      rw [foldlM_cons_eq_ok_iff]
      refine ⟨_, hnext, ?_⟩
      rw [hwhole, List.length_cons, Nat.add_assoc, Nat.add_comm 1]
  | @align a constants elements hle hrest ih =>
      have hstays : place (m * type.byteCount) (.align a) = .ok (m * type.byteCount) := by
        rw [place, Alignment.roundUp_of_dvd (bytes_dvd_mul_byteCount hle m)]
      rw [foldlM_cons_eq_ok_iff]
      exact ⟨_, hstays, ih hsize m⟩

theorem Interspersed.aggregateSize_eq {type : DataType} {constants : List ByteConstant}
    {elements : List Operand} (h : Interspersed type.naturalAlignment constants elements)
    (hsize : ∀ k ∈ constants, k.bytes.length = type.byteCount) :
    aggregateSize elements = .ok (constants.length * type.byteCount) := by
  have hwhole := h.foldlM_place hsize 0
  rwa [Nat.zero_mul, Nat.zero_add] at hwhole

theorem Interspersed.aggregateByteCount_align {type : DataType} {constants : List ByteConstant}
    {front back : List Operand} {a : Alignment}
    (h : Interspersed type.naturalAlignment constants (front ++ .align a :: back))
    (hsize : ∀ k ∈ constants, k.bytes.length = type.byteCount) :
    aggregateByteCount (front ++ [.align a]) = aggregateByteCount front := by
  obtain ⟨hle, first, hfirst, hfront⟩ := h.front_of_align
  have hwhole := hfront.aggregateSize_eq fun k hk => hsize k (hfirst.subset hk)
  have hstays : aggregateByteCount (front ++ .align a :: []) =
      aggregateByteCount (front ++ []) := by
    apply aggregateByteCount_insert
    intro p hp
    rw [aggregateByteCount_eq_ok_iff, hwhole, Except.ok.injEq] at hp
    apply placeWord_align_of_dvd
    rw [← hp]
    exact bytes_dvd_mul_byteCount hle first.length
  rwa [List.append_nil] at hstays

structure LaidOutAsArray (v : Variable) (elements : List Operand) : Prop where
  byteCount_iff (size : UInt64) :
    aggregateByteCount elements = .ok size ↔ v.byteCount = .ok size
  fits : v.dim.toNat * v.elementType.byteCount < 2 ^ 64 → ∃ size : UInt64,
    aggregateByteCount elements = .ok size ∧ v.byteCount = .ok size ∧
      size.toNat = v.dim.toNat * v.elementType.byteCount
  unpadded {front back : List Operand} {a : Alignment} : elements = front ++ .align a :: back →
    aggregateByteCount (front ++ [.align a]) = aggregateByteCount front

/-- Constants of the size of an element, with alignments among them that the element needs anyway,
are laid out like an array of as many elements. -/
theorem laidOutAsArray {v : Variable} {constants : List ByteConstant} {elements : List Operand}
    (hdim : v.dim.toNat = constants.length) (hconstants : constants ≠ [])
    (hsize : ∀ k ∈ constants, k.bytes.length = v.elementType.byteCount)
    (helements : Interspersed v.elementType.naturalAlignment constants elements) :
    LaidOutAsArray v elements := by
  have hexact : v.exactSize = v.dim.toNat * v.elementType.byteCount := by
    have hpos : 1 ≤ v.dim.toNat := by
      rw [hdim]
      exact List.length_pos_iff.2 hconstants
    rw [Variable.exactSize, Nat.max_eq_left hpos, Nat.mul_comm]
  have hcount (size : UInt64) :
      aggregateByteCount elements = .ok size ↔ v.byteCount = .ok size := by
    rw [aggregateByteCount_eq_ok_iff, helements.aggregateSize_eq hsize, Except.ok.injEq, ← hdim,
      Variable.byteCount_eq_ok_iff, hexact]
    exact eq_comm
  refine ⟨hcount, ?_, ?_⟩
  · intro hlt
    rw [← hexact] at hlt ⊢
    obtain ⟨size, hvalue, hok⟩ := Variable.exists_byteCount hlt
    exact ⟨size, (hcount size).2 hok, hok, hvalue⟩
  · rintro front back a rfl
    exact helements.aggregateByteCount_align hsize

def sixteen (type : DataType) (b : UInt8) : ByteConstant := { type, bytes := List.replicate 16 b }

def vectors : List ByteConstant := [sixteen .f64x2 1, sixteen .u8x16 2, sixteen .f64x2 3]

def alignedVectors : List Operand :=
  [.align .unspecified, .constantBytes (sixteen .f64x2 1), .align DataType.f64x2.naturalAlignment,
    .align DataType.u8.naturalAlignment, .constantBytes (sixteen .u8x16 2),
    .constantBytes (sixteen .f64x2 3), .align DataType.u64.naturalAlignment]

def vectorArray : Variable where
  name := "&vectors"
  elementType := .f64x2
  isArray := true
  dim := 3
  segment := .readonly
  linkage := .module
  align := .unspecified
  isDefinition := true

theorem interspersed_alignedVectors :
    Interspersed vectorArray.elementType.naturalAlignment vectors alignedVectors := by
  have hle {a : Alignment} (ha : Coded.code a ≤ 5) : a ≤ vectorArray.elementType.naturalAlignment :=
    Alignment.le_iff_code_le.2 ha
  exact .align (hle (by decide)) (.constant (.align (hle (by decide)) (.align (hle (by decide))
    (.constant (.constant (.align (hle (by decide)) .nil))))))

theorem laidOutAsArray_alignedVectors :
    vectorArray.dim.toNat = vectors.length ∧ vectors ≠ [] ∧
      (∀ k ∈ vectors, k.bytes.length = vectorArray.elementType.byteCount) ∧
      Interspersed vectorArray.elementType.naturalAlignment vectors alignedVectors ∧
      LaidOutAsArray vectorArray alignedVectors := by
  have hdim : vectorArray.dim.toNat = vectors.length := rfl
  have hvectors : vectors ≠ [] := nofun
  have hsize : ∀ k ∈ vectors, k.bytes.length = vectorArray.elementType.byteCount := by decide
  have helements := interspersed_alignedVectors
  exact ⟨hdim, hvectors, hsize, helements, laidOutAsArray hdim hvectors hsize helements⟩

end HsaModule.Operand
