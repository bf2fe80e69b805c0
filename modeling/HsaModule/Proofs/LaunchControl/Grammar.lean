import HsaModule.DataType.Size
import HsaModule.Proofs.Item.Constant
import HsaModule.Proofs.Verdict

namespace HsaModule

namespace ByteConstant

theorem exists_value {k : ByteConstant} (htype : k.type = .u32 ∨ k.type = .u64)
    (hsize : k.type.byteCount ≤ k.bytes.length) :
    ∃ v, k.value = .ok v ∧ v.toNat = Bytes.toNumber (k.bytes.take k.type.byteCount) := by
  have hlt := Bytes.toNumber_lt (k.bytes.take k.type.byteCount)
  rw [List.length_take, Nat.min_eq_left hsize] at hlt
  have hholds : k.bytes.Holds 0 (Bytes.ofNumber k.type.byteCount
      (Bytes.toNumber (k.bytes.take k.type.byteCount))) :=
    (Bytes.holds_ofNumber_iff hlt).2 ⟨by omega, rfl⟩
  rcases htype with htype | htype
  · rw [htype] at hlt hholds ⊢
    have hword := UInt32.toNat_ofNat_of_lt' hlt
    rw [← hword] at hholds
    refine ⟨_, ?_, (UInt32.toNat_toUInt64 _).trans hword⟩
    rw [value, if_neg (by rw [htype]; decide), (word_eq_ok_iff (by decide)).2 hholds]
    rfl
  · rw [htype] at hlt hholds ⊢
    have hword := UInt64.toNat_ofNat_of_lt' hlt
    rw [← hword] at hholds
    refine ⟨_, ?_, hword⟩
    rw [value, if_pos htype]
    exact word64_eq_ok_iff.2 hholds

theorem value_of_lt {k : ByteConstant} (htype : k.type = .u32 ∨ k.type = .u64)
    (hsize : k.bytes.length < k.type.byteCount) :
    k.value = .error (.constantIndex (UInt64.ofNat (k.bytes.length / 4)) k.bytes.length) := by
  rcases htype with htype | htype
  · rw [htype] at hsize
    have hindex : k.bytes.length / 4 = 0 := Nat.div_eq_of_lt hsize
    rw [value, if_neg (by rw [htype]; decide), hindex,
      (word_eq_error_iff (by decide)).2 ⟨hsize, rfl⟩]
    rfl
  · rw [htype] at hsize
    rw [value, if_pos htype]
    exact word64_eq_error_iff.2 ⟨hsize, rfl⟩

end ByteConstant

namespace LaunchControl

def InBounds : LaunchControl → Nat → Prop
  | requiredDim, value => 1 ≤ value ∧ value ≤ 3
  | maxFlatGridSize, value | maxFlatWorkgroupSize, value | requiredGridSize, value
  | requiredWorkgroupSize, value => value ≠ 0
  | _, _ => True

/-- The operands that may stand at an index. The value of a constant is in as many of its bytes as
its type has, four or eight of them. -/
inductive Fits (c : LaunchControl) (index : Nat) : Operand → Prop
  | waveSize (htakes : c.takesWaveSize) : Fits c index .waveSize
  | constant {k : ByteConstant} (htype : c.operandType? index = some k.type)
      (hsize : k.type.byteCount ≤ k.bytes.length)
      (hvalue : c.InBounds (Bytes.toNumber (k.bytes.take k.type.byteCount))) :
      Fits c index (.constantBytes k)

inductive CutShort (c : LaunchControl) (index : Nat) : Operand → Prop
  | constant {k : ByteConstant} (htype : c.operandType? index = some k.type)
      (hsize : k.bytes.length < k.type.byteCount) : CutShort c index (.constantBytes k)

/-- What is wrong with an operand at an index, taken on its own. -/
inductive Fault (c : LaunchControl) (index : Nat) : Operand → Error → Prop
  | waveSize (htakes : ¬ c.takesWaveSize) : Fault c index .waveSize (.invalid .waveSizeOperand)
  | wrongType {k : ByteConstant} (htype : c.operandType? index ≠ some k.type) :
      Fault c index (.constantBytes k) (.invalid .operandType)
  | cutShort {k : ByteConstant} (htype : c.operandType? index = some k.type)
      (hsize : k.bytes.length < k.type.byteCount) :
      Fault c index (.constantBytes k)
        (.contract (.constantIndex (UInt64.ofNat (k.bytes.length / 4)) k.bytes.length))
  | outOfBounds {k : ByteConstant} (htype : c.operandType? index = some k.type)
      (hsize : k.type.byteCount ≤ k.bytes.length)
      (hvalue : ¬ c.InBounds (Bytes.toNumber (k.bytes.take k.type.byteCount))) :
      Fault c index (.constantBytes k)
        (.invalid (if c = .requiredDim then .operandNotDimension else .operandZero))
  | notImmediate {o : Operand} (hwave : o.kind ≠ .waveSize) (hconstant : o.kind ≠ .constantBytes) :
      Fault c index o (.invalid .operandNotImmediate)

theorem boundsObjection?_eq_some_iff {c : LaunchControl} {value : UInt64} {reason : Reason} :
    c.boundsObjection? value = some reason ↔
      ¬ c.InBounds value.toNat ∧
        reason = if c = .requiredDim then .operandNotDimension else .operandZero := by
  have hrange : (1 ≤ value ∧ value ≤ 3) ↔ 1 ≤ value.toNat ∧ value.toNat ≤ 3 :=
    and_congr UInt64.le_iff_toNat_le UInt64.le_iff_toNat_le
  have hzero : value = 0 ↔ value.toNat = 0 := UInt64.toNat_inj.symm
  cases c <;> simp [boundsObjection?, InBounds, hrange, hzero, eq_comm]

theorem boundsObjection?_eq_none_iff {c : LaunchControl} {value : UInt64} :
    c.boundsObjection? value = none ↔ c.InBounds value.toNat := by
  simp [Option.eq_none_iff_forall_ne_some, boundsObjection?_eq_some_iff]

theorem operandType?_eq_some {c : LaunchControl} {index : Nat} {type : DataType}
    (h : c.operandType? index = some type) : type = .u32 ∨ type = .u64 := by
  unfold operandType? at h
  split at h
  case isTrue => cases h
  case isFalse =>
      cases c with
      | maxFlatGridSize | requiredGridSize => exact .inr (Option.some.inj h).symm
      | requireNoPartialWorkgroups => cases h
      | _ => exact .inl (Option.some.inj h).symm

theorem result_checkOperand_constant {c : LaunchControl} {index : Nat} {k : ByteConstant} :
    (c.checkOperand index (.constantBytes k)).result =
      if c.operandType? index = some k.type then
        (k.value.mapError .contract).bind fun value => Reason.verdict (c.boundsObjection? value)
      else Reason.verdict (some .operandType) := by
  simp only [checkOperand, eq_comm (a := some k.type)]
  split
  · simp only [Logged.result_bind, checkBounds, result_judge]
    rfl
  · rfl

theorem checkOperand_of_fits {c : LaunchControl} {index : Nat} {o : Operand}
    (h : c.Fits index o) : (c.checkOperand index o).result = .ok () := by
  cases h with
  | waveSize htakes =>
      rw [checkOperand, if_pos htakes]
      rfl
  | constant htype hsize hvalue =>
      obtain ⟨value, hok, hnumber⟩ := ByteConstant.exists_value (operandType?_eq_some htype) hsize
      rw [← hnumber] at hvalue
      rw [result_checkOperand_constant, if_pos htype, hok]
      exact Reason.verdict_eq_ok_iff.2 (boundsObjection?_eq_none_iff.2 hvalue)

theorem checkOperand_of_fault {c : LaunchControl} {index : Nat} {o : Operand} {e : Error}
    (h : c.Fault index o e) : (c.checkOperand index o).result = .error e := by
  cases h with
  | waveSize htakes =>
      rw [checkOperand, if_neg htakes]
      rfl
  | wrongType htype =>
      rw [result_checkOperand_constant, if_neg htype]
      rfl
  | cutShort htype hsize =>
      rw [result_checkOperand_constant, if_pos htype,
        ByteConstant.value_of_lt (operandType?_eq_some htype) hsize]
      rfl
  | outOfBounds htype hsize hvalue =>
      obtain ⟨value, hok, hnumber⟩ := ByteConstant.exists_value (operandType?_eq_some htype) hsize
      rw [← hnumber] at hvalue
      rw [result_checkOperand_constant, if_pos htype, hok]
      exact Reason.verdict_eq_error_iff.2
        ⟨_, boundsObjection?_eq_some_iff.2 ⟨hvalue, rfl⟩, rfl⟩
  | notImmediate hwave hconstant =>
      cases o with
      | waveSize => exact absurd rfl hwave
      | constantBytes k => exact absurd rfl hconstant
      | _ => rfl

theorem fits_or_fault (c : LaunchControl) (index : Nat) (o : Operand) :
    c.Fits index o ∨ ∃ e, c.Fault index o e := by
  cases o with
  | waveSize =>
      by_cases htakes : c.takesWaveSize
      · exact .inl (.waveSize htakes)
      · exact .inr ⟨_, .waveSize htakes⟩
  | constantBytes k =>
      by_cases htype : c.operandType? index = some k.type
      case neg => exact .inr ⟨_, .wrongType htype⟩
      by_cases hsize : k.type.byteCount ≤ k.bytes.length
      case neg => exact .inr ⟨_, .cutShort htype (Nat.not_le.1 hsize)⟩
      by_cases hvalue : c.InBounds (Bytes.toNumber (k.bytes.take k.type.byteCount))
      · exact .inl (.constant htype hsize hvalue)
      · exact .inr ⟨_, .outOfBounds htype hsize hvalue⟩
  | _ => exact .inr ⟨_, .notImmediate (by simp [Operand.kind]) (by simp [Operand.kind])⟩

theorem checkOperand_eq_ok_iff {c : LaunchControl} {index : Nat} {o : Operand} :
    (c.checkOperand index o).result = .ok () ↔ c.Fits index o := by
  constructor
  · intro h
    rcases c.fits_or_fault index o with hfits | ⟨e, hfault⟩
    · exact hfits
    · rw [checkOperand_of_fault hfault] at h
      cases h
  · exact checkOperand_of_fits

theorem checkOperand_eq_error_iff {c : LaunchControl} {index : Nat} {o : Operand} {e : Error} :
    (c.checkOperand index o).result = .error e ↔ c.Fault index o e := by
  constructor
  · intro h
    rcases c.fits_or_fault index o with hfits | ⟨e', hfault⟩
    · rw [checkOperand_of_fits hfits] at h
      cases h
    · rw [checkOperand_of_fault hfault] at h
      rwa [← Except.error.inj h]
  · exact checkOperand_of_fault

theorem Fault.not_fits {c : LaunchControl} {index : Nat} {o : Operand} {e : Error}
    (h : c.Fault index o e) : ¬ c.Fits index o := by
  intro hfits
  have hresult := checkOperand_of_fault h
  rw [checkOperand_of_fits hfits] at hresult
  cases hresult

theorem not_cutShort {c : LaunchControl} {index : Nat} {o : Operand}
    (h : ∀ k, o = .constantBytes k → c.operandType? index = some k.type →
      k.type.byteCount ≤ k.bytes.length) : ¬ c.CutShort index o := by
  intro hshort
  cases hshort with
  | constant htype hsize => exact Nat.not_lt.2 (h _ rfl htype) hsize

theorem Fault.contract_or_invalid {c : LaunchControl} {index : Nat} {o : Operand} {e : Error}
    (h : c.Fault index o e) :
    (c.CutShort index o ∧ ∃ word size, e = .contract (.constantIndex word size)) ∨
      (¬ c.CutShort index o ∧ ∃ reason, e = .invalid reason) := by
  cases h with
  | cutShort htype hsize => exact .inl ⟨.constant htype hsize, _, _, rfl⟩
  | waveSize _ => exact .inr ⟨not_cutShort nofun, _, rfl⟩
  | wrongType htype =>
      refine .inr ⟨not_cutShort ?_, _, rfl⟩
      rintro _ ⟨rfl⟩ htype'
      exact absurd htype' htype
  | outOfBounds _ hsize _ =>
      refine .inr ⟨not_cutShort ?_, _, rfl⟩
      rintro _ ⟨rfl⟩ _
      exact hsize
  | notImmediate _ hconstant =>
      refine .inr ⟨not_cutShort ?_, _, rfl⟩
      rintro k rfl _
      exact absurd rfl hconstant

theorem Fault.contract_iff {c : LaunchControl} {index : Nat} {o : Operand} {e : Error}
    (h : c.Fault index o e) :
    (∃ word size, e = .contract (.constantIndex word size)) ↔ c.CutShort index o := by
  rcases h.contract_or_invalid with ⟨hshort, hcontract⟩ | ⟨hshort, reason, rfl⟩
  · exact iff_of_true hcontract hshort
  · exact iff_of_false nofun hshort

theorem Fault.invalid_iff {c : LaunchControl} {index : Nat} {o : Operand} {e : Error}
    (h : c.Fault index o e) : (∃ reason, e = .invalid reason) ↔ ¬ c.CutShort index o := by
  rcases h.contract_or_invalid with ⟨hshort, word, size, rfl⟩ | ⟨hshort, hinvalid⟩
  · exact iff_of_false nofun (not_not_intro hshort)
  · exact iff_of_true hinvalid hshort

theorem forall_getElem?_cons_iff {α : Type} {P : Nat → α → Prop} {a : α} {l : List α} :
    (∀ i b, (a :: l)[i]? = some b → P i b) ↔ P 0 a ∧ ∀ i b, l[i]? = some b → P (i + 1) b := by
  constructor
  · intro h
    exact ⟨h 0 a rfl, fun i b hb => h (i + 1) b hb⟩
  · rintro ⟨hfirst, hrest⟩ i b hb
    cases i with
    | zero =>
        obtain rfl := Option.some.inj hb
        exact hfirst
    | succ i => exact hrest i b hb

theorem checkFrom_eq_ok_iff (c : LaunchControl) (index : Nat) (operands : List Operand) :
    (c.checkFrom index operands).result = .ok () ↔
      ∀ i o, operands[i]? = some o → c.Fits (index + i) o := by
  induction operands generalizing index with
  | nil => simp [checkFrom]
  | cons o rest ih =>
      have hrest := ih (index + 1)
      simp only [Nat.add_assoc, Nat.add_comm 1] at hrest
      rw [checkFrom, Logged.result_bind, except_bind_eq_ok_iff, forall_getElem?_cons_iff]
      constructor
      · rintro ⟨⟨⟩, hfirst, hnext⟩
        exact ⟨checkOperand_eq_ok_iff.1 hfirst, hrest.1 hnext⟩
      · rintro ⟨hfirst, hnext⟩
        exact ⟨(), checkOperand_eq_ok_iff.2 hfirst, hrest.2 hnext⟩

theorem checkFrom_eq_error_iff (c : LaunchControl) (index : Nat) (operands : List Operand)
    {e : Error} :
    (c.checkFrom index operands).result = .error e ↔
      ∃ i o, operands[i]? = some o ∧
        (∀ j < i, ∀ o', operands[j]? = some o' → c.Fits (index + j) o') ∧
          c.Fault (index + i) o e := by
  induction operands generalizing index with
  | nil => simp [checkFrom]
  | cons o rest ih =>
      have hrest := ih (index + 1)
      simp only [Nat.add_assoc, Nat.add_comm 1] at hrest
      rw [checkFrom, Logged.result_bind, except_bind_eq_error_iff]
      constructor
      · rintro (hfirst | ⟨⟨⟩, hfirst, hnext⟩)
        · exact ⟨0, o, rfl, fun j hj => absurd hj (Nat.not_lt_zero j),
            checkOperand_eq_error_iff.1 hfirst⟩
        · obtain ⟨i, o', ho', hbefore, hfault⟩ := hrest.1 hnext
          refine ⟨i + 1, o', ho', ?_, hfault⟩
          intro j hj b hb
          cases j with
          | zero =>
              obtain rfl := Option.some.inj hb
              exact checkOperand_eq_ok_iff.1 hfirst
          | succ j => exact hbefore j (Nat.lt_of_succ_lt_succ hj) b hb
      · rintro ⟨i, o', ho', hbefore, hfault⟩
        cases i with
        | zero =>
            obtain rfl := Option.some.inj ho'
            exact .inl (checkOperand_eq_error_iff.2 hfault)
        | succ i =>
            have hfirst := hbefore 0 (Nat.succ_pos i) o rfl
            refine .inr ⟨(), checkOperand_eq_ok_iff.2 hfirst, hrest.2 ⟨i, o', ho', ?_, hfault⟩⟩
            intro j hj b hb
            exact hbefore (j + 1) (Nat.succ_lt_succ hj) b hb

structure FirstFault (c : LaunchControl) (operands : List Operand) (i : Nat) (o : Operand)
    (e : Error) : Prop where
  operand : operands[i]? = some o
  before : ∀ j < i, ∀ o', operands[j]? = some o' → c.Fits j o'
  misfit : ¬ c.Fits i o
  alone : (c.checkOperand i o).result = .error e
  fault : c.Fault i o e
  contract_iff : (∃ word size, e = .contract (.constantIndex word size)) ↔ c.CutShort i o
  invalid_iff : (∃ reason, e = .invalid reason) ↔ ¬ c.CutShort i o

/-- The operands are accepted if there are as many as there should be, and each fits its place.
If they are not, then their number is wrong, or the first that does not fit is. -/
theorem check_grammar (c : LaunchControl) (operands : List Operand) :
    ((c.check operands).result = .ok () ↔
      operands.length = c.arity ∧ ∀ i o, operands[i]? = some o → c.Fits i o) ∧
    ∀ e, (c.check operands).result = .error e ↔
      operands.length ≠ c.arity ∧ e = .invalid .operandCount ∨
        operands.length = c.arity ∧ ∃ i o, c.FirstFault operands i o e := by
  rw [check]
  split
  case isFalse hcount => simp [hcount, Reason.verdict, eq_comm]
  case isTrue hcount =>
      simp only [hcount, checkFrom_eq_ok_iff, checkFrom_eq_error_iff, Nat.zero_add, true_and,
        ne_eq, not_true_eq_false, false_and, false_or]
      intro e
      apply exists_congr
      intro i
      apply exists_congr
      intro o
      constructor
      · rintro ⟨hoperand, hbefore, hfault⟩
        exact ⟨hoperand, hbefore, hfault.not_fits, checkOperand_of_fault hfault, hfault,
          hfault.contract_iff, hfault.invalid_iff⟩
      · intro h
        exact ⟨h.operand, h.before, h.fault⟩

example :
    (requiredGridSize.check
      [.waveSize, .constantBytes { type := .u64, bytes := [1, 0, 0, 0] }, .string "3"]).result =
        .error (.contract (.constantIndex 1 4)) := by
  rfl

end LaunchControl

end HsaModule
