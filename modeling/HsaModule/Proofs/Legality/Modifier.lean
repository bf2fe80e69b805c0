import HsaModule.Proofs.Legality.Question

namespace HsaModule

namespace Rounding

def baseModes : List Rounding :=
  [none, floatDefault, integer .zero false false, integer .zero true false,
    integer .zero false true, integer .zero true true]

example : baseModes.map Coded.label =
    ["None", "FloatDefault", "IntegerZero", "IntegerZeroSat", "IntegerSignalingZero",
      "IntegerSignalingZeroSat"] := by
  decide

inductive Refused : Rounding → Reason → Prop
  | float {mode : Rounding} (hmode : mode ∉ baseModes) (hclass : mode.isFloat) :
      Refused mode .floatRounding
  | integer {mode : Rounding} (hmode : mode ∉ baseModes) (hclass : mode.isInteger) :
      Refused mode .integerRounding

theorem refused_floatRounding_iff {mode : Rounding} :
    mode.Refused .floatRounding ↔ mode ∉ baseModes ∧ mode.isFloat := by
  constructor
  · intro h
    cases h with
    | float hmode hclass => exact ⟨hmode, hclass⟩
  · rintro ⟨hmode, hclass⟩
    exact .float hmode hclass

theorem refused_integerRounding_iff {mode : Rounding} :
    mode.Refused .integerRounding ↔ mode ∉ baseModes ∧ mode.isInteger := by
  constructor
  · intro h
    cases h with
    | integer hmode hclass => exact ⟨hmode, hclass⟩
  · rintro ⟨hmode, hclass⟩
    exact .integer hmode hclass

theorem not_isInteger_of_isFloat {mode : Rounding} (h : mode.isFloat) : ¬ mode.isInteger := by
  cases mode with
  | none => cases h
  | floatDefault => decide
  | float d => exact Bool.false_ne_true
  | integer d saturating signaling => cases h

theorem objection?_eq_none_iff {mode : Rounding} :
    mode.objection? = Option.none ↔ mode ∈ baseModes := by
  have hall : ∀ mode : Rounding, mode.objection? = Option.none ↔ mode ∈ baseModes := by decide
  exact hall mode

theorem objection?_of_not_mem {mode : Rounding} (hmode : mode ∉ baseModes) :
    mode.objection? = some (if mode.isInteger then .integerRounding else .floatRounding) ∧
      (mode.isFloat ∨ mode.isInteger) := by
  have hall : ∀ mode : Rounding, mode ∉ baseModes →
      mode.objection? = some (if mode.isInteger then .integerRounding else .floatRounding) ∧
        (mode.isFloat ∨ mode.isInteger) := by
    decide
  exact hall mode hmode

theorem objection?_eq_some_iff {mode : Rounding} {reason : Reason} :
    mode.objection? = some reason ↔ mode.Refused reason := by
  constructor
  · intro h
    have hmode : mode ∉ baseModes := by
      rw [← objection?_eq_none_iff, h]
      exact Option.some_ne_none reason
    obtain ⟨hreason, hclass⟩ := objection?_of_not_mem hmode
    obtain rfl := Option.some.inj (h.symm.trans hreason)
    rcases hclass with hfloat | hinteger
    · rw [if_neg (not_isInteger_of_isFloat hfloat)]
      exact .float hmode hfloat
    · rw [if_pos hinteger]
      exact .integer hmode hinteger
  · intro h
    cases h with
    | float hmode hclass =>
        rw [(objection?_of_not_mem hmode).1, if_neg (not_isInteger_of_isFloat hclass)]
    | integer hmode hclass => rw [(objection?_of_not_mem hmode).1, if_pos hclass]

theorem exists_code_iff {n : Nat} : (∃ mode : Rounding, Coded.code mode = n) ↔ n < 22 := by
  constructor
  · rintro ⟨mode, rfl⟩
    have hall : ∀ mode : Rounding, Coded.code mode < 22 := by decide
    exact hall mode
  · intro hn
    have hall : ∀ n < 22, ∃ mode : Rounding, Coded.code mode = n := by decide
    exact hall n hn

end Rounding

namespace Target

variable {t : Target} {value : UInt32} {legal : List UInt32}

theorem result_checkModifier_round (ht : t.profile = .base) :
    (t.checkModifier .round value legal).result =
      ((Coded.decodeValue Rounding value).result.mapError .contract).bind fun mode =>
        Reason.verdict mode.objection? := by
  have hask := Question.result_ask_of_base (.modifier .round value legal) ht
  rw [Question.objection, Property.modifierObjection, Logged.result_bind_pure,
    except_mapError_map_bind] at hask
  exact hask

theorem checkModifier_round_eq_ok_iff (ht : t.profile = .base) :
    (t.checkModifier .round value legal).result = .ok () ↔
      ∃ mode ∈ Rounding.baseModes, Coded.code mode = value.toNat := by
  simp only [result_checkModifier_round ht, except_bind_eq_ok_iff, except_mapError_eq_ok_iff,
    Coded.decodeValue_eq_ok_iff, Reason.verdict_eq_ok_iff, Rounding.objection?_eq_none_iff,
    and_comm]

theorem checkModifier_round_eq_invalid_iff (ht : t.profile = .base) {reason : Reason} :
    (t.checkModifier .round value legal).result = .error (.invalid reason) ↔
      ∃ mode : Rounding, Coded.code mode = value.toNat ∧ mode.Refused reason := by
  simp [result_checkModifier_round ht, except_bind_eq_error_iff, except_mapError_eq_ok_iff,
    except_mapError_eq_error_iff, Coded.decodeValue_eq_ok_iff, Reason.verdict_eq_error_iff,
    Rounding.objection?_eq_some_iff]

theorem checkModifier_round_eq_contract_iff (ht : t.profile = .base) {v : ContractViolation} :
    (t.checkModifier .round value legal).result = .error (.contract v) ↔
      22 ≤ value.toNat ∧ v = .unknownCode "Round" value.toNat := by
  have hask := Question.ask_eq_contract_iff (q := .modifier .round value legal) (v := v) ht
  rw [Question.objection, Property.modifierObjection, Logged.result_bind_pure,
    except_map_eq_error_iff, Coded.decodeValue_eq_error_iff] at hask
  have hcode : (∀ mode : Rounding, Coded.code mode ≠ value.toNat) ↔ 22 ≤ value.toNat := by
    rw [← Nat.not_lt, ← Rounding.exists_code_iff, not_exists]
  rw [hcode] at hask
  exact hask

theorem checkModifier_ftz_eq_error_iff (ht : t.profile = .base) {e : Error} :
    (t.checkModifier .ftz value legal).result = .error e ↔
      value = 0 ∧ 1 < legal.length ∧ e = .invalid .flushRequired := by
  have hbase : t.profile ≠ .full := by simp [ht]
  rw [checkModifier, if_neg hbase, Property.result_judge, Reason.verdict_eq_error_iff]
  constructor
  · rintro ⟨reason, hreason, rfl⟩
    split at hreason
    case isTrue hasked =>
        obtain rfl := Option.some.inj hreason
        exact ⟨hasked.1, hasked.2, rfl⟩
    case isFalse => cases hreason
  · rintro ⟨hzero, hlength, rfl⟩
    exact ⟨.flushRequired, if_pos ⟨hzero, hlength⟩, rfl⟩

theorem checkModifier_of_other {p : Property} (hround : p ≠ .round) (hftz : p ≠ .ftz) :
    (t.checkModifier p value legal).result = .ok () := by
  unfold checkModifier
  split
  case isTrue => rfl
  case isFalse =>
      cases p with
      | round => exact absurd rfl hround
      | ftz => exact absurd rfl hftz
      | _ => rfl

/-- What a target says about rounding modes and about flushing, on an instruction for which the
values in `legal` exist. -/
structure ModifiersJudged (t : Target) (value : UInt32) (legal : List UInt32) : Prop where
  full (p : Property) : t.profile = .full → (t.checkModifier p value legal).result = .ok ()
  round_unknown_iff (v : ContractViolation) : t.profile = .base →
    ((t.checkModifier .round value legal).result = .error (.contract v) ↔
      22 ≤ value.toNat ∧ v = .unknownCode "Round" value.toNat)
  round_ok_iff : t.profile = .base →
    ((t.checkModifier .round value legal).result = .ok () ↔
      ∃ mode ∈ Rounding.baseModes, Coded.code mode = value.toNat)
  round_float_iff : t.profile = .base →
    ((t.checkModifier .round value legal).result = .error (.invalid .floatRounding) ↔
      ∃ mode : Rounding, Coded.code mode = value.toNat ∧
        mode ∉ Rounding.baseModes ∧ mode.isFloat)
  round_integer_iff : t.profile = .base →
    ((t.checkModifier .round value legal).result = .error (.invalid .integerRounding) ↔
      ∃ mode : Rounding, Coded.code mode = value.toNat ∧
        mode ∉ Rounding.baseModes ∧ mode.isInteger)
  /-- The reason fits the class of the mode, and only that class. -/
  round_reason {reason : Reason} : t.profile = .base →
    (t.checkModifier .round value legal).result = .error (.invalid reason) →
      ∃ mode : Rounding, Coded.code mode = value.toNat ∧
        (reason = .floatRounding ∧ mode.isFloat ∧ ¬ mode.isInteger ∨
          reason = .integerRounding ∧ mode.isInteger ∧ ¬ mode.isFloat)
  /-- Nothing else of the target matters, nor which values exist. -/
  round_congr {t' : Target} {legal' : List UInt32} : t.profile = t'.profile →
    t.checkModifier .round value legal = t'.checkModifier .round value legal'
  ftz_iff (e : Error) : t.profile = .base →
    ((t.checkModifier .ftz value legal).result = .error e ↔
      value = 0 ∧ 1 < legal.length ∧ e = .invalid .flushRequired)
  other {p : Property} : p ≠ .round → p ≠ .ftz →
    (t.checkModifier p value legal).result = .ok ()

theorem modifiersJudged (t : Target) (value : UInt32) (legal : List UInt32) :
    t.ModifiersJudged value legal where
  full p ht := (Question.ask_eq_ok_iff (q := .modifier p value legal)).2 (.inl ht)
  round_unknown_iff v ht := checkModifier_round_eq_contract_iff ht
  round_ok_iff ht := checkModifier_round_eq_ok_iff ht
  round_float_iff ht := by
    simp only [checkModifier_round_eq_invalid_iff ht, Rounding.refused_floatRounding_iff]
  round_integer_iff ht := by
    simp only [checkModifier_round_eq_invalid_iff ht, Rounding.refused_integerRounding_iff]
  round_reason ht h := by
    obtain ⟨mode, hcode, hrefused⟩ := (checkModifier_round_eq_invalid_iff ht).1 h
    refine ⟨mode, hcode, ?_⟩
    cases hrefused with
    | float hmode hclass =>
        exact .inl ⟨rfl, hclass, Rounding.not_isInteger_of_isFloat hclass⟩
    | integer hmode hclass =>
        exact .inr ⟨rfl, hclass, fun hfloat => Rounding.not_isInteger_of_isFloat hfloat hclass⟩
  round_congr hprofile := by
    rw [checkModifier, checkModifier, hprofile]
  ftz_iff e ht := checkModifier_ftz_eq_error_iff ht
  other hround hftz := checkModifier_of_other hround hftz

end Target

end HsaModule
