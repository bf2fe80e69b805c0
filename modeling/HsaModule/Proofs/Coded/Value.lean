import HsaModule.Coded.Decode
import HsaModule.Proofs.Outcome

namespace HsaModule

theorem Logged.result_bind_pure {ε α β : Type} (x : Logged ε α) (f : α → β) :
    (x >>= fun a => pure (f a)).result = x.result.map f := by
  rw [result_bind]
  rfl

namespace Coded

theorem result_decodeValue? {α : Type} [Coded α] (value : UInt32) :
    (decodeValue? α value).result =
      if value = 0 then .ok none else (decodeValue α value).result.map some := by
  rw [decodeValue?]
  split
  case isTrue => rfl
  case isFalse => exact Logged.result_bind_pure (decodeValue α value) some

theorem decodeValue?_eq_ok_none_iff {α : Type} [Coded α] {value : UInt32} :
    (decodeValue? α value).result = .ok none ↔ value = 0 := by
  rw [result_decodeValue?]
  split
  case isTrue hzero => exact iff_of_true rfl hzero
  case isFalse hvalue =>
      refine iff_of_false ?_ hvalue
      intro h
      obtain ⟨a, -, hsome⟩ := except_map_eq_ok_iff.1 h
      cases hsome

variable {α : Type} [Coded α] [LawfulCoded α]

/-- What is said of every member can be checked on the list of them. -/
instance decidableForall (P : α → Prop) [DecidablePred P] : Decidable (∀ a, P a) :=
  decidable_of_iff (∀ a ∈ members (α := α), P a)
    ⟨fun h a => h a (LawfulCoded.mem_members a), fun h a _ => h a⟩

instance decidableExists (P : α → Prop) [DecidablePred P] : Decidable (∃ a, P a) :=
  decidable_of_iff (∃ a ∈ members (α := α), P a)
    ⟨fun ⟨a, _, ha⟩ => ⟨a, ha⟩, fun ⟨a, ha⟩ => ⟨a, LawfulCoded.mem_members a, ha⟩⟩

theorem decode_eq_ok_iff {n : Nat} {a : α} : (decode α n).result = .ok a ↔ code a = n := by
  rw [← LawfulCoded.ofCode?_eq_some_iff, decode]
  cases ofCode? α n with
  | none => simp
  | some b => simp

theorem decode_eq_error_iff {n : Nat} {v : ContractViolation} :
    (decode α n).result = .error v ↔
      (∀ a : α, code a ≠ n) ∧ v = .unknownCode (family α) n := by
  rw [← LawfulCoded.ofCode?_eq_none_iff, decode]
  cases ofCode? α n with
  | none => simp [eq_comm]
  | some b => simp

/-- How wide the field is matters for what is logged, but not for the result. -/
theorem result_decodeValue (value : UInt32) :
    (decodeValue α value).result = (decode α value.toNat).result := by
  rw [decodeValue]
  split
  case isTrue => rfl
  case isFalse hwide =>
      symm
      refine decode_eq_error_iff.2 ⟨?_, rfl⟩
      intro a ha
      exact hwide (ha ▸ LawfulCoded.code_lt_capacity a)

theorem decodeValue_eq_ok_iff {value : UInt32} {a : α} :
    (decodeValue α value).result = .ok a ↔ code a = value.toNat := by
  rw [result_decodeValue, decode_eq_ok_iff]

theorem decodeValue_eq_error_iff {value : UInt32} {v : ContractViolation} :
    (decodeValue α value).result = .error v ↔
      (∀ a : α, code a ≠ value.toNat) ∧ v = .unknownCode (family α) value.toNat := by
  rw [result_decodeValue, decode_eq_error_iff]

example : (decodeValue DataType 0x10003).result = .error (.unknownCode "TypeCode" 0x10003) := by
  rfl

theorem decodeValue?_eq_ok_some_iff (hpos : ∀ a : α, code a ≠ 0) {value : UInt32} {a : α} :
    (decodeValue? α value).result = .ok (some a) ↔ code a = value.toNat := by
  rw [result_decodeValue?]
  split
  case isTrue hzero =>
      subst hzero
      exact iff_of_false nofun (hpos a)
  case isFalse =>
      rw [except_map_eq_ok_iff]
      simp only [Option.some.injEq, exists_eq_right, decodeValue_eq_ok_iff]

theorem decodeValue?_eq_error_iff {value : UInt32} {v : ContractViolation} :
    (decodeValue? α value).result = .error v ↔
      value ≠ 0 ∧ (∀ a : α, code a ≠ value.toNat) ∧
        v = .unknownCode (family α) value.toNat := by
  rw [result_decodeValue?]
  split
  case isTrue hzero => exact iff_of_false nofun fun h => h.1 hzero
  case isFalse hvalue =>
      rw [except_map_eq_error_iff, decodeValue_eq_error_iff, and_iff_right hvalue]

end Coded

end HsaModule
