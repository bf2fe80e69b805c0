/-!
Closed enumerations whose members are stored as numbers in fields of a fixed width. The lawful ones
list every member once, by ascending code; for those, looking a number up gives a member exactly
when the number is that member's code.
-/

namespace HsaModule

class Coded (α : Type) where
  family : String
  /-- How many numbers fit into the field that stores a member. -/
  capacity : Nat
  members : List α
  code : α → Nat
  label : α → String

namespace Coded

def ofCode? (α : Type) [Coded α] (n : Nat) : Option α :=
  (members (α := α)).find? fun a => code a == n

theorem eq_of_code_eq {α : Type} [Coded α] {l : List α}
    (hl : l.Pairwise fun a b => code a < code b) {a b : α} (ha : a ∈ l) (hb : b ∈ l)
    (h : code a = code b) : a = b := by
  induction l with
  | nil => cases ha
  | cons x l ih =>
      obtain ⟨hx, hl⟩ := List.pairwise_cons.1 hl
      rcases List.mem_cons.1 ha with rfl | ha' <;> rcases List.mem_cons.1 hb with rfl | hb'
      · rfl
      · have := hx b hb'
        omega
      · have := hx a ha'
        omega
      · exact ih hl ha' hb'

end Coded

open Coded

class LawfulCoded (α : Type) [Coded α] : Prop where
  mem_members (a : α) : a ∈ members (α := α)
  ascending : (members (α := α)).Pairwise fun a b => code a < code b
  code_lt : ∀ a ∈ members (α := α), code a < capacity α

namespace LawfulCoded

variable {α : Type} [Coded α] [LawfulCoded α]

theorem code_lt_capacity (a : α) : code a < capacity α :=
  code_lt a (mem_members a)

theorem code_injective {a b : α} (h : code a = code b) : a = b :=
  eq_of_code_eq ascending (mem_members a) (mem_members b) h

theorem ofCode?_eq_some_iff {n : Nat} {a : α} : ofCode? α n = some a ↔ code a = n := by
  constructor
  · intro h
    simpa using List.find?_some h
  · rintro rfl
    cases h : ofCode? α (code a) with
    | none =>
        have := List.find?_eq_none.1 h a (mem_members a)
        simp at this
    | some b =>
        have hb : code b = code a := by simpa using List.find?_some h
        rw [code_injective hb]

theorem ofCode?_code (a : α) : ofCode? α (code a) = some a :=
  ofCode?_eq_some_iff.2 rfl

theorem ofCode?_eq_none_iff {n : Nat} : ofCode? α n = none ↔ ∀ a : α, code a ≠ n := by
  simp [Option.eq_none_iff_forall_ne_some, ofCode?_eq_some_iff]

end LawfulCoded

end HsaModule
