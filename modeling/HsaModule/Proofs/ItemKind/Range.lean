import HsaModule.ItemKind

namespace HsaModule

namespace ItemRange

variable {r s : ItemRange} {n : Nat}

def all : List ItemRange := [directives, instructions, operands]

def codes (r : ItemRange) : List Nat := List.range' r.first (r.stop - r.first)

def NumberedBy (r : ItemRange) (α : Type) [Coded α] : Prop :=
  (Coded.members (α := α)).map Coded.code = r.codes

theorem contains_iff : r.contains n ↔ r.first ≤ n ∧ n < r.stop := by
  rw [contains, Bool.and_eq_true, decide_eq_true_eq, decide_eq_true_eq]

theorem mem_codes_iff : n ∈ r.codes ↔ r.contains n := by
  rw [codes, List.mem_range'_1, contains_iff]
  omega

theorem NumberedBy.contains_iff_exists {α : Type} [Coded α] [LawfulCoded α]
    (h : r.NumberedBy α) : r.contains n ↔ ∃ a : α, Coded.ofCode? α n = some a := by
  rw [← mem_codes_iff, ← h, List.mem_map]
  simp only [LawfulCoded.ofCode?_eq_some_iff]
  constructor
  · rintro ⟨a, -, ha⟩
    exact ⟨a, ha⟩
  · rintro ⟨a, ha⟩
    exact ⟨a, LawfulCoded.mem_members a, ha⟩

theorem numberedBy_directives : directives.NumberedBy DirectiveKind := by rfl

theorem numberedBy_instructions : instructions.NumberedBy InstructionKind := by rfl

theorem numberedBy_operands : operands.NumberedBy OperandKind := by rfl

theorem not_contains_of_stop_le (h : r.stop ≤ s.first) (hr : r.contains n) : ¬ s.contains n := by
  rw [contains_iff] at hr ⊢
  omega

theorem countP_contains_le_one {ranges : List ItemRange}
    (h : ranges.Pairwise fun r s => r.stop ≤ s.first) (n : Nat) :
    ranges.countP (fun r => r.contains n) ≤ 1 := by
  induction ranges with
  | nil => exact Nat.zero_le 1
  | cons r rest ih =>
      obtain ⟨hbehind, hrest⟩ := List.pairwise_cons.1 h
      by_cases hr : r.contains n
      · have hnone : rest.countP (fun s => s.contains n) = 0 :=
          List.countP_eq_zero.2 fun s hs => not_contains_of_stop_le (hbehind s hs) hr
        refine Nat.le_of_eq ?_
        rw [List.countP_cons, hnone, if_pos hr]
      · rw [List.countP_cons, if_neg hr]
        exact ih hrest

theorem pairwise_all : all.Pairwise fun r s => r.stop ≤ s.first := by
  decide

/-- What a number says as the kind of an item. It is the kind of some sort of item if it lies in the
range of that sort, and of no more than one sort. -/
structure Sorts (n : Nat) : Prop where
  directive_iff :
    directives.contains n ↔ ∃ k : DirectiveKind, Coded.ofCode? DirectiveKind n = some k
  instruction_iff :
    instructions.contains n ↔ ∃ k : InstructionKind, Coded.ofCode? InstructionKind n = some k
  operand_iff : operands.contains n ↔ ∃ k : OperandKind, Coded.ofCode? OperandKind n = some k
  atMostOne : all.countP (fun r => r.contains n) ≤ 1

theorem sorts (n : Nat) : Sorts n where
  directive_iff := numberedBy_directives.contains_iff_exists
  instruction_iff := numberedBy_instructions.contains_iff_exists
  operand_iff := numberedBy_operands.contains_iff_exists
  atMostOne := countP_contains_le_one pairwise_all n

end ItemRange

end HsaModule
