import HsaModule.Item.Directive
import HsaModule.Proofs.Coded.Value
import HsaModule.Proofs.Outcome
import HsaModule.Proofs.Text
import Mathlib.Data.List.Nodup

namespace HsaModule

def DirectiveKind.executables : List DirectiveKind := [kernel, function, indirectFunction]

def DirectiveKind.linked : List DirectiveKind := [fbarrier, var] ++ executables

def DirectiveQuery.answerers : DirectiveQuery → List DirectiveKind
  | name => [.label, .module, .signature] ++ DirectiveKind.linked
  | segment => [.fbarrier, .var]
  | linkage => DirectiveKind.linked
  | isDefinition => DirectiveKind.linked

theorem ExecutableKind.directiveKind_mem (k : ExecutableKind) :
    k.directiveKind ∈ DirectiveKind.executables := by
  cases k <;> decide

theorem ExecutableKind.directiveKind_notMem {kinds : List DirectiveKind}
    (h : ∀ k ∈ DirectiveKind.executables, k ∉ kinds) (k : ExecutableKind) :
    k.directiveKind ∉ kinds :=
  h _ k.directiveKind_mem

variable {α β : Type} {q : DirectiveQuery} {k : DirectiveKind}

/-- What the question comes to with a directive of that kind: an answer from each kind that has one,
from the others a refusal that names the question and the kind. -/
inductive AnsweredByKind (q : DirectiveQuery) (k : DirectiveKind) :
    Except ContractViolation α → Prop
  | answer (a : α) (hk : k ∈ q.answerers) : AnsweredByKind q k (.ok a)
  | refusal (hk : k ∉ q.answerers) : AnsweredByKind q k (.error (.unsupportedDirective q k))

namespace AnsweredByKind

variable {x : Except ContractViolation α}

theorem exists_iff (h : AnsweredByKind q k x) : (∃ a, x = .ok a) ↔ k ∈ q.answerers := by
  cases h with
  | answer a hk => exact iff_of_true ⟨a, rfl⟩ hk
  | refusal hk => exact iff_of_false nofun hk

theorem map (h : AnsweredByKind q k x) (f : α → β) : AnsweredByKind q k (x.map f) := by
  cases h with
  | answer a hk => exact .answer (f a) hk
  | refusal hk => exact .refusal hk

end AnsweredByKind

namespace Directive

theorem answeredByKind_name (d : Directive) : AnsweredByKind .name d.kind d.name := by
  cases d with
  | executable code =>
      have hkinds : DirectiveKind.executables ⊆ DirectiveQuery.name.answerers := by decide
      exact .answer _ (hkinds code.kind.directiveKind_mem)
  | fbarrier | label | module | signature | var =>
      refine .answer _ ?_
      simp [kind, DirectiveQuery.answerers, DirectiveKind.linked]
  | _ =>
      refine .refusal ?_
      simp [kind, DirectiveQuery.answerers, DirectiveKind.linked, DirectiveKind.executables]

theorem answeredByKind_segment (d : Directive) :
    AnsweredByKind .segment d.kind d.segment := by
  cases d with
  | executable code => exact .refusal (code.kind.directiveKind_notMem (by decide))
  | fbarrier | var =>
      refine .answer _ ?_
      simp [kind, DirectiveQuery.answerers]
  | _ =>
      refine .refusal ?_
      simp [kind, DirectiveQuery.answerers]

theorem answeredByKind_linked (d : Directive) :
    AnsweredByKind .linkage d.kind d.linkage ∧
      AnsweredByKind .isDefinition d.kind d.isDefinition := by
  cases d with
  | executable code =>
      have hkind := List.mem_append_right [.fbarrier, .var] code.kind.directiveKind_mem
      exact ⟨.answer _ hkind, .answer _ hkind⟩
  | fbarrier barrier => exact ⟨.answer _ (.head _), .answer _ (.head _)⟩
  | var v => exact ⟨.answer _ (.tail _ (.head _)), .answer _ (.tail _ (.head _))⟩
  | _ =>
      constructor
      all_goals
        refine .refusal ?_
        simp [kind, DirectiveQuery.answerers, DirectiveKind.linked, DirectiveKind.executables]

theorem isDeclaration_eq_ok_iff {d : Directive} {b : Bool} :
    d.isDeclaration = .ok b ↔ d.isDefinition = .ok (!b) := by
  rw [isDeclaration, except_map_eq_ok_iff]
  constructor
  · rintro ⟨c, hc, rfl⟩
    rw [hc, Bool.not_not]
  · intro h
    exact ⟨!b, h, Bool.not_not b⟩

end Directive

namespace DirectiveQuery

def all : List DirectiveQuery := [name, segment, linkage, isDefinition]

theorem mem_all (q : DirectiveQuery) : q ∈ all := by
  cases q <;> decide

theorem labels : all.map label = ["name", "segment", "linkage", "is_definition"] := by
  rfl

theorem nodup_labels : (all.map label).Nodup := by
  rw [labels]
  decide +kernel

theorem label_inj {q q' : DirectiveQuery} (h : q.label = q'.label) : q = q' :=
  List.inj_on_of_nodup_map nodup_labels q.mem_all q'.mem_all h

end DirectiveQuery

namespace DirectiveKind

theorem nodup_nouns : ((Coded.members (α := DirectiveKind)).map noun).Nodup := by
  decide +kernel

theorem noun_inj {k k' : DirectiveKind} (h : k.noun = k'.noun) : k = k' :=
  List.inj_on_of_nodup_map nodup_nouns (LawfulCoded.mem_members k) (LawfulCoded.mem_members k') h

end DirectiveKind

namespace ContractViolation

def quote : Char := '\x60'

theorem quote_notMem_noun : ∀ k : DirectiveKind, quote ∉ k.noun.toList := by
  decide +kernel

theorem quote_notMem_predicate (k : DirectiveKind) :
    quote ∉ (" is not defined for " ++ k.noun ++ " directives").toList := by
  have hfront : quote ∉ " is not defined for ".toList := by decide +kernel
  have hend : quote ∉ " directives".toList := by decide +kernel
  simp only [String.toList_append, List.mem_append, hfront, quote_notMem_noun k, hend, or_self,
    not_false_eq_true]

theorem toList_message_unsupportedDirective (q : DirectiveQuery) (k : DirectiveKind) :
    (unsupportedDirective q k).message.toList =
      ("`" ++ q.label).toList ++
        quote :: (" is not defined for " ++ k.noun ++ " directives").toList := by
  change ("`" ++ q.label ++ ("`" ++ " is not defined for ") ++ k.noun ++ " directives").toList = _
  simp only [String.toList_append, List.append_assoc]
  rfl

theorem message_unsupportedDirective_inj {q q' : DirectiveQuery} {k k' : DirectiveKind}
    (h : (unsupportedDirective q k).message = (unsupportedDirective q' k').message) :
    q = q' ∧ k = k' := by
  have hlists := congrArg String.toList h
  rw [toList_message_unsupportedDirective, toList_message_unsupportedDirective] at hlists
  obtain ⟨hfront, hpredicate⟩ :=
    append_cons_inj_of_last (quote_notMem_predicate k) (quote_notMem_predicate k') hlists
  have hlabel := String.toList_inj.1 hfront
  rw [String.append_right_inj] at hlabel
  have hnoun := String.toList_inj.1 hpredicate
  rw [String.append_left_inj, String.append_right_inj] at hnoun
  exact ⟨DirectiveQuery.label_inj hlabel, DirectiveKind.noun_inj hnoun⟩

example : Directive.argBlockStart.isDeclaration.mapError message =
    .error "`is_definition` is not defined for arg block start directives" := by
  decide +kernel

end ContractViolation

end HsaModule
