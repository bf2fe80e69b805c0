import HsaModule.Item.Operand
import HsaModule.Proofs.Item.Question
import HsaModule.Proofs.ItemKind.Range

namespace HsaModule

section

variable {ι κ α : Type} {kind : ι → κ} {kinds : List κ} {make : α → ι} {narrow : ι → Option α}

/-- The narrowing gives back what an item was made from, for the items of these kinds and for no
others. -/
structure Narrows (kind : ι → κ) (kinds : List κ) (make : α → ι) (narrow : ι → Option α) :
    Prop where
  some_iff (i : ι) (a : α) : narrow i = some a ↔ i = make a
  isSome_iff (i : ι) : (narrow i).isSome ↔ kind i ∈ kinds

theorem narrows_of_made (hmade : ∀ a, narrow (make a) = some a ∧ kind (make a) ∈ kinds)
    (hother : ∀ i, (∃ a, i = make a) ∨ narrow i = none ∧ kind i ∉ kinds) :
    Narrows kind kinds make narrow where
  some_iff i a := by
    constructor
    · intro h
      rcases hother i with ⟨b, rfl⟩ | ⟨hnone, -⟩
      · rw [(hmade b).1] at h
        rw [Option.some.inj h]
      · rw [hnone] at h
        cases h
    · rintro rfl
      exact (hmade a).1
  isSome_iff i := by
    rcases hother i with ⟨b, rfl⟩ | ⟨hnone, hkind⟩
    · rw [(hmade b).1]
      exact iff_of_true rfl (hmade b).2
    · rw [hnone]
      exact iff_of_false nofun hkind

end

namespace Directive

theorem narrows_toVariable? : Narrows kind [.var] var toVariable? := by
  refine narrows_of_made (fun v => ⟨rfl, .head _⟩) ?_
  intro d
  cases d with
  | var v => exact .inl ⟨v, rfl⟩
  | executable code => exact .inr ⟨rfl, code.kind.directiveKind_notMem (by decide)⟩
  | _ => exact .inr ⟨rfl, by simp [kind]⟩

theorem narrows_toControl? :
    Narrows kind [.control] (fun c => control c.1 c.2) toControl? := by
  refine narrows_of_made (fun c => ⟨rfl, .head _⟩) ?_
  intro d
  cases d with
  | control c operands => exact .inl ⟨(c, operands), rfl⟩
  | executable code => exact .inr ⟨rfl, code.kind.directiveKind_notMem (by decide)⟩
  | _ => exact .inr ⟨rfl, by simp [kind]⟩

theorem narrows_toExecutable? :
    Narrows kind DirectiveKind.executables executable toExecutable? := by
  refine narrows_of_made (fun code => ⟨rfl, code.kind.directiveKind_mem⟩) ?_
  intro d
  cases d with
  | executable code => exact .inl ⟨code, rfl⟩
  | _ => exact .inr ⟨rfl, by simp [kind, DirectiveKind.executables]⟩

structure KnownByKind : Prop where
  toVariable : Narrows kind [.var] var toVariable?
  toControl : Narrows kind [.control] (fun c => control c.1 c.2) toControl?
  /-- A signature has the form of code, but its kind is none of these. -/
  toExecutable : Narrows kind [.kernel, .function, .indirectFunction] executable toExecutable?
  name (d : Directive) : AnsweredByKind .name d.kind d.name
  segment (d : Directive) : AnsweredByKind .segment d.kind d.segment
  linkage (d : Directive) : AnsweredByKind .linkage d.kind d.linkage
  isDefinition (d : Directive) : AnsweredByKind .isDefinition d.kind d.isDefinition
  isDeclaration (d : Directive) : AnsweredByKind .isDefinition d.kind d.isDeclaration
  isDeclaration_iff (d : Directive) (b : Bool) :
    d.isDeclaration = .ok b ↔ d.isDefinition = .ok (!b)
  isDefinition_iff_linkage (d : Directive) :
    (∃ b, d.isDefinition = .ok b) ↔ ∃ l, d.linkage = .ok l
  linkage_of_segment (d : Directive) : (∃ s, d.segment = .ok s) → ∃ l, d.linkage = .ok l
  name_of_linkage (d : Directive) : (∃ l, d.linkage = .ok l) → ∃ n, d.name = .ok n

theorem knownByKind : KnownByKind where
  toVariable := narrows_toVariable?
  toControl := narrows_toControl?
  toExecutable := narrows_toExecutable?
  name := answeredByKind_name
  segment := answeredByKind_segment
  linkage d := d.answeredByKind_linked.1
  isDefinition d := d.answeredByKind_linked.2
  isDeclaration d := d.answeredByKind_linked.2.map _
  isDeclaration_iff d b := isDeclaration_eq_ok_iff
  isDefinition_iff_linkage d := by
    rw [d.answeredByKind_linked.1.exists_iff, d.answeredByKind_linked.2.exists_iff]
    rfl
  linkage_of_segment d := by
    rw [d.answeredByKind_segment.exists_iff, d.answeredByKind_linked.1.exists_iff]
    exact fun h => List.mem_append_left _ h
  name_of_linkage d := by
    rw [d.answeredByKind_linked.1.exists_iff, d.answeredByKind_name.exists_iff]
    exact fun h => List.mem_append_right _ h

end Directive

namespace Operand

theorem exists_kind_iff {k : OperandKind} : (∃ o : Operand, o.kind = k) ↔ k ≠ .reserved := by
  constructor
  · rintro ⟨o, rfl⟩ hreserved
    cases o <;> cases hreserved
  · intro hk
    cases k with
    | reserved => exact absurd rfl hk
    | address => exact ⟨.address ⟨none, none, 0⟩, rfl⟩
    | align => exact ⟨.align .unspecified, rfl⟩
    | codeList => exact ⟨.codeList [], rfl⟩
    | codeRef => exact ⟨.codeRef .argBlockEnd, rfl⟩
    | constantBytes => exact ⟨.constantBytes ⟨.u32, []⟩, rfl⟩
    | constantImage => exact ⟨.constantImage .u32, rfl⟩
    | constantOperandList => exact ⟨.constantList [], rfl⟩
    | constantSampler => exact ⟨.constantSampler .u32, rfl⟩
    | operandList => exact ⟨.operandList [], rfl⟩
    | register => exact ⟨.register ⟨.control, 0⟩, rfl⟩
    | string => exact ⟨.string "", rfl⟩
    | waveSize => exact ⟨.waveSize, rfl⟩

theorem narrows_toAddress? : Narrows kind [.address] address toAddress? := by
  refine narrows_of_made (fun place => ⟨rfl, .head _⟩) ?_
  intro o
  cases o with
  | address place => exact .inl ⟨place, rfl⟩
  | _ => exact .inr ⟨rfl, by simp [kind]⟩

theorem narrows_toRegister? : Narrows kind [.register] register toRegister? := by
  refine narrows_of_made (fun r => ⟨rfl, .head _⟩) ?_
  intro o
  cases o with
  | register r => exact .inl ⟨r, rfl⟩
  | _ => exact .inr ⟨rfl, by simp [kind]⟩

theorem narrows_toConstant? : Narrows kind [.constantBytes] constantBytes toConstant? := by
  refine narrows_of_made (fun c => ⟨rfl, .head _⟩) ?_
  intro o
  cases o with
  | constantBytes c => exact .inl ⟨c, rfl⟩
  | _ => exact .inr ⟨rfl, by simp [kind]⟩

theorem narrows_target? : Narrows kind [.codeRef] codeRef target? := by
  refine narrows_of_made (fun target => ⟨rfl, .head _⟩) ?_
  intro o
  cases o with
  | codeRef target => exact .inl ⟨target, rfl⟩
  | _ => exact .inr ⟨rfl, by simp [kind]⟩

theorem isWaveSize_iff {o : Operand} : o.isWaveSize ↔ o.kind = .waveSize := by
  cases o with
  | waveSize => exact iff_of_true rfl rfl
  | _ => exact iff_of_false nofun nofun

theorem refersTo_iff {o : Operand} {k : DirectiveKind} :
    o.refersTo k ↔ ∃ d, o = .codeRef d ∧ d.kind = k := by
  rw [refersTo, Option.any_eq_true]
  simp only [narrows_target?.some_iff, beq_iff_eq]

structure KnownByKind : Prop where
  exists_iff (k : OperandKind) : (∃ o : Operand, o.kind = k) ↔ k ≠ .reserved
  toAddress : Narrows kind [.address] address toAddress?
  toRegister : Narrows kind [.register] register toRegister?
  toConstant : Narrows kind [.constantBytes] constantBytes toConstant?
  target : Narrows kind [.codeRef] codeRef target?
  isWaveSize_iff (o : Operand) : o.isWaveSize ↔ o.kind = .waveSize
  refersTo_iff (o : Operand) (k : DirectiveKind) :
    o.refersTo k ↔ ∃ d, o = .codeRef d ∧ d.kind = k

theorem knownByKind : KnownByKind where
  exists_iff _ := exists_kind_iff
  toAddress := narrows_toAddress?
  toRegister := narrows_toRegister?
  toConstant := narrows_toConstant?
  target := narrows_target?
  isWaveSize_iff _ := Operand.isWaveSize_iff
  refersTo_iff _ _ := Operand.refersTo_iff

end Operand

/-- Every item is known by its kind, from the stored number on. A directive that has no answer is
refused in words that tell its kind and the question, which is called by its own name. -/
theorem items_knownByKind :
    (∀ n, ItemRange.Sorts n) ∧ Directive.KnownByKind ∧ Operand.KnownByKind ∧
      DirectiveQuery.all.map DirectiveQuery.label =
        ["name", "segment", "linkage", "is_definition"] ∧
      ∀ (q q' : DirectiveQuery) (k k' : DirectiveKind),
        (ContractViolation.unsupportedDirective q k).message =
          (ContractViolation.unsupportedDirective q' k').message → q = q' ∧ k = k' := by
  refine ⟨ItemRange.sorts, Directive.knownByKind, Operand.knownByKind, DirectiveQuery.labels, ?_⟩
  intro q q' k k' h
  exact ContractViolation.message_unsupportedDirective_inj h

end HsaModule
