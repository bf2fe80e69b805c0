import HsaModule.Proofs.Legality.Question

namespace HsaModule

/-- A verdict about something stored that follows from what reads of it give: malformed if it
cannot be read, refused if something is stored that is refused, and otherwise passed. -/
structure Mirrors {α : Type} (refuses : α → Reason → Prop)
    (stored : Except ContractViolation (Option α)) (verdict : Except Error Unit) : Prop where
  contract_iff (v : ContractViolation) : verdict = .error (.contract v) ↔ stored = .error v
  invalid_iff (reason : Reason) : verdict = .error (.invalid reason) ↔
    ∃ a, stored = .ok (some a) ∧ refuses a reason
  ok_iff : verdict = .ok () ↔
    stored = .ok none ∨ ∃ a, stored = .ok (some a) ∧ ∀ reason, ¬ refuses a reason

theorem mirrors_error {α : Type} (refuses : α → Reason → Prop) (v : ContractViolation) :
    Mirrors refuses (.error v) (.error (.contract v)) where
  contract_iff v' := by simp
  invalid_iff reason := by simp
  ok_iff := by simp

theorem mirrors_none {α : Type} (refuses : α → Reason → Prop) :
    Mirrors refuses (.ok none) (.ok ()) where
  contract_iff v := by simp
  invalid_iff reason := by simp
  ok_iff := by simp

theorem mirrors_some {α : Type} {objection? : α → Option Reason} {refuses : α → Reason → Prop}
    (h : ∀ a reason, objection? a = some reason ↔ refuses a reason) (a : α) :
    Mirrors refuses (.ok (some a)) (Reason.verdict (objection? a)) where
  contract_iff v := by simp [Reason.verdict_eq_error_iff]
  invalid_iff reason := by simp [Reason.verdict_eq_error_iff, h]
  ok_iff := by simp [Reason.verdict_eq_ok_iff, Option.eq_none_iff_forall_ne_some, h]

theorem mirrors_verdict {α : Type} {objection? : α → Option Reason} {refuses : α → Reason → Prop}
    (h : ∀ a reason, objection? a = some reason ↔ refuses a reason)
    (stored : Except ContractViolation (Option α)) :
    Mirrors refuses stored
      ((stored.mapError Error.contract).bind fun a? => Reason.verdict (a?.bind objection?)) := by
  cases stored with
  | error v => exact mirrors_error refuses v
  | ok a? =>
      cases a? with
      | none => exact mirrors_none refuses
      | some a => exact mirrors_some h a

namespace Target

variable {t : Target} (i : Instruction) {p : Property}

theorem result_checkInstruction_of_base (ht : t.profile = .base) :
    (t.checkInstruction i p).result =
      ((p.objection (i.valueOr p 0)).result.mapError .contract).bind fun o =>
        Reason.verdict (o t) :=
  Question.result_ask_of_base (.instruction i p) ht

theorem result_checkInstruction_of_full (ht : t.profile = .full) :
    (t.checkInstruction i p).result = .ok () :=
  (Question.ask_eq_ok_iff (q := .instruction i p)).2 (.inl ht)

theorem mirrors_checkInstruction_type (ht : t.profile = .base) (hp : p.isType) :
    Mirrors t.RefusesType (i.attribute? DataType p).result (t.checkInstruction i p).result := by
  rw [result_checkInstruction_of_base i ht, Property.objection, if_pos hp,
    Logged.result_bind_pure, except_mapError_map_bind]
  exact mirrors_verdict (fun _ _ => typeObjection?_eq_some_iff) (i.attribute? DataType p).result

theorem mirrors_checkInstruction_scope (ht : t.profile = .base) :
    Mirrors t.RefusesScope i.imageScope?.result
      (t.checkInstruction i .imageSegmentMemoryScope).result := by
  have htype : ¬ Property.imageSegmentMemoryScope.isType := by decide
  rw [result_checkInstruction_of_base i ht, Property.objection, if_neg htype, if_pos rfl,
    Logged.result_bind_pure, except_mapError_map_bind]
  exact mirrors_verdict (fun _ _ => scopeObjection?_eq_some_iff) i.imageScope?.result

theorem result_checkInstruction_of_other (htype : ¬ p.isType)
    (hscope : p ≠ .imageSegmentMemoryScope) : (t.checkInstruction i p).result = .ok () := by
  have hobjection : (p.objection (i.valueOr p 0)).result = .ok fun _ => none := by
    rw [Property.objection, if_neg htype, if_neg hscope]
    rfl
  exact (Question.ask_eq_ok_iff (q := .instruction i p)).2 (.inr ⟨_, hobjection, rfl⟩)

end Target

namespace Instruction

def typeAttributes (i : Instruction) :
    List (Property × Logged ContractViolation (Option DataType)) :=
  [(.type, i.resultType?), (.sourceType, i.sourceType?), (.coordType, i.coordinateType?),
    (.signalType, i.signalType?), (.imageType, i.imageType?)]

theorem mem_typeAttributes_iff {i : Instruction} {p : Property}
    {stored : Logged ContractViolation (Option DataType)} :
    (p, stored) ∈ i.typeAttributes ↔ p.isType ∧ stored = i.attribute? DataType p := by
  constructor
  · intro h
    simp only [typeAttributes, List.mem_cons, Prod.mk.injEq, List.not_mem_nil, or_false] at h
    rcases h with ⟨rfl, rfl⟩ | ⟨rfl, rfl⟩ | ⟨rfl, rfl⟩ | ⟨rfl, rfl⟩ | ⟨rfl, rfl⟩ <;>
      exact ⟨rfl, rfl⟩
  · rintro ⟨hp, rfl⟩
    cases p with
    | type => exact .head _
    | sourceType => exact .tail _ (.head _)
    | coordType => exact .tail _ (.tail _ (.head _))
    | signalType => exact .tail _ (.tail _ (.tail _ (.head _)))
    | imageType => exact .tail _ (.tail _ (.tail _ (.tail _ (.head _))))
    | _ => cases hp

structure CheckedAsRead (i : Instruction) (t : Target) : Prop where
  type {p : Property} {stored : Logged ContractViolation (Option DataType)} :
    t.profile = .base → (p, stored) ∈ i.typeAttributes →
      Mirrors t.RefusesType stored.result (t.checkInstruction i p).result
  scope : t.profile = .base →
    Mirrors t.RefusesScope i.imageScope?.result
      (t.checkInstruction i .imageSegmentMemoryScope).result
  other {p : Property} : p ∉ i.typeAttributes.map Prod.fst → p ≠ .imageSegmentMemoryScope →
    (t.checkInstruction i p).result = .ok ()
  full (p : Property) : t.profile = .full → (t.checkInstruction i p).result = .ok ()

theorem checkedAsRead (i : Instruction) (t : Target) : i.CheckedAsRead t where
  type ht hmem := by
    obtain ⟨hp, rfl⟩ := mem_typeAttributes_iff.1 hmem
    exact Target.mirrors_checkInstruction_type i ht hp
  scope ht := Target.mirrors_checkInstruction_scope i ht
  other hp hscope := by
    apply Target.result_checkInstruction_of_other i _ hscope
    intro htype
    exact hp (List.mem_map.2 ⟨(_, _), mem_typeAttributes_iff.2 ⟨htype, rfl⟩, rfl⟩)
  full p ht := Target.result_checkInstruction_of_full i ht

/-- One type is refused, one cannot be read, one is absent, and what is not a type does not
matter; the type and a scope that are refused pass once images are enabled. -/
theorem checkedAsRead_load :
    let i : Instruction := {
      opcode := .ld
      kind := .mem
      property
        | .type => some 19
        | .sourceType => some 0x7f
        | .segment => some 0xff
        | .imageSegmentMemoryScope => some 3
        | _ => none
      operands := [] }
    let t : Target := { model := .small, profile := .base }
    let t' := t.extend .image
    (t.checkInstruction i .type).result = .error (.invalid .imageTypeNeedsExtension) ∧
      (t.checkInstruction i .sourceType).result =
        .error (.contract (.unknownCode "TypeCode" 0x7f)) ∧
      (t.checkInstruction i .signalType).result = .ok () ∧
      (t.checkInstruction i .segment).result = .ok () ∧
      (t.checkInstruction i .imageSegmentMemoryScope).result =
        .error (.invalid .imageScopeNeedsExtension) ∧
      ¬ t.extensions.Has 0 ∧ t'.extensions.Has 0 ∧ t'.profile = .base ∧
      (t'.checkInstruction i .type).result = .ok () ∧
      (t'.checkInstruction i .imageSegmentMemoryScope).result = .ok () := by
  intro i t t'
  have hread := checkedAsRead i t
  have hread' := checkedAsRead i t'
  have hoff : ¬ t.extensions.Has 0 := by decide
  have hon : t'.extensions.Has 0 := by decide
  refine ⟨?_, ?_, ?_, hread.other (by decide) (by decide), ?_, hoff, hon, rfl, ?_, ?_⟩
  · have htype := hread.type rfl (.head _)
    exact (htype.invalid_iff _).2 ⟨.readOnlyImage, rfl, .image (.inl rfl) hoff⟩
  · have hsource := hread.type rfl (.tail _ (.head _))
    exact (hsource.contract_iff _).2 rfl
  · have hsignal := hread.type rfl (.tail _ (.tail _ (.tail _ (.head _))))
    exact hsignal.ok_iff.2 (.inl rfl)
  · exact ((hread.scope rfl).invalid_iff _).2 ⟨.workGroup, rfl, .image hoff⟩
  · have htype := hread'.type rfl (.head _)
    refine htype.ok_iff.2 (.inr ⟨.readOnlyImage, rfl, ?_⟩)
    intro reason hrefused
    cases hrefused with
    | image _ himage => exact himage hon
    | double hdouble => exact absurd hdouble (by decide)
  · refine (hread'.scope rfl).ok_iff.2 (.inr ⟨.workGroup, rfl, ?_⟩)
    intro reason hrefused
    cases hrefused with
    | image himage => exact himage hon

end Instruction

end HsaModule
