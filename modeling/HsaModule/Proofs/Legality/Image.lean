import HsaModule.Proofs.Legality.Attribute

namespace HsaModule

theorem Target.RefusesType.needsImage {t t' : Target} {type : DataType} {reason : Reason}
    (h : t.RefusesType type reason) (h' : ¬ t'.RefusesType type reason)
    (hmodel : t.model = t'.model) : type.needsImage := by
  cases h with
  | image htype himage => exact DataType.needsImage_iff.2 htype
  | double htype => exact absurd (.double htype) h'
  | signal64 hsmall => exact absurd (.signal64 (hmodel.symm.trans hsmall)) h'
  | signal32 hlarge => exact absurd (.signal32 (hmodel.symm.trans hlarge)) h'

namespace Instruction

def typeReads (i : Instruction) : List (Except ContractViolation (Option DataType)) :=
  [i.resultType?.result, i.sourceType?.result, i.imageType?.result]

theorem result_needsImage {i : Instruction} (hopcode : ¬ i.opcode.isImage) :
    i.needsImage.result = (i.typeReads.mapM id).bind fun types =>
      if types.any fun t => t.any DataType.needsImage then .ok true
      else (if i.kind = .memFence then i.imageScope?.result else .ok none).bind fun scope =>
        .ok (scope.isSome || i.addressesImage) := by
  rw [needsImage, if_neg hopcode, Logged.result_bind, typeReads]
  -- a read that fails ends both sides, so they are compared behind one read after the other
  cases i.resultType?.result with
  | error v => rfl
  | ok result =>
      change (i.sourceType? >>= _).result = _
      rw [Logged.result_bind]
      cases i.sourceType?.result with
      | error v => rfl
      | ok source =>
          change (i.imageType? >>= _).result = _
          rw [Logged.result_bind]
          cases i.imageType?.result with
          | error v => rfl
          | ok image =>
              change Logged.result (ite _ _ _) =
                if [result, source, image].any fun t => t.any DataType.needsImage then _ else _
              by_cases htypes : [result, source, image].any fun t => t.any DataType.needsImage
              · rw [if_pos htypes, if_pos htypes]
                rfl
              · rw [if_neg htypes, if_neg htypes]
                by_cases hkind : i.kind = .memFence
                · simp only [if_pos hkind, Logged.result_bind]
                  rfl
                · simp only [if_neg hkind]
                  rfl

structure ImageFree (i : Instruction) : Prop where
  opcode : ¬ i.opcode.isImage
  type {p : Property} : p ∈ [.type, .sourceType, .imageType] →
    ∃ type?, (i.attribute? DataType p).result = .ok type? ∧ ¬ type?.any DataType.needsImage
  scope : i.kind = .memFence → i.imageScope?.result = .ok none
  operands : ¬ i.addressesImage

theorem imageFree_of_needsImage {i : Instruction} (h : i.needsImage.result = .ok false) :
    i.ImageFree := by
  by_cases hopcode : i.opcode.isImage
  · rw [needsImage, if_pos hopcode] at h
    cases h
  rw [result_needsImage hopcode, except_bind_eq_ok_iff] at h
  obtain ⟨types, hread, h⟩ := h
  by_cases htypes : types.any fun t => t.any DataType.needsImage
  · rw [if_pos htypes] at h
    cases h
  rw [if_neg htypes, except_bind_eq_ok_iff] at h
  obtain ⟨scope, hscope, h⟩ := h
  obtain ⟨hnoScope, hoperands⟩ := Bool.or_eq_false_iff.1 (Except.ok.inj h)
  refine ⟨hopcode, ?_, ?_, Bool.eq_false_iff.1 hoperands⟩
  · intro p hp
    have hmem : (i.attribute? DataType p).result ∈ i.typeReads :=
      List.mem_map_of_mem (f := fun p => (i.attribute? DataType p).result) hp
    rw [eq_map_ok_of_mapM_id hread] at hmem
    obtain ⟨type?, hmem, hok⟩ := List.mem_map.1 hmem
    exact ⟨type?, hok.symm, fun htype => htypes (List.any_eq_true.2 ⟨type?, hmem, htype⟩)⟩
  · intro hkind
    obtain rfl := Option.isNone_iff_eq_none.1 (Option.isSome_eq_false_iff.1 hnoScope)
    rwa [if_pos hkind] at hscope

/-- The check of a property passes on this machine model only thanks to images. -/
structure ImageDecides (i : Instruction) (p : Property) (model : MachineModel) : Prop where
  refused : ∃ reason, (({ model, profile := .base } : Target).checkInstruction i p).result =
    .error (.invalid reason)
  allowed :
    ((({ model, profile := .base } : Target).extend .image).checkInstruction i p).result = .ok ()

theorem ImageDecides.type {i : Instruction} {p : Property} {model : MachineModel}
    (h : i.ImageDecides p model) (hp : p.isType) :
    ∃ type, (i.attribute? DataType p).result = .ok (some type) ∧ type.needsImage := by
  obtain ⟨reason, hrefused⟩ := h.refused
  obtain ⟨type, hread, hrefuses⟩ :=
    ((Target.mirrors_checkInstruction_type i rfl hp).invalid_iff reason).1 hrefused
  rcases (Target.mirrors_checkInstruction_type i rfl hp).ok_iff.1 h.allowed with
    hnone | ⟨type', hread', hpermits⟩
  · rw [hread] at hnone
    cases hnone
  · rw [hread] at hread'
    obtain rfl := Option.some.inj (Except.ok.inj hread')
    exact ⟨type, hread, hrefuses.needsImage (hpermits reason) rfl⟩

theorem ImageDecides.scope {i : Instruction} {model : MachineModel}
    (h : i.ImageDecides .imageSegmentMemoryScope model) :
    ∃ scope, i.imageScope?.result = .ok (some scope) := by
  obtain ⟨reason, hrefused⟩ := h.refused
  obtain ⟨scope, hread, -⟩ :=
    ((Target.mirrors_checkInstruction_scope i rfl).invalid_iff reason).1 hrefused
  exact ⟨scope, hread⟩

structure SameBut (p : Property) (i j : Instruction) : Prop where
  opcode : j.opcode = i.opcode
  kind : j.kind = i.kind
  operands : j.operands = i.operands
  property (q : Property) : q ≠ p → j.property q = i.property q

theorem attribute?_congr (α : Type) [Coded α] {p : Property} {i j : Instruction}
    (h : j.property p = i.property p) : j.attribute? α p = i.attribute? α p := by
  rw [Instruction.attribute?, Instruction.attribute?, valueOr, valueOr, h]

/-- The properties that are looked at for images, which on a fence include the scope for the image
segment. -/
def imageProperties (i : Instruction) : List Property :=
  if i.kind = .memFence then [.type, .sourceType, .imageType, .imageSegmentMemoryScope]
  else [.type, .sourceType, .imageType]

theorem needsImage_eq_of_agree {i j : Instruction} (hopcode : j.opcode = i.opcode)
    (hkind : j.kind = i.kind) (hoperands : j.addressesImage = i.addressesImage)
    (hproperty : ∀ p ∈ i.imageProperties, j.property p = i.property p) :
    j.needsImage = i.needsImage := by
  have htypes : ∀ p ∈ [.type, .sourceType, .imageType], p ∈ i.imageProperties := by
    intro p hp
    rw [imageProperties]
    split
    · exact List.mem_append_left [.imageSegmentMemoryScope] hp
    · exact hp
  have hresult : j.resultType? = i.resultType? :=
    attribute?_congr DataType (hproperty _ (htypes _ (by decide)))
  have hsource : j.sourceType? = i.sourceType? :=
    attribute?_congr DataType (hproperty _ (htypes _ (by decide)))
  have himage : j.imageType? = i.imageType? :=
    attribute?_congr DataType (hproperty _ (htypes _ (by decide)))
  rw [needsImage, needsImage, hopcode, hkind, hresult, hsource, himage, hoperands]
  by_cases hfence : i.kind = .memFence
  · have hscope : j.imageScope? = i.imageScope? := by
      apply attribute?_congr MemoryScope
      apply hproperty
      rw [imageProperties, if_pos hfence]
      decide
    rw [hscope]
  · rw [if_neg hfence, if_neg hfence]

theorem needsImage_congr {i j : Instruction} (h : SameBut .imageSegmentMemoryScope i j)
    (hkind : i.kind ≠ .memFence) : j.needsImage = i.needsImage := by
  apply needsImage_eq_of_agree h.opcode h.kind
  · rw [addressesImage, addressesImage, h.operands]
  · intro p hp
    rw [imageProperties, if_neg hkind] at hp
    apply h.property
    rintro rfl
    exact absurd hp (by decide)

/-- How far the answer for an instruction as a whole goes with the checks of its properties. For
the scope, the kind of the instruction decides: other instructions than fences may carry one, and
it is not even read. -/
structure NoticesImages (i : Instruction) : Prop where
  decided {p : Property} {model : MachineModel} : p ≠ .coordType → p ≠ .signalType →
    (p = .imageSegmentMemoryScope → i.kind = .memFence) → i.ImageDecides p model →
      i.needsImage.result ≠ .ok false
  scope {j : Instruction} : i.kind ≠ .memFence → SameBut .imageSegmentMemoryScope i j →
    j.needsImage = i.needsImage

theorem ImageFree.not_imageDecides {i : Instruction} {p : Property} {model : MachineModel}
    (h : i.ImageFree) (hcoord : p ≠ .coordType) (hsignal : p ≠ .signalType)
    (hfence : p = .imageSegmentMemoryScope → i.kind = .memFence) : ¬ i.ImageDecides p model := by
  intro hdecides
  by_cases htype : p.isType
  · have hlisted : p ∈ [.type, .sourceType, .imageType] := by
      cases p with
      | coordType => exact absurd rfl hcoord
      | signalType => exact absurd rfl hsignal
      | type | sourceType | imageType => decide
      | _ => cases htype
    obtain ⟨type, hread, himage⟩ := hdecides.type htype
    obtain ⟨type?, hread', hfree⟩ := h.type hlisted
    rw [hread] at hread'
    obtain rfl := Except.ok.inj hread'
    exact hfree himage
  by_cases hscope : p = .imageSegmentMemoryScope
  · subst hscope
    obtain ⟨scope, hread⟩ := hdecides.scope
    rw [h.scope (hfence rfl)] at hread
    cases hread
  · obtain ⟨reason, hrefused⟩ := hdecides.refused
    rw [Target.result_checkInstruction_of_other i htype hscope] at hrefused
    cases hrefused

theorem noticesImages (i : Instruction) : i.NoticesImages where
  decided hcoord hsignal hfence hdecides hno :=
    (imageFree_of_needsImage hno).not_imageDecides hcoord hsignal hfence hdecides
  scope hkind hsame := needsImage_congr hsame hkind

def storing (opcode : Opcode) (kind : InstructionKind) (p : Property) (value : UInt32) :
    Instruction where
  opcode
  kind
  property q := if q = p then some value else none
  operands := []

theorem sameBut_storing (opcode : Opcode) (kind : InstructionKind) (p : Property)
    (value value' : UInt32) :
    SameBut p (storing opcode kind p value) (storing opcode kind p value') where
  opcode := rfl
  kind := rfl
  operands := rfl
  property q hq := by simp [storing, hq]

theorem noticesImages_fence :
    (storing .memFence .memFence .imageSegmentMemoryScope 3).ImageDecides
        .imageSegmentMemoryScope .small ∧
      (storing .memFence .memFence .imageSegmentMemoryScope 3).needsImage.result ≠ .ok false ∧
      (storing .ld .mem .imageSegmentMemoryScope 3).needsImage =
        (storing .ld .mem .imageSegmentMemoryScope 0).needsImage := by
  have hdecides : (storing .memFence .memFence .imageSegmentMemoryScope 3).ImageDecides
      .imageSegmentMemoryScope .small := ⟨⟨.imageScopeNeedsExtension, rfl⟩, rfl⟩
  refine ⟨hdecides, ?_, ?_⟩
  · exact (noticesImages _).decided (by decide) (by decide) (fun _ => rfl) hdecides
  · exact (noticesImages _).scope (by decide) (sameBut_storing ..)

/-- A scope for the image segment on a load, a sampler as the type of coordinates and an image as
the type of a signal go unnoticed. -/
theorem storing_unnoticed :
    ((storing .ld .mem .imageSegmentMemoryScope 3).ImageDecides .imageSegmentMemoryScope .small ∧
      (storing .ld .mem .imageSegmentMemoryScope 3).needsImage.result = .ok false) ∧
    ((storing .ld .mem .coordType 18).ImageDecides .coordType .small ∧
      (storing .ld .mem .coordType 18).needsImage.result = .ok false) ∧
    ((storing .ld .mem .signalType 19).ImageDecides .signalType .small ∧
      (storing .ld .mem .signalType 19).needsImage.result = .ok false) := by
  refine ⟨⟨?_, rfl⟩, ⟨?_, rfl⟩, ⟨?_, rfl⟩⟩
  · exact ⟨⟨.imageScopeNeedsExtension, rfl⟩, rfl⟩
  · exact ⟨⟨.imageTypeNeedsExtension, rfl⟩, rfl⟩
  · exact ⟨⟨.imageTypeNeedsExtension, rfl⟩, rfl⟩

end Instruction

end HsaModule
