import HsaModule.Proofs.Legality.Image

namespace HsaModule

namespace Operand

def HoldsImage (slot : Option Operand) : Prop :=
  ∃ place v, slot = some (.address place) ∧ place.symbol = some (.var v) ∧
    (v.elementType.isImage ∨ v.elementType.isSampler)

/-- The slots that lead to no variable. -/
inductive LeadsNowhere : Option Operand → Prop
  | empty : LeadsNowhere none
  | other {o : Operand} (hkind : o.kind ≠ .address) : LeadsNowhere (some o)
  | noSymbol {place : Address} (hsymbol : place.symbol = none) :
      LeadsNowhere (some (.address place))
  | otherSymbol {place : Address} {d : Directive} (hsymbol : place.symbol = some d)
      (hkind : d.kind ≠ .var) : LeadsNowhere (some (.address place))

theorem addressedVariable?_eq_some_iff {o : Operand} {v : Variable} :
    o.addressedVariable? = some v ↔ ∃ place, o = .address place ∧ place.symbol = some (.var v) := by
  constructor
  · intro h
    obtain ⟨place, hplace, hvariable⟩ := Option.bind_eq_some_iff.1 h
    obtain ⟨d, hsymbol, hd⟩ := Option.bind_eq_some_iff.1 hvariable
    cases o with
    | address place' =>
        obtain rfl := Option.some.inj hplace
        cases d with
        | var v' =>
            obtain rfl := Option.some.inj hd
            exact ⟨place', rfl, hsymbol⟩
        | _ => cases hd
    | _ => cases hplace
  · rintro ⟨place, rfl, hsymbol⟩
    change (place.symbol.bind fun d => d.toVariable?) = some v
    rw [hsymbol]
    rfl

theorem holdsImage_iff {slot : Option Operand} :
    HoldsImage slot ↔
      ∃ v, slot.bind addressedVariable? = some v ∧ v.elementType.needsImage := by
  simp only [Option.bind_eq_some_iff, addressedVariable?_eq_some_iff, DataType.needsImage_iff]
  constructor
  · rintro ⟨place, v, rfl, hsymbol, htype⟩
    exact ⟨v, ⟨_, rfl, place, rfl, hsymbol⟩, htype⟩
  · rintro ⟨v, ⟨_, rfl, place, rfl, hsymbol⟩, htype⟩
    exact ⟨place, v, rfl, hsymbol, htype⟩

theorem LeadsNowhere.not_holdsImage {slot : Option Operand} (h : LeadsNowhere slot) :
    ¬ HoldsImage slot := by
  rintro ⟨place, v, rfl, hsymbol, -⟩
  cases h with
  | other hkind => exact hkind rfl
  | noSymbol hsymbol' =>
      rw [hsymbol] at hsymbol'
      cases hsymbol'
  | otherSymbol hsymbol' hkind =>
      rw [hsymbol] at hsymbol'
      obtain rfl := Option.some.inj hsymbol'
      exact hkind rfl

end Operand

namespace Instruction

variable {i : Instruction}

theorem addressesImage_iff (hslots : i.operands.length ≤ slotLimit) :
    i.addressesImage ↔ ∃ slot ∈ i.operands, Operand.HoldsImage slot := by
  rw [addressesImage, List.take_of_length_le hslots, List.any_eq_true]
  simp only [Option.any_eq_true, Operand.holdsImage_iff]

structure Undecided (i : Instruction) : Prop where
  opcode : ¬ i.opcode.isImage
  read : ∀ x ∈ i.typeReads, ∃ type?, x = .ok type?
  plain : ∀ type, .ok (some type) ∈ i.typeReads → ¬ (type.isImage ∨ type.isSampler)

/-- The answer that the evidence asks for. -/
inductive ImageAnswer (i : Instruction) : Except ContractViolation Bool → Prop
  | opcode (hopcode : i.opcode.isImage) : ImageAnswer i (.ok true)
  | badType {v : ContractViolation} (hopcode : ¬ i.opcode.isImage)
      (hfirst : FirstFailure i.typeReads v) : ImageAnswer i (.error v)
  | type {type : DataType} (hopcode : ¬ i.opcode.isImage)
      (hread : ∀ x ∈ i.typeReads, ∃ type?, x = .ok type?)
      (hmem : .ok (some type) ∈ i.typeReads) (htype : type.isImage ∨ type.isSampler) :
      ImageAnswer i (.ok true)
  | badScope {v : ContractViolation} (hopen : i.Undecided) (hkind : i.kind = .memFence)
      (hscope : i.imageScope?.result = .error v) : ImageAnswer i (.error v)
  | scope {scope? : Option MemoryScope} (hopen : i.Undecided) (hkind : i.kind = .memFence)
      (hscope : i.imageScope?.result = .ok scope?)
      (hvalue : i.valueOr .imageSegmentMemoryScope 0 ≠ 0) : ImageAnswer i (.ok true)
  | operand {slot : Option Operand} (hopen : i.Undecided)
      (hscope : i.kind = .memFence → i.valueOr .imageSegmentMemoryScope 0 = 0)
      (hmem : slot ∈ i.operands) (hslot : Operand.HoldsImage slot) : ImageAnswer i (.ok true)
  | nothing (hopen : i.Undecided)
      (hscope : i.kind = .memFence → i.valueOr .imageSegmentMemoryScope 0 = 0)
      (hslots : ∀ slot ∈ i.operands, ¬ Operand.HoldsImage slot) : ImageAnswer i (.ok false)

theorem exists_types (hread : ∀ x ∈ i.typeReads, ∃ type?, x = .ok type?) :
    ∃ types, i.typeReads.mapM id = .ok types := by
  cases h : i.typeReads.mapM id with
  | ok types => exact ⟨types, rfl⟩
  | error v =>
      obtain ⟨type?, htype⟩ := hread _ (mapM_id_eq_error_iff.1 h).mem
      cases htype

theorem any_needsImage_iff {types : List (Option DataType)} (h : i.typeReads.mapM id = .ok types) :
    (types.any fun t => t.any DataType.needsImage) ↔
      ∃ type, .ok (some type) ∈ i.typeReads ∧ (type.isImage ∨ type.isSampler) := by
  rw [eq_map_ok_of_mapM_id h, List.any_eq_true]
  simp only [Option.any_eq_true, DataType.needsImage_iff]
  constructor
  · rintro ⟨_, hmem, type, rfl, htype⟩
    exact ⟨type, List.mem_map.2 ⟨some type, hmem, rfl⟩, htype⟩
  · rintro ⟨type, hmem, htype⟩
    obtain ⟨type?, hmem', hok⟩ := List.mem_map.1 hmem
    obtain rfl := Except.ok.inj hok
    exact ⟨some type, hmem', type, rfl, htype⟩

theorem Undecided.result_needsImage (h : i.Undecided) :
    i.needsImage.result =
      (if i.kind = .memFence then i.imageScope?.result else .ok none).bind fun scope =>
        .ok (scope.isSome || i.addressesImage) := by
  obtain ⟨types, htypes⟩ := exists_types h.read
  have hplain : ¬ types.any fun t => t.any DataType.needsImage := by
    rw [any_needsImage_iff htypes]
    rintro ⟨type, hmem, htype⟩
    exact h.plain type hmem htype
  rw [Instruction.result_needsImage h.opcode, htypes]
  exact if_neg hplain

theorem Undecided.result_needsImage_of_noScope (h : i.Undecided)
    (hscope : i.kind = .memFence → i.valueOr .imageSegmentMemoryScope 0 = 0) :
    i.needsImage.result = .ok i.addressesImage := by
  rw [h.result_needsImage]
  split
  case isTrue hkind =>
      have hread : i.imageScope?.result = .ok none :=
        Coded.decodeValue?_eq_ok_none_iff.2 (hscope hkind)
      rw [hread]
      rfl
  case isFalse => rfl

theorem eq_of_imageAnswer (hslots : i.operands.length ≤ slotLimit)
    {x : Except ContractViolation Bool} (h : i.ImageAnswer x) : i.needsImage.result = x := by
  cases h with
  | opcode hopcode =>
      rw [needsImage, if_pos hopcode]
      rfl
  | badType hopcode hfirst =>
      rw [result_needsImage hopcode, mapM_id_eq_error_iff.2 hfirst]
      rfl
  | type hopcode hread hmem htype =>
      obtain ⟨types, htypes⟩ := exists_types hread
      rw [result_needsImage hopcode, htypes]
      exact if_pos ((any_needsImage_iff htypes).2 ⟨_, hmem, htype⟩)
  | badScope hopen hkind hscope =>
      rw [hopen.result_needsImage, if_pos hkind, hscope]
      rfl
  | @scope scope? hopen hkind hscope hvalue =>
      rw [hopen.result_needsImage, if_pos hkind, hscope]
      cases scope? with
      | none => exact absurd (Coded.decodeValue?_eq_ok_none_iff.1 hscope) hvalue
      | some scope => rfl
  | operand hopen hscope hmem hslot =>
      rw [hopen.result_needsImage_of_noScope hscope]
      exact congrArg Except.ok ((addressesImage_iff hslots).2 ⟨_, hmem, hslot⟩)
  | nothing hopen hscope hnone =>
      rw [hopen.result_needsImage_of_noScope hscope]
      refine congrArg Except.ok (Bool.eq_false_iff.2 ?_)
      intro haddresses
      obtain ⟨slot, hmem, hslot⟩ := (addressesImage_iff hslots).1 haddresses
      exact hnone slot hmem hslot

theorem Undecided.exists_imageAnswer (h : i.Undecided) : ∃ x, i.ImageAnswer x := by
  by_cases hfence : i.kind = .memFence ∧ i.valueOr .imageSegmentMemoryScope 0 ≠ 0
  · obtain ⟨hkind, hvalue⟩ := hfence
    cases hscope : i.imageScope?.result with
    | error v => exact ⟨_, .badScope h hkind hscope⟩
    | ok scope? => exact ⟨_, .scope h hkind hscope hvalue⟩
  · have hscope : i.kind = .memFence → i.valueOr .imageSegmentMemoryScope 0 = 0 := by
      simpa using hfence
    by_cases hslots : ∃ slot ∈ i.operands, Operand.HoldsImage slot
    · obtain ⟨slot, hmem, hslot⟩ := hslots
      exact ⟨_, .operand h hscope hmem hslot⟩
    · refine ⟨_, .nothing h hscope ?_⟩
      intro slot hmem hslot
      exact hslots ⟨slot, hmem, hslot⟩

theorem exists_imageAnswer (i : Instruction) : ∃ x, i.ImageAnswer x := by
  by_cases hopcode : i.opcode.isImage
  · exact ⟨_, .opcode hopcode⟩
  cases hread : i.typeReads.mapM id with
  | error v => exact ⟨_, .badType hopcode (mapM_id_eq_error_iff.1 hread)⟩
  | ok types =>
      have hreads : ∀ x ∈ i.typeReads, ∃ type?, x = .ok type? := by
        intro x hx
        rw [eq_map_ok_of_mapM_id hread] at hx
        obtain ⟨type?, -, rfl⟩ := List.mem_map.1 hx
        exact ⟨type?, rfl⟩
      by_cases htypes : ∃ type, .ok (some type) ∈ i.typeReads ∧ (type.isImage ∨ type.isSampler)
      · obtain ⟨type, hmem, htype⟩ := htypes
        exact ⟨_, .type hopcode hreads hmem htype⟩
      · apply Undecided.exists_imageAnswer
        exact ⟨hopcode, hreads, fun type hmem htype => htypes ⟨type, hmem, htype⟩⟩

theorem result_needsImage_eq_iff (hslots : i.operands.length ≤ slotLimit)
    {x : Except ContractViolation Bool} : i.needsImage.result = x ↔ i.ImageAnswer x := by
  constructor
  · rintro rfl
    obtain ⟨x, hx⟩ := exists_imageAnswer i
    rwa [eq_of_imageAnswer hslots hx]
  · exact eq_of_imageAnswer hslots

/-- The answer is the one that the evidence asks for; slots that lead to no variable are no
evidence, and neither are the other properties. -/
structure AnswersByEvidence (i : Instruction) : Prop where
  answer_iff (x : Except ContractViolation Bool) : i.needsImage.result = x ↔ i.ImageAnswer x
  idle {front back : List (Option Operand)} {slot : Option Operand} :
    i.operands = front ++ slot :: back → Operand.LeadsNowhere slot →
      ({ i with operands := front ++ back } : Instruction).needsImage = i.needsImage
  agree {j : Instruction} : j.opcode = i.opcode → j.kind = i.kind → j.operands = i.operands →
    (∀ p ∈ i.imageProperties, j.property p = i.property p) → j.needsImage = i.needsImage

theorem answersByEvidence (i : Instruction) (hslots : i.operands.length ≤ slotLimit) :
    i.AnswersByEvidence where
  answer_iff _ := result_needsImage_eq_iff hslots
  idle {front back slot} hoperands hslot := by
    have hlength : (front ++ back).length ≤ slotLimit := by
      rw [hoperands] at hslots
      simp only [List.length_append, List.length_cons] at hslots ⊢
      omega
    refine needsImage_eq_of_agree (i := i) rfl rfl (Bool.eq_iff_iff.2 ?_) fun _ _ => rfl
    rw [addressesImage_iff hlength, addressesImage_iff hslots, hoperands]
    constructor
    · rintro ⟨slot', hmem, hslot'⟩
      refine ⟨slot', ?_, hslot'⟩
      rw [List.mem_append] at hmem ⊢
      exact hmem.imp_right (List.mem_cons_of_mem slot)
    · rintro ⟨slot', hmem, hslot'⟩
      refine ⟨slot', ?_, hslot'⟩
      rw [List.mem_append, List.mem_cons] at hmem
      rw [List.mem_append]
      apply hmem.imp_right
      rintro (rfl | hback)
      · exact absurd hslot' hslot.not_holdsImage
      · exact hback
  agree hopcode hkind hoperands hproperty := by
    apply needsImage_eq_of_agree hopcode hkind _ hproperty
    rw [addressesImage, addressesImage, hoperands]

/-- A load with all slots in use, the last of them for the address of an image. Its segment and its
scope for the image segment cannot be read. -/
def crowdedLoad : Instruction where
  opcode := .ld
  kind := .mem
  property
    | .type => some 16
    | .segment => some 0xff
    | .imageSegmentMemoryScope => some 0xff
    | _ => none
  operands :=
    let image : Variable := {
      name := "&image"
      elementType := .readOnlyImage
      isArray := false
      dim := 0
      segment := .global
      linkage := .module
      align := .unspecified
      isDefinition := true }
    [none, some .waveSize, some (.address ⟨none, none, 8⟩),
      some (.address ⟨some (.label "@start"), none, 0⟩),
      some (.address ⟨some (.var { image with elementType := .u64 }), none, 0⟩),
      some (.address ⟨some (.var image), none, 0⟩)]

theorem undecided_crowdedLoad : crowdedLoad.Undecided := by
  have hreads : crowdedLoad.typeReads = [.ok (some .b64), .ok none, .ok none] := rfl
  refine ⟨by decide, ?_, ?_⟩
  · simp [hreads]
  · simp only [hreads, List.mem_cons, List.not_mem_nil, or_false, Except.ok.injEq,
      Option.some.injEq, reduceCtorEq]
    rintro type rfl
    decide

theorem answersByEvidence_crowdedLoad :
    crowdedLoad.operands.length ≤ slotLimit ∧ crowdedLoad.needsImage.result = .ok true ∧
      ({ crowdedLoad with operands := crowdedLoad.operands.drop 1 } : Instruction).needsImage =
        crowdedLoad.needsImage ∧
      ({ crowdedLoad with
        property := fun p => if p = .type then some 16 else none } : Instruction).needsImage =
        crowdedLoad.needsImage := by
  have hslots : crowdedLoad.operands.length ≤ slotLimit := by decide
  have hevidence := answersByEvidence crowdedLoad hslots
  refine ⟨hslots, ?_, ?_, ?_⟩
  · apply (hevidence.answer_iff _).2
    apply ImageAnswer.operand undecided_crowdedLoad nofun (List.mem_of_getElem? (i := 5) rfl)
    exact ⟨_, _, rfl, rfl, .inl rfl⟩
  · have hoperands : crowdedLoad.operands = [] ++ none :: crowdedLoad.operands.drop 1 := rfl
    have hidle := hevidence.idle hoperands .empty
    rwa [List.nil_append] at hidle
  · apply hevidence.agree rfl rfl rfl
    decide

end Instruction

end HsaModule
