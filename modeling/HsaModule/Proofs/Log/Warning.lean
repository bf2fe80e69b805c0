import HsaModule.DataType.Conversion
import HsaModule.Proofs.Legality.Attribute
import HsaModule.Proofs.Log.Line

/-!
Warnings of unknown codes. Reading a stored number ends in one of three ways: with what the number
stands for, with an unknown code and one warning of it, or, where the number is too wide for its
field, with an unknown code that nobody is warned of. Whoever reads numbers warns as they do.
-/

namespace HsaModule

/-- How the reading of stored numbers ends, if one of them is too wide or not. -/
inductive Decoded {α : Type} (wide : Prop) : Logged ContractViolation α → Prop
  | known (hfits : ¬ wide) (a : α) : Decoded wide (pure a)
  | unknown (hfits : ¬ wide) (family : String) (value : Nat) :
      Decoded wide (.refuse (.unknownCode family value) (.unknownCode family value))
  | tooWide (hwide : wide) (family : String) (value : Nat) :
      Decoded wide (.fail (.unknownCode family value))

namespace Decoded

variable {α β : Type} {wide wide' : Prop} {x : Logged ContractViolation α}

theorem congr (h : Decoded wide x) (hwide : wide ↔ wide') : Decoded wide' x := by
  rwa [← propext hwide]

theorem bind {f : α → Logged ContractViolation β} (h : Decoded wide x)
    (hf : ¬ wide → ∀ a, Decoded wide (f a)) : Decoded wide (x >>= f) := by
  cases h with
  | known hfits a => exact hf hfits a
  | unknown hfits family value => exact .unknown hfits family value
  | tooWide hwide family value => exact .tooWide hwide family value

theorem map (h : Decoded wide x) (f : α → β) : Decoded wide (x >>= fun a => pure (f a)) :=
  h.bind fun hfits a => .known hfits (f a)

end Decoded

section

variable (α : Type) [Coded α]

theorem decoded_decode (n : Nat) : Decoded False (Coded.decode α n) := by
  rw [Coded.decode]
  split
  · exact .known id _
  · exact .unknown id _ _

theorem decoded_decodeValue (value : UInt32) :
    Decoded (Coded.capacity α ≤ value.toNat) (Coded.decodeValue α value) := by
  rw [Coded.decodeValue]
  split
  case isTrue hfits =>
      exact (decoded_decode α value.toNat).congr (iff_of_false id (Nat.not_le.2 hfits))
  case isFalse hwide => exact .tooWide (Nat.not_lt.1 hwide) _ _

theorem decoded_decodeValue? (hcapacity : 0 < Coded.capacity α) (value : UInt32) :
    Decoded (Coded.capacity α ≤ value.toNat) (Coded.decodeValue? α value) := by
  rw [Coded.decodeValue?]
  split
  case isTrue hzero =>
      subst hzero
      exact .known (Nat.not_le.2 hcapacity) none
  case isFalse => exact (decoded_decodeValue α value).map some

end

theorem decoded_target (model profile : Nat) : Decoded False (Target.decode model profile) := by
  rw [Target.decode]
  apply (decoded_decode MachineModel model).bind
  intro hfits model
  exact (decoded_decode Profile profile).map fun profile => ({ model, profile } : Target)

def Property.TooWide (p : Property) (value : UInt32) : Prop :=
  p.isType ∧ UInt16.size ≤ value.toNat ∨
    p = .imageSegmentMemoryScope ∧ UInt8.size ≤ value.toNat

theorem Property.tooWide_iff_of_isType {p : Property} {value : UInt32} (hp : p.isType) :
    p.TooWide value ↔ UInt16.size ≤ value.toNat := by
  constructor
  · rintro (⟨-, hwide⟩ | ⟨rfl, -⟩)
    · exact hwide
    · cases hp
  · intro hwide
    exact .inl ⟨hp, hwide⟩

theorem Property.tooWide_scope_iff {value : UInt32} :
    imageSegmentMemoryScope.TooWide value ↔ UInt8.size ≤ value.toNat := by
  constructor
  · rintro (⟨htype, -⟩ | ⟨-, hwide⟩)
    · cases htype
    · exact hwide
  · intro hwide
    exact .inr ⟨rfl, hwide⟩

theorem Property.decoded_objection (p : Property) (value : UInt32) :
    Decoded (p.TooWide value) (p.objection value) := by
  rw [Property.objection]
  split
  case isTrue htype =>
      have hread := (decoded_decodeValue? DataType (by decide) value).map fun type? (t : Target) =>
        type?.bind t.typeObjection?
      exact hread.congr (tooWide_iff_of_isType htype).symm
  case isFalse htype =>
      split
      case isTrue hscope =>
          subst hscope
          have hread := (decoded_decodeValue? MemoryScope (by decide) value).map
            fun scope? (t : Target) => scope?.bind t.scopeObjection?
          exact hread.congr tooWide_scope_iff.symm
      case isFalse hscope =>
          apply Decoded.known
          rintro (⟨htype', -⟩ | ⟨hscope', -⟩)
          · exact htype htype'
          · exact hscope hscope'

namespace Question

def TooWide : Question → Prop
  | property p value => p.TooWide value
  | modifier p value _ => p = .round ∧ UInt8.size ≤ value.toNat
  | instruction i p => p.TooWide (i.valueOr p 0)

theorem decoded_objection (q : Question) : Decoded q.TooWide q.objection := by
  cases q with
  | property p value => exact p.decoded_objection value
  | instruction i p => exact p.decoded_objection (i.valueOr p 0)
  | modifier p value legal =>
      cases p with
      | round =>
          have hread := (decoded_decodeValue Rounding value).map fun mode (_ : Target) =>
            mode.objection?
          exact hread.congr (and_iff_right rfl).symm
      | _ => exact .known (fun hwide => nomatch hwide.1) _

end Question

namespace Logged

variable {ε α : Type}

structure WarnsOnce (unknown : String → Nat → ε) (x : Logged ε α) : Prop where
  unknown_iff (family : String) (value : Nat) : x.result = .error (unknown family value) ↔
    x.lines .warn = ["unknown " ++ family ++ " code " ++ toString value]
  quiet : (∀ family value, x.result ≠ .error (unknown family value)) → x.lines .warn = []

/-- As `WarnsOnce`, except where a number is too wide for its field: then it is answered as an
unknown code, and nothing is logged. -/
structure WarnsUnless (unknown : String → Nat → ε) (wide : Prop) (x : Logged ε α) : Prop where
  warnsOnce_iff : x.WarnsOnce unknown ↔ ¬ wide
  tooWide : wide → ∃ family value, x.result = .error (unknown family value) ∧ x.log = []

variable {unknown : String → Nat → ε} {wide : Prop} {x : Logged ε α}

theorem warnsOnce_of_quiet (hresult : ∀ family value, x.result ≠ .error (unknown family value))
    (hlines : x.lines .warn = []) : x.WarnsOnce unknown where
  unknown_iff family value := by
    rw [hlines]
    exact iff_of_false (hresult family value) (List.cons_ne_nil _ _).symm
  quiet _ := hlines

theorem warnsOnce_of_warned (hunknown : Function.Injective2 unknown) {family : String}
    {value : Nat} (hresult : x.result = .error (unknown family value))
    (hlines : x.lines .warn = [(Notice.unknownCode family value).text]) :
    x.WarnsOnce unknown where
  unknown_iff family' value' := by
    rw [hresult, hlines, Except.error.injEq, List.cons.injEq, and_iff_left rfl]
    constructor
    · intro h
      obtain ⟨rfl, rfl⟩ := hunknown h
      rfl
    · intro h
      obtain ⟨rfl, rfl⟩ := Notice.text_unknownCode_inj h
      rfl
  quiet h := absurd hresult (h family value)

theorem not_warnsOnce {family : String} {value : Nat}
    (hresult : x.result = .error (unknown family value)) (hlog : x.log = []) :
    ¬ x.WarnsOnce unknown := by
  intro h
  have hwarned := (h.unknown_iff family value).1 hresult
  rw [lines_of_log_nil hlog] at hwarned
  cases hwarned

theorem warnsUnless_of_fits (hfits : ¬ wide) (h : x.WarnsOnce unknown) :
    x.WarnsUnless unknown wide where
  warnsOnce_iff := iff_of_true h hfits
  tooWide hwide := absurd hwide hfits

theorem warnsUnless_of_tooWide {family : String} {value : Nat} (hwide : wide)
    (hresult : x.result = .error (unknown family value)) (hlog : x.log = []) :
    x.WarnsUnless unknown wide where
  warnsOnce_iff := iff_of_false (not_warnsOnce hresult hlog) (not_not_intro hwide)
  tooWide _ := ⟨family, value, hresult, hlog⟩

end Logged

def Error.unknownCode (family : String) (value : Nat) : Error :=
  .contract (.unknownCode family value)

theorem ContractViolation.injective2_unknownCode : Function.Injective2 unknownCode := by
  rintro _ _ _ _ ⟨⟩
  exact ⟨rfl, rfl⟩

theorem Error.injective2_unknownCode : Function.Injective2 unknownCode := by
  rintro _ _ _ _ ⟨⟩
  exact ⟨rfl, rfl⟩

theorem Property.warnsOnce_judge (p : Property) (value : UInt32) (objection : Option Reason) :
    (p.judge value objection).WarnsOnce Error.unknownCode := by
  cases objection with
  | none => exact Logged.warnsOnce_of_quiet nofun rfl
  | some reason => exact Logged.warnsOnce_of_quiet nofun rfl

theorem Question.warnsOnce_judge (q : Question) (objection : Option Reason) :
    (q.judge objection).WarnsOnce Error.unknownCode := by
  cases q with
  | property p value => exact p.warnsOnce_judge value objection
  | modifier p value legal => exact p.warnsOnce_judge value objection
  | instruction i p => exact p.warnsOnce_judge (i.valueOr p 0) objection

namespace Decoded

variable {α : Type} {wide : Prop} {x : Logged ContractViolation α}

theorem warnsUnless (h : Decoded wide x) : x.WarnsUnless .unknownCode wide := by
  cases h with
  | known hfits a => exact Logged.warnsUnless_of_fits hfits (Logged.warnsOnce_of_quiet nofun rfl)
  | unknown hfits family value =>
      apply Logged.warnsUnless_of_fits hfits
      exact Logged.warnsOnce_of_warned ContractViolation.injective2_unknownCode rfl
        (Logged.lines_refuse rfl _)
  | tooWide hwide family value => exact Logged.warnsUnless_of_tooWide hwide rfl rfl

theorem warnsUnless_bind {f : α → Logged Error Unit} (h : Decoded wide x)
    (hf : ∀ a, (f a).WarnsOnce Error.unknownCode) :
    (x.mapError .contract >>= f).WarnsUnless Error.unknownCode wide := by
  cases h with
  | known hfits a => exact Logged.warnsUnless_of_fits hfits (hf a)
  | unknown hfits family value =>
      apply Logged.warnsUnless_of_fits hfits
      exact Logged.warnsOnce_of_warned Error.injective2_unknownCode rfl (Logged.lines_refuse rfl _)
  | tooWide hwide family value => exact Logged.warnsUnless_of_tooWide hwide rfl rfl

end Decoded

theorem Question.warnsUnless_ask (q : Question) (t : Target) :
    (q.ask t).WarnsUnless Error.unknownCode (t.profile = .base ∧ q.TooWide) := by
  rw [ask_eq]
  split
  case isTrue hfull =>
      apply Logged.warnsUnless_of_fits
      · rintro ⟨hbase, -⟩
        rw [hfull] at hbase
        cases hbase
      · exact Logged.warnsOnce_of_quiet nofun rfl
  case isFalse hnotFull =>
      have hbase : t.profile = .base := by
        cases hprofile : t.profile with
        | base => rfl
        | full => exact absurd hprofile hnotFull
      have hread := q.decoded_objection.congr (and_iff_right (b := q.TooWide) hbase).symm
      exact hread.warnsUnless_bind fun o => q.warnsOnce_judge (o t)

/-- Readers of stored numbers warn of each unknown code once. Where a value of 32 bits is read that
should be a number of 16 or 8 bits, this is so exactly if it is one. -/
structure UnknownCodesWarned (stored : UInt16) (model profile : UInt8) (i : Instruction)
    (q : Question) (t : Target) : Prop where
  type : (Coded.decode DataType stored.toNat).WarnsOnce .unknownCode
  launchControl : (Coded.decode LaunchControl stored.toNat).WarnsOnce .unknownCode
  elementType : (DataType.ofEncodedElement stored).WarnsOnce .unknownCode
  target : (Target.decode model.toNat profile.toNat).WarnsOnce .unknownCode
  typeAttribute {p : Property} {type? : Logged ContractViolation (Option DataType)} :
    (p, type?) ∈ i.typeAttributes →
      type?.WarnsUnless .unknownCode (UInt16.size ≤ (i.valueOr p 0).toNat)
  segment : i.segment?.WarnsUnless .unknownCode (UInt8.size ≤ (i.valueOr .segment 0).toNat)
  packing : i.packing?.WarnsUnless .unknownCode (UInt8.size ≤ (i.valueOr .pack 0).toNat)
  imageScope : i.imageScope?.WarnsUnless .unknownCode
    (UInt8.size ≤ (i.valueOr .imageSegmentMemoryScope 0).toNat)
  check : (q.ask t).WarnsUnless Error.unknownCode (t.profile = .base ∧ q.TooWide)

theorem warnsOnce_of_decoded {α : Type} {x : Logged ContractViolation α} (h : Decoded False x) :
    x.WarnsOnce .unknownCode :=
  h.warnsUnless.warnsOnce_iff.2 id

theorem Instruction.warnsUnless_attribute? (i : Instruction) (α : Type) [Coded α]
    (hcapacity : 0 < Coded.capacity α) (p : Property) :
    (i.attribute? α p).WarnsUnless .unknownCode (Coded.capacity α ≤ (i.valueOr p 0).toNat) :=
  (decoded_decodeValue? α hcapacity (i.valueOr p 0)).warnsUnless

theorem unknownCodesWarned (stored : UInt16) (model profile : UInt8) (i : Instruction)
    (q : Question) (t : Target) : UnknownCodesWarned stored model profile i q t where
  type := warnsOnce_of_decoded (decoded_decode DataType stored.toNat)
  launchControl := warnsOnce_of_decoded (decoded_decode LaunchControl stored.toNat)
  elementType := warnsOnce_of_decoded (decoded_decode DataType _)
  target := warnsOnce_of_decoded (decoded_target model.toNat profile.toNat)
  typeAttribute hmem := by
    obtain ⟨-, rfl⟩ := Instruction.mem_typeAttributes_iff.1 hmem
    exact i.warnsUnless_attribute? DataType (by decide) _
  segment := i.warnsUnless_attribute? Segment (by decide) .segment
  packing := i.warnsUnless_attribute? Packing (by decide) .pack
  imageScope := i.warnsUnless_attribute? MemoryScope (by decide) .imageSegmentMemoryScope
  check := q.warnsUnless_ask t

/-- A type that does not fit into 16 bits is an unknown code, and there is no warning of it. -/
theorem wideType_not_warned :
    let t : Target := { model := .small, profile := .base }
    (t.checkProperty .type 65536).result = .error (Error.unknownCode "TypeCode" 65536) ∧
      (t.checkProperty .type 65536).log = [] ∧
      ¬ (t.checkProperty .type 65536).WarnsOnce Error.unknownCode := by
  intro t
  have hresult : (t.checkProperty .type 65536).result =
      .error (Error.unknownCode "TypeCode" 65536) := by
    rfl
  exact ⟨hresult, rfl, Logged.not_warnsOnce hresult rfl⟩

end HsaModule
