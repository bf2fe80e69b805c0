import HsaModule.Legality

namespace HsaModule

theorem DataType.needsImage_iff {type : DataType} :
    type.needsImage ↔ type.isImage ∨ type.isSampler := by
  rw [needsImage, Bool.or_eq_true]

theorem DataType.needsFullProfile_iff {type : DataType} :
    type.needsFullProfile ↔ type = .f64 ∨ type = .f64x2 := by
  cases type <;> decide

theorem MachineModel.eq_small_of_ne {m : MachineModel} (h : m ≠ .large) : m = .small := by
  cases m with
  | small => rfl
  | large => exact absurd rfl h

theorem MachineModel.eq_large_of_ne {m : MachineModel} (h : m ≠ .small) : m = .large := by
  cases m with
  | small => exact absurd rfl h
  | large => rfl

/-- The extension of that bit is in the set. -/
def Extensions.Has (e : Extensions) (n : Nat) : Prop := e.bits.toNat.testBit n

instance (e : Extensions) (n : Nat) : Decidable (e.Has n) :=
  inferInstanceAs (Decidable (e.bits.toNat.testBit n = true))

theorem Extensions.contains_image_iff {e : Extensions} : e.contains image ↔ e.Has 0 := by
  rw [contains, beq_iff_eq, ← UInt32.toNat_inj, UInt32.toNat_and, Has, Nat.testBit_zero,
    decide_eq_true_eq]
  change e.bits.toNat &&& 1 = 1 ↔ _
  rw [Nat.and_one_is_mod]

namespace Target

theorem hasImage_iff {t : Target} : t.hasImage ↔ t.extensions.Has 0 :=
  Extensions.contains_image_iff

/-- The types that a target of the base profile refuses, and why. -/
inductive RefusesType (t : Target) : DataType → Reason → Prop
  | image {type : DataType} (htype : type.isImage ∨ type.isSampler)
      (himage : ¬ t.extensions.Has 0) : RefusesType t type .imageTypeNeedsExtension
  | double {type : DataType} (htype : type = .f64 ∨ type = .f64x2) :
      RefusesType t type .doubleNeedsFullProfile
  | signal64 (hmodel : t.model = .small) :
      RefusesType t .signal64 .signal64NeedsLargeModel
  | signal32 (hmodel : t.model = .large) :
      RefusesType t .signal32 .signal32NeedsSmallModel

inductive RefusesScope (t : Target) : MemoryScope → Reason → Prop
  | image {scope : MemoryScope} (himage : ¬ t.extensions.Has 0) :
      RefusesScope t scope .imageScopeNeedsExtension

theorem typeObjection?_eq_some_iff {t : Target} {type : DataType} {reason : Reason} :
    t.typeObjection? type = some reason ↔ t.RefusesType type reason := by
  constructor
  · intro h
    rw [typeObjection?] at h
    split at h
    case isTrue himage =>
        obtain ⟨htype, hnone⟩ := Bool.and_eq_true_iff.1 himage
        obtain rfl := Option.some.inj h
        have hoff : ¬ t.hasImage := by simpa using hnone
        exact .image (DataType.needsImage_iff.1 htype) (mt hasImage_iff.2 hoff)
    split at h
    case isTrue hdouble =>
        obtain rfl := Option.some.inj h
        exact .double (DataType.needsFullProfile_iff.1 hdouble)
    split at h
    case isTrue hsignal =>
        obtain ⟨htype, hmodel⟩ := Bool.and_eq_true_iff.1 hsignal
        obtain rfl := eq_of_beq htype
        obtain rfl := Option.some.inj h
        exact .signal64 (MachineModel.eq_small_of_ne (bne_iff_ne.1 hmodel))
    split at h
    case isTrue hsignal =>
        obtain ⟨htype, hmodel⟩ := Bool.and_eq_true_iff.1 hsignal
        obtain rfl := eq_of_beq htype
        obtain rfl := Option.some.inj h
        exact .signal32 (MachineModel.eq_large_of_ne (bne_iff_ne.1 hmodel))
    cases h
  · intro h
    cases h with
    | image htype himage =>
        have hoff : t.hasImage = false := Bool.eq_false_iff.2 (mt hasImage_iff.1 himage)
        rw [typeObjection?, DataType.needsImage_iff.2 htype, hoff]
        rfl
    | double htype => rcases htype with rfl | rfl <;> rfl
    | signal64 hmodel =>
        rw [typeObjection?, hmodel]
        rfl
    | signal32 hmodel =>
        rw [typeObjection?, hmodel]
        rfl

theorem scopeObjection?_eq_some_iff {t : Target} {scope : MemoryScope} {reason : Reason} :
    t.scopeObjection? scope = some reason ↔ t.RefusesScope scope reason := by
  rw [scopeObjection?]
  constructor
  · intro h
    split at h
    case isTrue => cases h
    case isFalse himage =>
        obtain rfl := Option.some.inj h
        exact .image (mt hasImage_iff.2 himage)
  · intro h
    cases h with
    | image himage => rw [if_neg (mt hasImage_iff.1 himage)]

/-- An objection that depends on the machine model and on images only, and that images can only
lift. -/
structure Steady (objection? : Target → Option Reason) : Prop where
  of_image {t t' : Target} {reason : Reason} : t.model = t'.model →
    (t.hasImage → t'.hasImage) → objection? t' = some reason → objection? t = some reason

theorem Steady.eq_none {objection? : Target → Option Reason} (h : Steady objection?)
    {t t' : Target} (hmodel : t.model = t'.model) (himage : t.hasImage → t'.hasImage)
    (hnone : objection? t = none) : objection? t' = none := by
  cases hreason : objection? t' with
  | none => rfl
  | some reason =>
      rw [h.of_image hmodel himage hreason] at hnone
      cases hnone

theorem Steady.congr {objection? : Target → Option Reason} (h : Steady objection?)
    {t t' : Target} (hmodel : t.model = t'.model) (himage : t.hasImage = t'.hasImage) :
    objection? t = objection? t' := by
  apply Option.ext
  intro reason
  constructor
  · exact h.of_image hmodel.symm (fun himage' => himage ▸ himage')
  · exact h.of_image hmodel (fun himage' => himage ▸ himage')

theorem steady_const (objection : Option Reason) : Steady fun _ => objection where
  of_image _ _ h := h

theorem steady_typeObjection? (type : DataType) : Steady fun t => t.typeObjection? type where
  of_image hmodel himage h := by
    rw [hasImage_iff, hasImage_iff] at himage
    rw [typeObjection?_eq_some_iff] at h ⊢
    cases h with
    | image htype himage' => exact .image htype (mt himage himage')
    | double htype => exact .double htype
    | signal64 hmodel' => exact .signal64 (hmodel.trans hmodel')
    | signal32 hmodel' => exact .signal32 (hmodel.trans hmodel')

theorem steady_scopeObjection? (scope : MemoryScope) :
    Steady fun t => t.scopeObjection? scope where
  of_image _ himage h := by
    rw [hasImage_iff, hasImage_iff] at himage
    rw [scopeObjection?_eq_some_iff] at h ⊢
    cases h with
    | image himage' => exact .image (mt himage himage')

theorem Steady.bind {α : Type} {objection? : Target → α → Option Reason}
    (h : ∀ a, Steady fun t => objection? t a) (a? : Option α) :
    Steady fun t => a?.bind (objection? t) := by
  cases a? with
  | none => exact steady_const none
  | some a => exact h a

end Target

end HsaModule
