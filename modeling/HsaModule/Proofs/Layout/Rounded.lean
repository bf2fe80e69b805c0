import HsaModule.Proofs.Alignment.Order
import HsaModule.Proofs.Layout.Range
import HsaModule.Proofs.Word.AlignUp

namespace HsaModule

namespace Alignment

theorem toNat_ofNat_bytes (a : Alignment) : (UInt64.ofNat a.bytes).toNat = a.bytes :=
  UInt64.toNat_ofNat_of_lt' (Nat.lt_of_le_of_lt a.bytes_le (by decide))

theorem alignUp_eq_ok_iff {a : Alignment} (ha : a ≠ .unspecified) {offset rounded : UInt64} :
    Word.alignUp offset (.ofNat a.bytes) = .ok rounded ↔
      a.roundUp offset.toNat = rounded.toNat := by
  rw [Word.alignUp_eq_ok_iff, Word.multiplesFrom, toNat_ofNat_bytes]
  constructor
  · rintro ⟨-, ⟨hle, hlt, hdvd⟩, hleast⟩
    have hup : a.roundUp offset.toNat ≤ rounded.toNat := roundUp_le hle fun _ => hdvd
    exact Nat.le_antisymm hup
      (hleast ⟨a.le_roundUp _, Nat.lt_of_le_of_lt hup hlt, bytes_dvd_roundUp ha _⟩)
  · intro h
    rw [← h]
    refine ⟨isPowerOfTwo_bytes ha, ⟨a.le_roundUp _, ?_, bytes_dvd_roundUp ha _⟩, ?_⟩
    · rw [h]
      exact rounded.toNat_lt
    · rintro m ⟨hle, -, hdvd⟩
      exact roundUp_le hle fun _ => hdvd

theorem alignUp_eq_overflow {a : Alignment} (ha : a ≠ .unspecified) {offset : UInt64}
    (h : 2 ^ 64 ≤ a.roundUp offset.toNat) :
    Word.alignUp offset (.ofNat a.bytes) = .error .addOverflow := by
  rw [Word.alignUp_eq_iff]
  apply Word.RoundsUp.overflow
  · rw [toNat_ofNat_bytes]
    exact isPowerOfTwo_bytes ha
  · rw [Set.eq_empty_iff_forall_notMem]
    rintro m ⟨hle, hlt, hdvd⟩
    rw [toNat_ofNat_bytes] at hdvd
    have hup : a.roundUp offset.toNat ≤ m := roundUp_le hle fun _ => hdvd
    omega

end Alignment

namespace Operand

def placeRounded (offset : UInt64) : Operand → Except (ArithmeticFault ⊕ Error) UInt64
  | constantBytes k => advance offset k.bytes.length
  | constantImage type | constantSampler type => advance offset type.byteCount
  | align .unspecified => .ok offset
  | align a => (Word.alignUp offset (.ofNat a.bytes)).mapError .inl
  | o => .error (.inr o.refusal)

theorem placeWord_align {a : Alignment} (ha : a ≠ .unspecified) (p : UInt64) :
    placeWord p (.align a) = (Word.alignUp p (.ofNat a.bytes)).mapError .inl := by
  by_cases hlt : a.roundUp p.toNat < 2 ^ 64
  · have hword : a.roundUp p.toNat = (UInt64.ofNat (a.roundUp p.toNat)).toNat :=
      (UInt64.toNat_ofNat_of_lt' hlt).symm
    rw [(Alignment.alignUp_eq_ok_iff ha).2 hword]
    exact placeWord_eq_ok_iff.2 (congrArg Except.ok hword)
  · have hle := Nat.le_of_not_lt hlt
    rw [Alignment.alignUp_eq_overflow ha hle]
    exact placeWord_eq_overflow rfl hle

theorem placeWord_eq_placeRounded : placeWord = placeRounded := by
  funext p o
  cases o with
  | align a =>
      cases a with
      | unspecified => rfl
      | pow2 e =>
          have hspecified : Alignment.pow2 e ≠ .unspecified := nofun
          exact placeWord_align hspecified p
  | _ => rfl

/-- What adding up the elements comes to: an error for the first operand that is no element, if
there are words as far as that, and otherwise the fold of additions and roundings, none of which
fails while the exact total is a word. -/
structure FoldsRounding (elements : List Operand) : Prop where
  fails_iff (e : Error) : aggregateByteCount elements = .error (.inr e) ↔
    ∃ o total, elements.find? (fun o => !o.isElement) = some o ∧
      aggregateSize (elements.takeWhile isElement) = .ok total ∧ total < 2 ^ 64 ∧ e = o.refusal
  ends_iff (x : Except (ArithmeticFault ⊕ Error) UInt64) :
    aggregateByteCount elements = x ↔ AddsUp elements x
  folds : aggregateByteCount elements = elements.foldlM placeRounded 0
  total {total : Nat} : aggregateSize elements = .ok total → total < 2 ^ 64 →
    ∃ size : UInt64, size.toNat = total ∧ elements.foldlM placeRounded 0 = .ok size
  rounds {front back : List Operand} {a : Alignment} {total : Nat} :
    elements = front ++ .align a :: back → a ≠ .unspecified →
      aggregateSize elements = .ok total → total < 2 ^ 64 →
        ∃ offset rounded, front.foldlM placeRounded 0 = .ok offset ∧
          Word.alignUp offset (.ofNat a.bytes) = .ok rounded

theorem foldsRounding (elements : List Operand) : FoldsRounding elements where
  fails_iff _ := aggregateByteCount_eq_refusal_iff
  ends_iff _ := aggregateByteCount_eq_iff
  folds := by rw [aggregateByteCount, placeWord_eq_placeRounded]
  total htotal hlt := by
    rw [← placeWord_eq_placeRounded]
    exact exists_aggregateByteCount htotal hlt
  rounds {front back a total} helements ha htotal hlt := by
    subst helements
    obtain ⟨size, -, hsize⟩ := exists_aggregateByteCount htotal hlt
    rw [← placeWord_eq_placeRounded]
    cases hfront : front.foldlM placeWord 0 with
    | error e =>
        rw [aggregateByteCount, foldlM_append_of_error hfront] at hsize
        cases hsize
    | ok offset =>
        rw [aggregateByteCount, foldlM_append_of_ok hfront] at hsize
        obtain ⟨next, hnext, -⟩ := foldlM_cons_eq_ok_iff.1 hsize
        rw [placeWord_align ha, except_mapError_eq_ok_iff] at hnext
        exact ⟨offset, next, rfl, hnext⟩

end Operand

end HsaModule
