import HsaModule.Layout
import HsaModule.Proofs.Alignment.RoundUp
import HsaModule.Proofs.Outcome

namespace HsaModule.Operand

def place (offset : Nat) : Operand → Except Error Nat
  | constantBytes k => .ok (offset + k.bytes.length)
  | constantImage type | constantSampler type => .ok (offset + type.byteCount)
  | align a => .ok (a.roundUp offset)
  | o => .error (.contract (.unsupportedOperand .aggregateSize o.kind))

def aggregateSize (elements : List Operand) : Except Error Nat :=
  elements.foldlM place 0

def dataSize? : Operand → Option Nat
  | constantBytes k => some k.bytes.length
  | constantImage type | constantSampler type => some type.byteCount
  | _ => none

def isElement : Operand → Bool
  | constantBytes _ | constantImage _ | constantSampler _ | align _ => true
  | _ => false

theorem place_eq_ok_iff {o : Operand} {p q : Nat} :
    place p o = .ok q ↔
      (∃ size, o.dataSize? = some size ∧ q = p + size) ∨
        ∃ a, o = .align a ∧ q = a.roundUp p := by
  cases o with
  | constantBytes k => simp [place, dataSize?, eq_comm]
  | constantImage type => simp [place, dataSize?, eq_comm]
  | constantSampler type => simp [place, dataSize?, eq_comm]
  | align a => simp [place, dataSize?, eq_comm]
  | _ => simp [place, dataSize?]

theorem exists_place {o : Operand} (ho : o.isElement) (p : Nat) : ∃ q, place p o = .ok q := by
  cases o with
  | constantBytes k => exact ⟨_, rfl⟩
  | constantImage type => exact ⟨_, rfl⟩
  | constantSampler type => exact ⟨_, rfl⟩
  | align a => exact ⟨_, rfl⟩
  | _ => cases ho

theorem le_of_place {o : Operand} {p q : Nat} (h : place p o = .ok q) : p ≤ q := by
  rcases place_eq_ok_iff.1 h with ⟨size, -, rfl⟩ | ⟨a, -, rfl⟩
  · exact Nat.le_add_right p size
  · exact a.le_roundUp p

theorem exists_foldlM_place {elements : List Operand} (helements : ∀ o ∈ elements, o.isElement)
    (p : Nat) : ∃ total, elements.foldlM place p = .ok total := by
  induction elements generalizing p with
  | nil => exact ⟨p, rfl⟩
  | cons o elements ih =>
      obtain ⟨q, hq⟩ := exists_place (helements o List.mem_cons_self) p
      obtain ⟨total, htotal⟩ := ih (fun o' ho' => helements o' (List.mem_cons_of_mem o ho')) q
      exact ⟨total, foldlM_cons_eq_ok_iff.2 ⟨q, hq, htotal⟩⟩

theorem le_of_foldlM_place {elements : List Operand} {p total : Nat}
    (h : elements.foldlM place p = .ok total) : p ≤ total := by
  induction elements generalizing p with
  | nil => exact Nat.le_of_eq (Except.ok.inj h)
  | cons o elements ih =>
      obtain ⟨q, hq, htotal⟩ := foldlM_cons_eq_ok_iff.1 h
      exact Nat.le_trans (le_of_place hq) (ih htotal)

theorem advance_eq_ok_iff {offset next : UInt64} {size : Nat} :
    advance offset size = .ok next ↔ next.toNat = offset.toNat + size := by
  have hlt : next.toNat < UInt64.size := next.toNat_lt
  rw [advance]
  split
  case isTrue h =>
      have hsize : (UInt64.ofNat size).toNat = size := UInt64.toNat_ofNat_of_lt' (by omega)
      have hsum : (offset + UInt64.ofNat size).toNat = offset.toNat + size := by
        rw [UInt64.toNat_add, hsize]
        exact Nat.mod_eq_of_lt h
      rw [Except.ok.injEq, ← UInt64.toNat_inj, hsum]
      exact eq_comm
  case isFalse h =>
      simp only [reduceCtorEq, false_iff]
      omega

theorem placeWord_eq_ok_iff {o : Operand} {p q : UInt64} :
    placeWord p o = .ok q ↔ place p.toNat o = .ok q.toNat := by
  cases o with
  | constantBytes k => rw [placeWord, place, advance_eq_ok_iff, Except.ok.injEq, eq_comm]
  | constantImage type => rw [placeWord, place, advance_eq_ok_iff, Except.ok.injEq, eq_comm]
  | constantSampler type => rw [placeWord, place, advance_eq_ok_iff, Except.ok.injEq, eq_comm]
  | align a =>
      rw [placeWord, place, Alignment.roundUp]
      split
      · rw [Except.ok.injEq, Except.ok.injEq, UInt64.toNat_inj]
      · rw [advance_eq_ok_iff, Except.ok.injEq, eq_comm]
  | _ => simp [placeWord, place]

theorem foldlM_placeWord_eq_ok_iff {elements : List Operand} {p total : UInt64} :
    elements.foldlM placeWord p = .ok total ↔
      elements.foldlM place p.toNat = .ok total.toNat := by
  induction elements generalizing p with
  | nil =>
      change Except.ok p = .ok total ↔ Except.ok p.toNat = .ok total.toNat
      rw [Except.ok.injEq, Except.ok.injEq, UInt64.toNat_inj]
  | cons o elements ih =>
      rw [foldlM_cons_eq_ok_iff, foldlM_cons_eq_ok_iff]
      constructor
      · rintro ⟨q, hq, htotal⟩
        exact ⟨q.toNat, placeWord_eq_ok_iff.1 hq, ih.1 htotal⟩
      · rintro ⟨q, hq, htotal⟩
        -- offsets never go back, so one that is followed by a word is a word
        have hlt : total.toNat < UInt64.size := total.toNat_lt
        have hle := le_of_foldlM_place htotal
        have hword : (UInt64.ofNat q).toNat = q := UInt64.toNat_ofNat_of_lt' (by omega)
        rw [← hword] at hq htotal
        exact ⟨UInt64.ofNat q, placeWord_eq_ok_iff.2 hq, ih.2 htotal⟩

theorem aggregateByteCount_eq_ok_iff {elements : List Operand} {total : UInt64} :
    aggregateByteCount elements = .ok total ↔ aggregateSize elements = .ok total.toNat :=
  foldlM_placeWord_eq_ok_iff

theorem exists_aggregateByteCount {elements : List Operand} {total : Nat}
    (h : aggregateSize elements = .ok total) (hlt : total < 2 ^ 64) :
    ∃ size : UInt64, size.toNat = total ∧ aggregateByteCount elements = .ok size := by
  have hword : (UInt64.ofNat total).toNat = total := UInt64.toNat_ofNat_of_lt' hlt
  refine ⟨UInt64.ofNat total, hword, ?_⟩
  rw [aggregateByteCount_eq_ok_iff, hword]
  exact h

end HsaModule.Operand
