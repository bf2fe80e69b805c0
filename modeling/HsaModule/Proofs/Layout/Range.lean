import HsaModule.Proofs.Layout.Place
import Mathlib.Data.List.TakeWhile

/-!
How the layout of an aggregate constant ends. Exact offsets fail at the first operand that is no
element, whatever stands around it; offsets that are words may run out in front of it.
-/

namespace HsaModule.Operand

def refusal (o : Operand) : Error := .contract (.unsupportedOperand .aggregateSize o.kind)

theorem placeWord_of_not_isElement {o : Operand} (ho : ¬ o.isElement) (p : UInt64) :
    placeWord p o = .error (.inr o.refusal) := by
  cases o with
  | constantBytes | constantImage | constantSampler | align => exact absurd rfl ho
  | _ => rfl

theorem advance_eq_error {offset : UInt64} {size : Nat} (h : 2 ^ 64 ≤ offset.toNat + size) :
    advance offset size = .error (.inl .addOverflow) :=
  if_neg (Nat.not_lt.2 h)

theorem placeWord_eq_overflow {o : Operand} {p : UInt64} {q : Nat}
    (h : place p.toNat o = .ok q) (hq : 2 ^ 64 ≤ q) :
    placeWord p o = .error (.inl .addOverflow) := by
  cases o with
  | constantBytes k =>
      obtain rfl := Except.ok.inj h
      exact advance_eq_error hq
  | constantImage type =>
      obtain rfl := Except.ok.inj h
      exact advance_eq_error hq
  | constantSampler type =>
      obtain rfl := Except.ok.inj h
      exact advance_eq_error hq
  | align a =>
      obtain rfl := Except.ok.inj h
      rw [Alignment.roundUp] at hq
      rw [placeWord]
      split
      case isTrue hstays =>
          rw [if_pos hstays] at hq
          exact absurd p.toNat_lt (Nat.not_lt.2 hq)
      case isFalse hmoves =>
          rw [if_neg hmoves] at hq
          exact advance_eq_error hq
  | _ => cases h

theorem foldlM_placeWord_eq_overflow {elements : List Operand} {p : UInt64} {total : Nat}
    (h : elements.foldlM place p.toNat = .ok total) (htotal : 2 ^ 64 ≤ total) :
    elements.foldlM placeWord p = .error (.inl .addOverflow) := by
  induction elements generalizing p with
  | nil =>
      obtain rfl := Except.ok.inj h
      exact absurd p.toNat_lt (Nat.not_lt.2 htotal)
  | cons o elements ih =>
      obtain ⟨q, hq, hrest⟩ := foldlM_cons_eq_ok_iff.1 h
      rw [List.foldlM_cons]
      -- the words run out at the first element whose end is none
      by_cases hlt : q < 2 ^ 64
      · have hword : (UInt64.ofNat q).toNat = q := UInt64.toNat_ofNat_of_lt' hlt
        rw [← hword] at hq hrest
        rw [placeWord_eq_ok_iff.2 hq]
        exact ih hrest
      · rw [placeWord_eq_overflow hq (Nat.le_of_not_lt hlt)]
        rfl

/-- How adding up the elements in words has to end. Only what stands in front of the first operand
that is no element can make the words run out. -/
inductive AddsUp (elements : List Operand) : Except (ArithmeticFault ⊕ Error) UInt64 → Prop
  | total {size : UInt64} (htotal : aggregateSize elements = .ok size.toNat) :
      AddsUp elements (.ok size)
  | refused {o : Operand} {total : Nat}
      (hfirst : elements.find? (fun o => !o.isElement) = some o)
      (hfront : aggregateSize (elements.takeWhile isElement) = .ok total)
      (hlt : total < 2 ^ 64) : AddsUp elements (.error (.inr o.refusal))
  | overflow {total : Nat} (hfront : aggregateSize (elements.takeWhile isElement) = .ok total)
      (hle : 2 ^ 64 ≤ total) : AddsUp elements (.error (.inl .addOverflow))

theorem takeWhile_isElement {elements : List Operand}
    (h : elements.find? (fun o => !o.isElement) = none) :
    elements.takeWhile isElement = elements := by
  rw [List.takeWhile_eq_self_iff]
  intro o ho
  simpa using List.find?_eq_none.1 h o ho

theorem eq_of_addsUp {elements : List Operand} {x : Except (ArithmeticFault ⊕ Error) UInt64}
    (h : AddsUp elements x) : aggregateByteCount elements = x := by
  cases h with
  | total htotal => exact aggregateByteCount_eq_ok_iff.2 htotal
  | @refused o total hfirst hfront hlt =>
      obtain ⟨ho, front, rest, rfl, hsolid⟩ := List.find?_eq_some_iff_append.1 hfirst
      have ho' : ¬ o.isElement := by simpa using ho
      have htake : (front ++ o :: rest).takeWhile isElement = front := by
        rw [List.takeWhile_append_of_pos (by simpa using hsolid), List.takeWhile_cons_of_neg ho',
          List.append_nil]
      rw [htake] at hfront
      obtain ⟨size, -, hsize⟩ := exists_aggregateByteCount hfront hlt
      rw [aggregateByteCount, foldlM_append_of_ok hsize, List.foldlM_cons,
        placeWord_of_not_isElement ho']
      rfl
  | overflow hfront hle =>
      have hrunOut := foldlM_placeWord_eq_overflow (p := 0) hfront hle
      rw [← List.takeWhile_append_dropWhile (p := isElement) (l := elements)]
      exact foldlM_append_of_error hrunOut _

theorem exists_addsUp (elements : List Operand) : ∃ x, AddsUp elements x := by
  have hsolid : ∀ o ∈ elements.takeWhile isElement, o.isElement :=
    fun o ho => List.mem_takeWhile_imp ho
  obtain ⟨total, htotal⟩ := exists_foldlM_place hsolid 0
  by_cases hlt : total < 2 ^ 64
  · cases hfirst : elements.find? (fun o => !o.isElement) with
    | none =>
        have hword : (UInt64.ofNat total).toNat = total := UInt64.toNat_ofNat_of_lt' hlt
        rw [takeWhile_isElement hfirst, ← hword] at htotal
        exact ⟨_, .total htotal⟩
    | some o => exact ⟨_, .refused hfirst htotal hlt⟩
  · exact ⟨_, .overflow htotal (Nat.le_of_not_lt hlt)⟩

theorem aggregateByteCount_eq_iff {elements : List Operand}
    {x : Except (ArithmeticFault ⊕ Error) UInt64} :
    aggregateByteCount elements = x ↔ AddsUp elements x := by
  constructor
  · rintro rfl
    obtain ⟨x, hx⟩ := exists_addsUp elements
    rwa [eq_of_addsUp hx]
  · exact eq_of_addsUp

theorem aggregateByteCount_eq_refusal_iff {elements : List Operand} {e : Error} :
    aggregateByteCount elements = .error (.inr e) ↔
      ∃ o total, elements.find? (fun o => !o.isElement) = some o ∧
        aggregateSize (elements.takeWhile isElement) = .ok total ∧ total < 2 ^ 64 ∧
          e = o.refusal := by
  rw [aggregateByteCount_eq_iff]
  constructor
  · intro h
    cases h with
    | refused hfirst hfront hlt => exact ⟨_, _, hfirst, hfront, hlt, rfl⟩
  · rintro ⟨o, total, hfirst, hfront, hlt, rfl⟩
    exact .refused hfirst hfront hlt

def overlong (k : ByteConstant) : List Operand :=
  [.constantBytes k, .constantBytes k, .constantBytes k, .waveSize]

theorem aggregateByteCount_overlong {k : ByteConstant} (hk : k.bytes.length = 2 ^ 63 - 1) :
    aggregateByteCount (overlong k) = .error (.inl .addOverflow) := by
  have hfront : aggregateSize ((overlong k).takeWhile isElement) =
      .ok (0 + k.bytes.length + k.bytes.length + k.bytes.length) := rfl
  rw [hk] at hfront
  exact aggregateByteCount_eq_iff.2 (.overflow hfront (by decide))

/-- An operand that is no element is not reported, because the words run out in front of it. -/
theorem aggregateByteCount_overlong_zeros :
    let k : ByteConstant := { type := .b8, bytes := List.replicate (2 ^ 63 - 1) 0 }
    (∃ o ∈ overlong k, ¬ o.isElement) ∧
      aggregateByteCount (overlong k) = .error (.inl .addOverflow) ∧
      ∀ e, aggregateByteCount (overlong k) ≠ .error (.inr e) := by
  intro k
  have hoverflow := aggregateByteCount_overlong (k := k) List.length_replicate
  refine ⟨⟨.waveSize, ?_, Bool.false_ne_true⟩, hoverflow, ?_⟩
  · exact .tail _ (.tail _ (.tail _ (.head _)))
  · rw [hoverflow]
    intro e h
    cases h

end HsaModule.Operand
