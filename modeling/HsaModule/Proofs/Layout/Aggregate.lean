import HsaModule.Proofs.Layout.Place
import Mathlib.Data.List.Infix

/-!
The layout of an aggregate constant is the smallest that its elements allow.

A layout is a list of offsets, one before each element and one at the end. Placing every element as
early as it can go is legal; and by induction on the elements it never falls behind another legal
layout, because both kinds of steps are monotone.
-/

namespace HsaModule.Operand

/-- An element may lead from offset `p` to offset `q`. Data has to reach `q` from its own end, and
an alignment that is specified has to hold at `q`. -/
inductive Moves (reaches : Nat → Nat → Prop) : Operand → Nat → Nat → Prop
  | data {o : Operand} {size p q : Nat} (hsize : o.dataSize? = some size)
      (hreach : reaches (p + size) q) : Moves reaches o p q
  | align {a : Alignment} {p q : Nat} (hle : p ≤ q) (hdvd : a ≠ .unspecified → a.bytes ∣ q) :
      Moves reaches (.align a) p q

/-- Offsets that lead from one to the next by the elements in turn. -/
inductive Placement (reaches : Nat → Nat → Prop) : List Operand → List Nat → Prop
  | nil (p : Nat) : Placement reaches [] [p]
  | cons {o : Operand} {elements : List Operand} {p q : Nat} {rest : List Nat}
      (hfirst : Moves reaches o p q) (hrest : Placement reaches elements (q :: rest)) :
      Placement reaches (o :: elements) (p :: q :: rest)

theorem moves_of_place {o : Operand} {p q : Nat} (h : place p o = .ok q) :
    Moves (· = ·) o p q := by
  rcases place_eq_ok_iff.1 h with ⟨size, hsize, rfl⟩ | ⟨a, rfl, rfl⟩
  · exact .data hsize rfl
  · exact .align (a.le_roundUp p) fun ha => Alignment.bytes_dvd_roundUp ha p

theorem place_le_of_moves {o : Operand} {p q p' q' : Nat} (h : place p o = .ok q)
    (hmoves : Moves (· ≤ ·) o p' q') (hle : p ≤ p') : q ≤ q' := by
  cases hmoves with
  | data hsize hreach =>
      rcases place_eq_ok_iff.1 h with ⟨size, hsize', rfl⟩ | ⟨a, rfl, -⟩
      · obtain rfl := Option.some.inj (hsize.symm.trans hsize')
        omega
      · cases hsize
  | align hle' hdvd =>
      obtain rfl := Except.ok.inj h
      exact Alignment.roundUp_le (Nat.le_trans hle hle') hdvd

/-- No other placement of the elements ends before this one, as long as it does not start before. -/
theorem foldlM_place_le {elements : List Operand} {p total : Nat}
    (h : elements.foldlM place p = .ok total) {p' : Nat} {rest : List Nat}
    (hplacement : Placement (· ≤ ·) elements (p' :: rest)) (hle : p ≤ p') :
    ∃ last, (p' :: rest).getLast? = some last ∧ total ≤ last := by
  induction elements generalizing p p' rest with
  | nil =>
      cases hplacement with
      | nil =>
          obtain rfl := Except.ok.inj h
          exact ⟨p', rfl, hle⟩
  | cons o elements ih =>
      cases hplacement with
      | cons hfirst hrest =>
          obtain ⟨q, hq, htotal⟩ := foldlM_cons_eq_ok_iff.1 h
          obtain ⟨last, hlast, hend⟩ := ih htotal hrest (place_le_of_moves hq hfirst hle)
          exact ⟨last, by rwa [List.getLast?_cons_cons], hend⟩

theorem exists_totals {elements : List Operand} {p total : UInt64}
    (h : elements.foldlM placeWord p = .ok total) :
    ∃ rest, elements.inits.map (fun front => front.foldlM placeWord p) = (p :: rest).map .ok ∧
      Placement (· = ·) elements ((p :: rest).map UInt64.toNat) := by
  induction elements generalizing p with
  | nil => exact ⟨[], rfl, .nil p.toNat⟩
  | cons o elements ih =>
      obtain ⟨q, hq, htotal⟩ := foldlM_cons_eq_ok_iff.1 h
      obtain ⟨rest, hinits, hplacement⟩ := ih htotal
      have hfront (front : List Operand) :
          (o :: front).foldlM placeWord p = front.foldlM placeWord q := by
        rw [List.foldlM_cons, hq]
        rfl
      refine ⟨q :: rest, ?_, ?_⟩
      · rw [List.inits_cons, List.map_cons, List.map_map, List.map_cons, ← hinits]
        congr 1
        exact List.map_congr_left fun front _ => hfront front
      · exact .cons (moves_of_place (placeWord_eq_ok_iff.1 hq)) hplacement

/-- The totals of an aggregate constant are a layout of it, and no layout is smaller. -/
structure SmallestLayout (elements : List Operand) (size : UInt64) : Prop where
  byteCount : aggregateByteCount elements = .ok size
  totals : ∃ totals : List UInt64, elements.inits.map aggregateByteCount = totals.map .ok ∧
    Placement (· = ·) elements (totals.map UInt64.toNat)
  least (positions : List Nat) : Placement (· ≤ ·) elements positions →
    ∃ last, positions.getLast? = some last ∧ size.toNat ≤ last

theorem smallestLayout_aggregateByteCount (elements : List Operand)
    (helements : ∀ o ∈ elements, o.isElement) :
    ∃ total, aggregateSize elements = .ok total ∧
      (total < 2 ^ 64 → ∃ size : UInt64, size.toNat = total ∧ SmallestLayout elements size) := by
  obtain ⟨total, htotal⟩ := exists_foldlM_place helements 0
  refine ⟨total, htotal, ?_⟩
  intro hlt
  have hword : (UInt64.ofNat total).toNat = total := UInt64.toNat_ofNat_of_lt' hlt
  have hbytes : aggregateByteCount elements = .ok (UInt64.ofNat total) := by
    rw [aggregateByteCount_eq_ok_iff, hword]
    exact htotal
  obtain ⟨rest, hinits, hplacement⟩ := exists_totals hbytes
  refine ⟨UInt64.ofNat total, hword, hbytes, ⟨0 :: rest, hinits, hplacement⟩, ?_⟩
  intro positions hpositions
  rw [hword]
  cases hpositions with
  | nil p => exact foldlM_place_le htotal (.nil p) (Nat.zero_le p)
  | cons hfirst hrest => exact foldlM_place_le htotal (.cons hfirst hrest) (Nat.zero_le _)

def paddedElements : List Operand :=
  [.constantBytes { type := .u8, bytes := [1, 2, 3] }, .align .largest,
    .constantImage .readOnlyImage, .align .unspecified, .align .largest]

theorem smallestLayout_paddedElements :
    (∀ o ∈ paddedElements, o.isElement) ∧ aggregateSize paddedElements = .ok 512 ∧
      (512 : Nat) < 2 ^ 64 ∧ SmallestLayout paddedElements 512 := by
  have helements : ∀ o ∈ paddedElements, o.isElement := by decide
  have hsize : aggregateSize paddedElements = .ok 512 := rfl
  have hword : (512 : Nat) < 2 ^ 64 := by decide
  obtain ⟨total, htotal, hlayout⟩ := smallestLayout_aggregateByteCount paddedElements helements
  obtain rfl : 512 = total := Except.ok.inj (hsize.symm.trans htotal)
  obtain ⟨size, hvalue, hsmallest⟩ := hlayout hword
  obtain rfl : size = 512 := UInt64.toNat_inj.1 hvalue
  exact ⟨helements, hsize, hword, hsmallest⟩

end HsaModule.Operand
