import HsaModule.Proofs.Alignment.Order
import HsaModule.Proofs.Layout.Place

namespace HsaModule.Operand

theorem place_add {o : Operand} {base : Nat}
    (hbase : ∀ a, o = .align a → a ≠ .unspecified → a.bytes ∣ base) (p : Nat) :
    place (base + p) o = (place p o).map (base + ·) := by
  cases o with
  | constantBytes k => exact congrArg Except.ok (Nat.add_assoc base p _)
  | constantImage type => exact congrArg Except.ok (Nat.add_assoc base p _)
  | constantSampler type => exact congrArg Except.ok (Nat.add_assoc base p _)
  | align a => exact congrArg Except.ok (Alignment.roundUp_add (hbase a rfl) p)
  | _ => rfl

theorem foldlM_place_add {elements : List Operand} {base : Nat}
    (hbase : ∀ a, .align a ∈ elements → a ≠ .unspecified → a.bytes ∣ base) (p : Nat) :
    elements.foldlM place (base + p) = (elements.foldlM place p).map (base + ·) := by
  -- only the base has all the alignments; the offset behind it is any number
  induction elements generalizing p with
  | nil => rfl
  | cons o elements ih =>
      have hplace : place (base + p) o = (place p o).map (base + ·) := by
        apply place_add
        rintro a rfl
        exact hbase a List.mem_cons_self
      rw [List.foldlM_cons, List.foldlM_cons, hplace]
      cases place p o with
      | error e => rfl
      | ok q => exact ih (fun a ha => hbase a (List.mem_cons_of_mem o ha)) q

theorem bytes_dvd_of_aggregateSize {front : List Operand} {a : Alignment} {total : Nat}
    (ha : a ≠ .unspecified) (h : aggregateSize (front ++ [.align a]) = .ok total) :
    a.bytes ∣ total := by
  rw [aggregateSize, List.foldlM_append] at h
  obtain ⟨p, -, hp⟩ := except_bind_eq_ok_iff.1 h
  obtain ⟨q, hq, htotal⟩ := foldlM_cons_eq_ok_iff.1 hp
  obtain rfl := Except.ok.inj htotal
  obtain rfl := Except.ok.inj hq
  exact Alignment.bytes_dvd_roundUp ha p

theorem bytes_dvd_of_aggregateSize_of_le {front : List Operand} {a b : Alignment} {total : Nat}
    (hb : b ≠ .unspecified) (hle : b ≤ a) (h : aggregateSize (front ++ [.align a]) = .ok total) :
    b.bytes ∣ total :=
  Nat.dvd_trans (Alignment.bytes_dvd_of_le hb hle)
    (bytes_dvd_of_aggregateSize (Alignment.ne_unspecified_of_le hb hle) h)

theorem aggregateSize_append_of_le {front back : List Operand} {a : Alignment} {m n : Nat}
    (hstrongest : ∀ b, .align b ∈ back → b ≤ a)
    (hfront : aggregateSize (front ++ [.align a]) = .ok m) (hback : aggregateSize back = .ok n) :
    aggregateSize (front ++ [.align a] ++ back) = .ok (m + n) := by
  have hbase : ∀ b, .align b ∈ back → b ≠ .unspecified → b.bytes ∣ m := by
    intro b hb hspecified
    exact bytes_dvd_of_aggregateSize_of_le hspecified (hstrongest b hb) hfront
  rw [aggregateSize, foldlM_append_of_ok hfront, ← Nat.add_zero m, foldlM_place_add hbase]
  change (aggregateSize back).map _ = _
  rw [hback]
  rfl

theorem aggregateByteCount_insert {front back : List Operand} {o : Operand}
    (h : ∀ p, aggregateByteCount front = .ok p → placeWord p o = .ok p) :
    aggregateByteCount (front ++ o :: back) = aggregateByteCount (front ++ back) := by
  rw [aggregateByteCount, aggregateByteCount]
  cases hfront : front.foldlM placeWord 0 with
  | error e => rw [foldlM_append_of_error hfront, foldlM_append_of_error hfront]
  | ok p =>
      rw [foldlM_append_of_ok hfront, foldlM_append_of_ok hfront, List.foldlM_cons, h p hfront]
      rfl

theorem placeWord_align_of_dvd {a : Alignment} {p : UInt64}
    (h : a ≠ .unspecified → a.bytes ∣ p.toNat) : placeWord p (.align a) = .ok p := by
  rw [placeWord_eq_ok_iff, place, Alignment.roundUp_of_dvd h]

/-- From an alignment on that is strong enough for them, the elements behind it are laid out as if
they stood alone; a weaker alignment next to it and one that is not specified change nothing. -/
structure SplitsBehind (front : List Operand) : Prop where
  additive {a : Alignment} {back : List Operand} : (∀ o ∈ front, o.isElement) →
    (∀ o ∈ back, o.isElement) → (∀ b, .align b ∈ back → b ≤ a) →
      ∃ total, aggregateSize (front ++ [.align a] ++ back) = .ok total ∧
        (total < 2 ^ 64 → ∃ first second whole : UInt64,
          aggregateByteCount (front ++ [.align a]) = .ok first ∧
            aggregateByteCount back = .ok second ∧
            aggregateByteCount (front ++ [.align a] ++ back) = .ok whole ∧
            whole.toNat = first.toNat + second.toNat)
  weaker {a b : Alignment} {back : List Operand} : b ≤ a →
    aggregateByteCount (front ++ [.align a] ++ .align b :: back) =
      aggregateByteCount (front ++ [.align a] ++ back)
  unspecified {back : List Operand} :
    aggregateByteCount (front ++ .align .unspecified :: back) = aggregateByteCount (front ++ back)

theorem splitsBehind (front : List Operand) : SplitsBehind front where
  additive {a back} hfront hback hstrongest := by
    have helements : ∀ o ∈ front ++ [.align a], o.isElement := by
      intro o ho
      rcases List.mem_append.1 ho with hmem | hmem
      · exact hfront o hmem
      · obtain rfl := List.mem_singleton.1 hmem
        rfl
    obtain ⟨m, hm⟩ := exists_foldlM_place helements 0
    obtain ⟨n, hn⟩ := exists_foldlM_place hback 0
    have hwhole := aggregateSize_append_of_le hstrongest hm hn
    refine ⟨m + n, hwhole, ?_⟩
    intro hlt
    obtain ⟨first, hfirst, hfirstCount⟩ := exists_aggregateByteCount hm (by omega)
    obtain ⟨second, hsecond, hsecondCount⟩ := exists_aggregateByteCount hn (by omega)
    obtain ⟨whole, hsum, hwholeCount⟩ := exists_aggregateByteCount hwhole hlt
    exact ⟨first, second, whole, hfirstCount, hsecondCount, hwholeCount, by omega⟩
  weaker {a b back} hle := by
    apply aggregateByteCount_insert
    intro p hp
    apply placeWord_align_of_dvd
    intro hspecified
    exact bytes_dvd_of_aggregateSize_of_le hspecified hle (aggregateByteCount_eq_ok_iff.1 hp)
  unspecified {back} := by
    apply aggregateByteCount_insert
    intro p hp
    apply placeWord_align_of_dvd
    intro hspecified
    exact absurd rfl hspecified

example :
    let byte : Operand := .constantBytes { type := .u8, bytes := [1] }
    aggregateByteCount ([byte] ++ [.align (.pow2 0)] ++ [.align (.pow2 2)]) = .ok 4 ∧
      aggregateByteCount ([byte] ++ [.align (.pow2 0)]) = .ok 1 ∧
      aggregateByteCount [.align (.pow2 2)] = .ok 0 := by
  decide

end HsaModule.Operand
