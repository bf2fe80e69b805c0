namespace HsaModule

/-- Where the last `c` stands in a list is the same however the list is put together. -/
theorem append_cons_inj_of_last {α : Type} {a b d e : List α} {c : α} (hd : c ∉ d) (he : c ∉ e)
    (h : a ++ c :: d = b ++ c :: e) : a = b ∧ d = e := by
  rcases List.append_eq_append_iff.1 h with ⟨between, rfl, hrest⟩ | ⟨between, rfl, hrest⟩
  · cases between with
    | nil => exact ⟨(List.append_nil a).symm, (List.cons.inj hrest).2⟩
    | cons x between =>
        obtain ⟨-, rfl⟩ := List.cons.inj hrest
        exact absurd (List.mem_append_right between (.head e)) hd
  · cases between with
    | nil => exact ⟨List.append_nil b, (List.cons.inj hrest).2.symm⟩
    | cons x between =>
        obtain ⟨-, rfl⟩ := List.cons.inj hrest
        exact absurd (List.mem_append_right between (.head d)) he

theorem toString_nat_inj {m n : Nat} (h : toString m = toString n) : m = n := by
  have hdigits : Nat.toDigits 10 m = Nat.toDigits 10 n := by
    rw [← Nat.toList_repr, ← Nat.toList_repr, ← Nat.toString_eq_repr, ← Nat.toString_eq_repr, h]
  rw [← Nat.ofDigitChars_toDigits (n := m) (by decide) (Nat.le_refl 10), hdigits,
    Nat.ofDigitChars_toDigits (by decide) (Nat.le_refl 10)]

theorem space_notMem_toString (n : Nat) : ' ' ∉ (toString n).toList := by
  rw [Nat.toString_eq_repr, Nat.toList_repr]
  intro h
  exact absurd (Nat.isDigit_of_mem_toDigits (by decide) (Nat.le_refl 10) h) (by decide)

theorem isValidUTF8_of_utf8Encode_append {l : List Char} {bytes : ByteArray}
    (h : (l.utf8Encode ++ bytes).IsValidUTF8) : bytes.IsValidUTF8 := by
  induction l with
  | nil => simpa using h
  | cons c l ih =>
      rw [List.utf8Encode_cons, ByteArray.append_assoc,
        ByteArray.isValidUTF8_utf8Encode_singleton_append_iff] at h
      exact ih h

theorem exists_eq_append_iff_toByteArray {s t : String} :
    (∃ rest, s = t ++ rest) ↔ ∃ rest, s.toByteArray = t.toByteArray ++ rest := by
  constructor
  · rintro ⟨rest, rfl⟩
    exact ⟨rest.toByteArray, String.toByteArray_append⟩
  · rintro ⟨bytes, h⟩
    have hs := s.isValidUTF8
    rw [h, ← String.utf8Encode_toList] at hs
    refine ⟨String.ofByteArray bytes (isValidUTF8_of_utf8Encode_append hs), ?_⟩
    rw [← String.toByteArray_inj, String.toByteArray_append, h]

end HsaModule
