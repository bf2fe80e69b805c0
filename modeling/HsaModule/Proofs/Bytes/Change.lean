import HsaModule.Proofs.Bytes.Access

namespace HsaModule

section

variable {α β : Type}

/-- What `x` answers, `y` answers too. Only a truncation may become something else. -/
def Kept (x y : Except Error α) : Prop :=
  y = x ∨ ∃ offset size, x = .error (.truncated offset size)

theorem Kept.eq_ok {a : α} {y : Except Error α} (h : Kept (.ok a) y) : y = .ok a := by
  rcases h with rfl | ⟨offset, size, hcut⟩
  · rfl
  · cases hcut

theorem Kept.bind {x y : Except Error α} {f g : α → Except Error β} (h : Kept x y)
    (hfg : ∀ a, Kept (f a) (g a)) : Kept (x.bind f) (y.bind g) := by
  rcases h with rfl | ⟨offset, size, rfl⟩
  · cases y with
    | error e => exact .inl rfl
    | ok a => exact hfg a
  · exact .inr ⟨offset, size, rfl⟩

theorem Kept.map {x y : Except Error α} (h : Kept x y) (f : α → β) :
    Kept (x.map f) (y.map f) := by
  rcases h with rfl | ⟨offset, size, rfl⟩
  · exact .inl rfl
  · exact .inr ⟨offset, size, rfl⟩

end

namespace Bytes

theorem kept_slice (data suffix : Bytes) (offset size : UInt64) :
    Kept (data.slice offset size) (slice (data ++ suffix) offset size) := by
  by_cases hle : offset.toNat + size.toNat ≤ data.length
  · left
    rw [← slice_take hle, List.take_left]
  · exact .inr ⟨offset, size, slice_of_lt (Nat.not_le.1 hle)⟩

theorem kept_word32 (data suffix : Bytes) (offset : UInt64) :
    Kept (data.word32 offset) (word32 (data ++ suffix) offset) :=
  (kept_slice data suffix offset 4).map _

theorem kept_word64 (data suffix : Bytes) (offset : UInt64) :
    Kept (data.word64 offset) (word64 (data ++ suffix) offset) :=
  (kept_slice data suffix offset 8).map _

def overwrite (data : Bytes) (start : Nat) (part : Bytes) : Bytes :=
  data.take start ++ part ++ data.drop (start + part.length)

section

variable {data part : Bytes} {start : Nat}

theorem take_overwrite (h : start ≤ data.length) :
    (data.overwrite start part).take start = data.take start := by
  rw [overwrite, List.append_assoc]
  exact List.take_left' (List.length_take_of_le h)

theorem drop_overwrite (h : start ≤ data.length) :
    (data.overwrite start part).drop (start + part.length) = data.drop (start + part.length) := by
  apply List.drop_left'
  rw [List.length_append, List.length_take_of_le h]

theorem length_overwrite (h : start + part.length ≤ data.length) :
    (data.overwrite start part).length = data.length := by
  rw [overwrite, List.length_append, List.length_append, List.length_take, List.length_drop]
  omega

theorem holds_overwrite (h : start ≤ data.length) :
    (data.overwrite start part).Holds start part :=
  ⟨data.take start, data.drop (start + part.length), rfl, List.length_take_of_le h⟩

theorem slice_overwrite (h : start + part.length ≤ data.length) {offset size : UInt64}
    (hapart : offset.toNat + size.toNat ≤ start ∨ start + part.length ≤ offset.toNat) :
    (data.overwrite start part).slice offset size = data.slice offset size := by
  have hstart : start ≤ data.length := Nat.le_of_add_right_le h
  rcases hapart with hbefore | hafter
  · rw [← slice_take hbefore, take_overwrite hstart, slice_take hbefore]
  -- the bytes behind `part` are where they were, since `part` covers as many as it has
  · obtain ⟨gap, hgap⟩ := Nat.exists_eq_add_of_le hafter
    have hdrop : (data.overwrite start part).drop offset.toNat = data.drop offset.toNat := by
      rw [hgap, ← List.drop_drop, drop_overwrite hstart, List.drop_drop]
    simp only [slice, length_overwrite h, hdrop]

theorem word64_overwrite (h : start + part.length ≤ data.length) {offset : UInt64}
    (hapart : offset.toNat + 8 ≤ start ∨ start + part.length ≤ offset.toNat) :
    (data.overwrite start part).word64 offset = data.word64 offset := by
  rw [word64, slice_overwrite h hapart, word64]

end

end Bytes

end HsaModule
