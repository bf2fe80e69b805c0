import HsaModule.Proofs.Alignment.Order

namespace HsaModule.Alignment

def roundUp (a : Alignment) (offset : Nat) : Nat :=
  if a.bytes ≤ 1 ∨ offset % a.bytes = 0 then offset
  else offset + (a.bytes - offset % a.bytes)

theorem le_roundUp (a : Alignment) (offset : Nat) : offset ≤ a.roundUp offset := by
  rw [roundUp]
  split
  · exact Nat.le_refl offset
  · exact Nat.le_add_right _ _

theorem bytes_dvd_roundUp {a : Alignment} (ha : a ≠ .unspecified) (offset : Nat) :
    a.bytes ∣ a.roundUp offset := by
  have hpos := bytes_pos ha
  rw [roundUp]
  split
  case isTrue h =>
      rcases h with hone | hmultiple
      · obtain hone : a.bytes = 1 := by omega
        rw [hone]
        exact Nat.one_dvd offset
      · exact Nat.dvd_of_mod_eq_zero hmultiple
  case isFalse =>
      have hlt := Nat.mod_lt offset hpos
      have hmod := Nat.mod_le offset a.bytes
      have hbase := Nat.dvd_sub_mod (n := a.bytes) offset
      have hsum : offset + (a.bytes - offset % a.bytes) =
          offset - offset % a.bytes + a.bytes := by
        omega
      rw [hsum]
      exact Nat.dvd_add hbase (Nat.dvd_refl _)

theorem roundUp_le {a : Alignment} {offset target : Nat} (hle : offset ≤ target)
    (hdvd : a ≠ .unspecified → a.bytes ∣ target) : a.roundUp offset ≤ target := by
  rw [roundUp]
  split
  case isTrue => exact hle
  case isFalse h =>
      obtain ⟨hone, hmod⟩ := not_or.1 h
      have ha : a ≠ .unspecified := by
        rintro rfl
        exact hone (Nat.zero_le 1)
      -- the gap between two multiples is at least one boundary wide
      have hbase := Nat.dvd_sub_mod (n := a.bytes) offset
      have hmodle := Nat.mod_le offset a.bytes
      have hgap : a.bytes ≤ target - (offset - offset % a.bytes) := by
        apply Nat.le_of_dvd
        · omega
        · exact Nat.dvd_sub (hdvd ha) hbase
      have hlt := Nat.mod_lt offset (bytes_pos ha)
      omega

theorem roundUp_of_dvd {a : Alignment} {offset : Nat} (h : a ≠ .unspecified → a.bytes ∣ offset) :
    a.roundUp offset = offset :=
  Nat.le_antisymm (roundUp_le (Nat.le_refl offset) h) (a.le_roundUp offset)

theorem roundUp_add {a : Alignment} {base : Nat} (hbase : a ≠ .unspecified → a.bytes ∣ base)
    (offset : Nat) : a.roundUp (base + offset) = base + a.roundUp offset := by
  apply Nat.le_antisymm
  · apply roundUp_le
    · exact Nat.add_le_add_left (a.le_roundUp offset) base
    · intro ha
      exact Nat.dvd_add (hbase ha) (bytes_dvd_roundUp ha offset)
  · have hle := a.le_roundUp (base + offset)
    have hback : a.roundUp offset ≤ a.roundUp (base + offset) - base := by
      apply roundUp_le
      · omega
      · intro ha
        exact Nat.dvd_sub (bytes_dvd_roundUp ha (base + offset)) (hbase ha)
    omega

end HsaModule.Alignment
