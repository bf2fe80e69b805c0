import HsaModule.Alignment
import Mathlib.Algebra.Order.Group.Nat
import Mathlib.Order.Bounds.Defs

namespace HsaModule.Alignment

theorem le_iff_code_le {a b : Alignment} : a ≤ b ↔ Coded.code a ≤ Coded.code b := by
  change (compare (Coded.code a) (Coded.code b)).isLE ↔ _
  exact Nat.isLE_compare

theorem le_antisymm {a b : Alignment} (hab : a ≤ b) (hba : b ≤ a) : a = b :=
  LawfulCoded.code_injective (Nat.le_antisymm (le_iff_code_le.1 hab) (le_iff_code_le.1 hba))

theorem le_unspecified_iff {a : Alignment} : a ≤ .unspecified ↔ a = .unspecified := by
  rw [le_iff_code_le]
  constructor
  · intro h
    exact LawfulCoded.code_injective (Nat.le_zero.1 h)
  · rintro rfl
    exact Nat.le_refl _

theorem ne_unspecified_of_le {a b : Alignment} (ha : a ≠ .unspecified) (h : a ≤ b) :
    b ≠ .unspecified := by
  rintro rfl
  exact ha (le_unspecified_iff.1 h)

theorem pow2_le_pow2_iff {e f : Fin 9} : pow2 e ≤ pow2 f ↔ e.val ≤ f.val :=
  le_iff_code_le.trans Nat.succ_le_succ_iff

theorem bytes_pow2 (e : Fin 9) : (pow2 e).bytes = 2 ^ e.val := Nat.one_shiftLeft e.val

theorem bytes_dvd_of_le {a b : Alignment} (ha : a ≠ .unspecified) (h : a ≤ b) :
    a.bytes ∣ b.bytes := by
  cases a with
  | unspecified => exact absurd rfl ha
  | pow2 e =>
      cases b with
      | unspecified => exact absurd rfl (ne_unspecified_of_le ha h)
      | pow2 f =>
          rw [bytes_pow2, bytes_pow2]
          exact Nat.pow_dvd_pow 2 (pow2_le_pow2_iff.1 h)

theorem isPowerOfTwo_bytes {a : Alignment} (ha : a ≠ .unspecified) : a.bytes.isPowerOfTwo := by
  cases a with
  | unspecified => exact absurd rfl ha
  | pow2 e => exact ⟨e.val, bytes_pow2 e⟩

theorem bytes_pos {a : Alignment} (ha : a ≠ .unspecified) : 0 < a.bytes :=
  Nat.pos_of_isPowerOfTwo (isPowerOfTwo_bytes ha)

theorem bytes_le (a : Alignment) : a.bytes ≤ 256 := by
  cases a with
  | unspecified => exact Nat.zero_le 256
  | pow2 e =>
      rw [bytes_pow2]
      exact Nat.pow_le_pow_right (by decide) (Nat.le_of_lt_succ e.isLt)

theorem le_iff_bytes_le {a b : Alignment} : a ≤ b ↔ a.bytes ≤ b.bytes := by
  cases a with
  | unspecified => exact iff_of_true (le_iff_code_le.2 (Nat.zero_le _)) (Nat.zero_le _)
  | pow2 e =>
      cases b with
      | unspecified =>
          rw [le_unspecified_iff, bytes_pow2]
          exact iff_of_false nofun (Nat.not_le.2 (Nat.two_pow_pos e.val))
      | pow2 f =>
          rw [pow2_le_pow2_iff, bytes_pow2, bytes_pow2]
          exact (Nat.pow_le_pow_iff_right (by decide)).symm

theorem exists_isGreatest (a b : Alignment) :
    ∃ c, IsGreatest {a, b} c ∧ c.bytes = max a.bytes b.bytes := by
  rcases Nat.le_total a.bytes b.bytes with h | h
  · refine ⟨b, ⟨.inr rfl, ?_⟩, (Nat.max_eq_right h).symm⟩
    rintro c (rfl | rfl)
    · exact le_iff_bytes_le.2 h
    · exact le_iff_bytes_le.2 (Nat.le_refl _)
  · refine ⟨a, ⟨.inl rfl, ?_⟩, (Nat.max_eq_left h).symm⟩
    rintro c (rfl | rfl)
    · exact le_iff_bytes_le.2 (Nat.le_refl _)
    · exact le_iff_bytes_le.2 h

theorem trailingZeros_two_pow (k : Nat) : Int.trailingZeros (2 ^ k : Nat) = k := by
  induction k with
  | zero => rfl
  | succ k ih =>
      have hpos : ((2 ^ k : Nat) : Int) ≠ 0 := Int.natCast_ne_zero.2 (Nat.two_pow_pos k).ne'
      rw [Nat.pow_succ', Int.natCast_mul]
      exact (Int.trailingZeros_two_mul hpos).trans (congrArg Nat.succ ih)

theorem ofCode?_succ_eq_some_iff {k : Nat} {a : Alignment} :
    Coded.ofCode? Alignment (k + 1) = some a ↔ a ≠ .unspecified ∧ a.bytes = 2 ^ k := by
  rw [LawfulCoded.ofCode?_eq_some_iff]
  cases a with
  | unspecified => exact iff_of_false nofun fun h => h.1 rfl
  | pow2 e =>
      rw [and_iff_right nofun, bytes_pow2, Nat.pow_right_inj (Nat.le_refl 2)]
      exact Nat.succ_inj

theorem ofBytes?_eq_some_iff {n : Nat} {a : Alignment} :
    ofBytes? n = some a ↔ a ≠ .unspecified ∧ a.bytes = n := by
  rw [ofBytes?]
  split
  case isFalse hnot =>
      refine iff_of_false nofun ?_
      rintro ⟨ha, rfl⟩
      exact hnot (isPowerOfTwo_bytes ha)
  case isTrue hpower =>
      obtain ⟨k, rfl⟩ := hpower
      rw [trailingZeros_two_pow, ← ofCode?_succ_eq_some_iff]
      change (if k + 1 < UInt8.size then _ else _) = _ ↔ _
      -- a number that does not fit is no code either
      split
      case isTrue => rfl
      case isFalse hwide =>
          refine iff_of_false nofun ?_
          intro h
          have hcode := LawfulCoded.code_lt_capacity a
          rw [LawfulCoded.ofCode?_eq_some_iff.1 h] at hcode
          exact hwide hcode

theorem le_iff_bytes_dvd {a b : Alignment} (ha : a ≠ .unspecified) (hb : b ≠ .unspecified) :
    a ≤ b ↔ a.bytes ∣ b.bytes := by
  constructor
  · exact bytes_dvd_of_le ha
  · intro hdvd
    exact le_iff_bytes_le.2 (Nat.le_of_dvd (bytes_pos hb) hdvd)

theorem exists_bytes_iff {n : Nat} :
    (∃ a : Alignment, a ≠ .unspecified ∧ a.bytes = n) ↔ n.isPowerOfTwo ∧ n ≤ 256 := by
  constructor
  · rintro ⟨a, ha, rfl⟩
    exact ⟨isPowerOfTwo_bytes ha, a.bytes_le⟩
  · rintro ⟨⟨k, rfl⟩, hle⟩
    have hk : k ≤ 8 := (Nat.pow_le_pow_iff_right (by decide : 1 < 2)).1 hle
    exact ⟨pow2 ⟨k, Nat.lt_succ_of_le hk⟩, nofun, bytes_pow2 _⟩

theorem ofBytes?_eq_none_iff {n : Nat} :
    ofBytes? n = none ↔ n = 0 ∨ ¬ n.isPowerOfTwo ∨ n.isPowerOfTwo ∧ 256 < n := by
  have hsome : (∃ a, ofBytes? n = some a) ↔ n.isPowerOfTwo ∧ n ≤ 256 := by
    simp only [ofBytes?_eq_some_iff, exists_bytes_iff]
  rw [Option.eq_none_iff_forall_ne_some, ← not_exists, hsome]
  constructor
  · intro h
    by_cases hpower : n.isPowerOfTwo
    · exact .inr (.inr ⟨hpower, Nat.lt_of_not_le fun hle => h ⟨hpower, hle⟩⟩)
    · exact .inr (.inl hpower)
  · rintro (rfl | hnot | ⟨-, hlt⟩) ⟨hpower, hle⟩
    · exact Nat.not_lt_zero 0 (Nat.pos_of_isPowerOfTwo hpower)
    · exact hnot hpower
    · exact Nat.not_le_of_lt hlt hle

/-- An alignment is known by its number of bytes, and the order of alignments is the order of these
numbers. Among alignments that are specified it is also divisibility. -/
theorem knownByBytes :
    (∀ (n : Nat) (a : Alignment), ofBytes? n = some a ↔ a ≠ .unspecified ∧ a.bytes = n) ∧
      (∀ n : Nat, ofBytes? n = none ↔
        n = 0 ∨ ¬ n.isPowerOfTwo ∨ n.isPowerOfTwo ∧ 256 < n) ∧
      (∀ a b : Alignment, a ≤ b ↔ a.bytes ≤ b.bytes) ∧
      ∀ a b : Alignment, a ≠ .unspecified → b ≠ .unspecified → (a ≤ b ↔ a.bytes ∣ b.bytes) := by
  refine ⟨?_, ?_, ?_, ?_⟩
  · intro n a
    exact ofBytes?_eq_some_iff
  · intro n
    exact ofBytes?_eq_none_iff
  · intro a b
    exact le_iff_bytes_le
  · intro a b ha hb
    exact le_iff_bytes_dvd ha hb

example : ofBytes? 256 = some largest ∧ ofBytes? 512 = none ∧ ofBytes? 96 = none := by
  decide

end HsaModule.Alignment
