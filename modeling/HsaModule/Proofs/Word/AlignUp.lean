import HsaModule.Word
import Mathlib.Algebra.Order.Group.Nat
import Mathlib.Order.Bounds.Basic

/-!
Rounding a word up to a multiple of a power of two. What is left of the masked sum is the least
multiple from the size on, and the sum leaves the range of words exactly where no multiple is left
in it. The laws of rounding follow from "least multiple" alone.
-/

namespace HsaModule.Word

variable {size boundary : UInt64}

theorem isPowerOfTwo_iff {w : UInt64} : isPowerOfTwo w ↔ w.toNat.isPowerOfTwo := by
  rw [isPowerOfTwo, beq_iff_eq, Nat.one_shiftLeft]
  constructor
  · intro h
    exact ⟨w.toNat.log2, h.symm⟩
  · rintro ⟨k, hk⟩
    rw [hk, Nat.log2_two_pow]

theorem toNat_and_not_mask {w mask : UInt64} {k : Nat} (hmask : mask.toNat = 2 ^ k - 1) :
    (w &&& ~~~mask).toNat = w.toNat / 2 ^ k * 2 ^ k := by
  have hmasklt : mask.toNat < 2 ^ 64 := mask.toNat_lt
  have hnot : UInt64.size - 1 - mask.toNat = 2 ^ 64 - (mask.toNat + 1) := by
    rw [Nat.add_comm, ← Nat.sub_sub]
    rfl
  apply Nat.eq_of_testBit_eq
  intro i
  rw [UInt64.toNat_and, UInt64.toNat_not, hnot, Nat.testBit_and,
    Nat.testBit_two_pow_sub_succ hmasklt, hmask, Nat.testBit_two_pow_sub_one,
    Nat.testBit_mul_two_pow, Nat.testBit_div_two_pow]
  -- the mask clears the bits below `k`, and no word has a bit from 64 on
  by_cases hik : k ≤ i
  · by_cases hi : i < 64
    · simp [hik, hi, Nat.not_lt.2 hik, Nat.sub_add_cancel hik]
    · have hle : 2 ^ 64 ≤ 2 ^ i := Nat.pow_le_pow_right (by decide) (Nat.not_lt.1 hi)
      have hhigh : w.toNat.testBit i = false :=
        Nat.testBit_lt_two_pow (Nat.lt_of_lt_of_le w.toNat_lt hle)
      simp [hik, Nat.sub_add_cancel hik, hhigh]
  · simp [hik, Nat.lt_of_not_le hik]

/-- The multiples of a boundary from a size on, as far as there are words for them. -/
def multiplesFrom (size boundary : UInt64) : Set Nat :=
  {n | size.toNat ≤ n ∧ n < 2 ^ 64 ∧ boundary.toNat ∣ n}

inductive RoundsUp (size boundary : UInt64) : Except ArithmeticFault UInt64 → Prop
  | notPowerOfTwo (hboundary : ¬ boundary.toNat.isPowerOfTwo) :
      RoundsUp size boundary (.error .notPowerOfTwo)
  | least {rounded : UInt64} (hboundary : boundary.toNat.isPowerOfTwo)
      (hleast : IsLeast (multiplesFrom size boundary) rounded.toNat) :
      RoundsUp size boundary (.ok rounded)
  | overflow (hboundary : boundary.toNat.isPowerOfTwo)
      (hnone : multiplesFrom size boundary = ∅) :
      RoundsUp size boundary (.error .addOverflow)

theorem RoundsUp.unique {x y : Except ArithmeticFault UInt64} (hx : RoundsUp size boundary x)
    (hy : RoundsUp size boundary y) : x = y := by
  cases hx with
  | notPowerOfTwo hboundary =>
      cases hy with
      | notPowerOfTwo => rfl
      | least hboundary' => exact absurd hboundary' hboundary
      | overflow hboundary' => exact absurd hboundary' hboundary
  | least hboundary hleast =>
      cases hy with
      | notPowerOfTwo hboundary' => exact absurd hboundary hboundary'
      | least _ hleast' => rw [UInt64.toNat_inj.1 (hleast.unique hleast')]
      | overflow _ hnone => exact absurd hnone (Set.nonempty_iff_ne_empty.1 hleast.nonempty)
  | overflow hboundary hnone =>
      cases hy with
      | notPowerOfTwo hboundary' => exact absurd hboundary hboundary'
      | least _ hleast => exact absurd hnone (Set.nonempty_iff_ne_empty.1 hleast.nonempty)
      | overflow => rfl

theorem RoundsUp.congr {size' : UInt64} {x : Except ArithmeticFault UInt64}
    (hx : RoundsUp size' boundary x)
    (h : multiplesFrom size boundary = multiplesFrom size' boundary) :
    RoundsUp size boundary x := by
  cases hx with
  | notPowerOfTwo hboundary => exact .notPowerOfTwo hboundary
  | least hboundary hleast => exact .least hboundary (h ▸ hleast)
  | overflow hboundary hnone => exact .overflow hboundary (h.trans hnone)

/-- Of `boundary` numbers that follow one another, one is a multiple; it is the least from the first
of them on. -/
theorem isLeast_div_mul {n b : Nat} (hb : 0 < b) :
    IsLeast {m | n ≤ m ∧ b ∣ m} ((n + (b - 1)) / b * b) := by
  have hmod := Nat.mod_lt (n + (b - 1)) hb
  have hdiv := Nat.div_add_mod' (n + (b - 1)) b
  refine ⟨⟨by omega, Nat.dvd_mul_left b _⟩, ?_⟩
  rintro m ⟨hle, c, rfl⟩
  have hquotient : (n + (b - 1)) / b ≤ c := by
    rw [Nat.div_le_iff_le_mul hb, Nat.mul_comm]
    omega
  rw [Nat.mul_comm b c]
  exact Nat.mul_le_mul_right b hquotient

theorem toNat_sub_one (hboundary : boundary.toNat.isPowerOfTwo) :
    (boundary - 1).toNat = boundary.toNat - 1 := by
  have hpos := Nat.pos_of_isPowerOfTwo hboundary
  exact UInt64.toNat_sub_of_le _ _ (UInt64.le_iff_toNat_le.2 hpos)

theorem dvd_two_pow_of_isPowerOfTwo (hboundary : boundary.toNat.isPowerOfTwo) :
    boundary.toNat ∣ 2 ^ 64 := by
  obtain ⟨k, hk⟩ := hboundary
  have hlt : boundary.toNat < 2 ^ 64 := boundary.toNat_lt
  rw [hk] at hlt ⊢
  exact Nat.pow_dvd_pow 2 (Nat.le_of_lt ((Nat.pow_lt_pow_iff_right (by decide)).1 hlt))

theorem alignUp_eq_ok {last : UInt64} (hboundary : boundary.toNat.isPowerOfTwo)
    (hlast : last.toNat = size.toNat + (boundary.toNat - 1)) :
    ∃ rounded, alignUp size boundary = .ok rounded ∧
      IsLeast (multiplesFrom size boundary) rounded.toNat := by
  have hsum : add? size (boundary - 1) = some last := by
    rw [add?_eq_some_iff, toNat_sub_one hboundary, hlast]
  refine ⟨last &&& ~~~(boundary - 1), ?_, ?_⟩
  · rw [alignUp, if_pos (isPowerOfTwo_iff.2 hboundary), hsum]
  · have hleast := isLeast_div_mul (n := size.toNat) (Nat.pos_of_isPowerOfTwo hboundary)
    obtain ⟨k, hk⟩ := hboundary
    have hmask : (boundary - 1).toNat = 2 ^ k - 1 := by
      rw [toNat_sub_one ⟨k, hk⟩, hk]
    rw [← hlast, hk, ← toNat_and_not_mask hmask, ← hk] at hleast
    refine ⟨⟨hleast.1.1, UInt64.toNat_lt _, hleast.1.2⟩, ?_⟩
    rintro m ⟨hle, -, hdvd⟩
    exact hleast.2 ⟨hle, hdvd⟩

theorem multiplesFrom_eq_empty (hboundary : boundary.toNat.isPowerOfTwo)
    (hsum : 2 ^ 64 ≤ size.toNat + (boundary.toNat - 1)) : multiplesFrom size boundary = ∅ := by
  rw [Set.eq_empty_iff_forall_notMem]
  rintro m ⟨hle, hlt, hdvd⟩
  have hgap : boundary.toNat ≤ 2 ^ 64 - m := by
    apply Nat.le_of_dvd
    · omega
    · exact Nat.dvd_sub (dvd_two_pow_of_isPowerOfTwo hboundary) hdvd
  have hpos := Nat.pos_of_isPowerOfTwo hboundary
  omega

theorem roundsUp_alignUp (size boundary : UInt64) :
    RoundsUp size boundary (alignUp size boundary) := by
  by_cases hboundary : boundary.toNat.isPowerOfTwo
  · by_cases hsum : size.toNat + (boundary.toNat - 1) < 2 ^ 64
    · have hlast : (UInt64.ofNat (size.toNat + (boundary.toNat - 1))).toNat =
          size.toNat + (boundary.toNat - 1) := UInt64.toNat_ofNat_of_lt' hsum
      obtain ⟨rounded, hrounded, hleast⟩ := alignUp_eq_ok hboundary hlast
      rw [hrounded]
      exact .least hboundary hleast
    · have hnone : add? size (boundary - 1) = none := by
        rw [add?_eq_none_iff, toNat_sub_one hboundary]
        exact Nat.le_of_not_lt hsum
      rw [alignUp, if_pos (isPowerOfTwo_iff.2 hboundary), hnone]
      exact .overflow hboundary (multiplesFrom_eq_empty hboundary (Nat.le_of_not_lt hsum))
  · rw [alignUp, if_neg (mt isPowerOfTwo_iff.1 hboundary)]
    exact .notPowerOfTwo hboundary

example :
    alignUp 0xfffffffffffffff0 16 = .ok 0xfffffffffffffff0 ∧
      alignUp 0xfffffffffffffff1 16 = .error .addOverflow := by
  decide

theorem alignUp_eq_iff {x : Except ArithmeticFault UInt64} :
    alignUp size boundary = x ↔ RoundsUp size boundary x := by
  constructor
  · rintro rfl
    exact roundsUp_alignUp size boundary
  · intro h
    exact (roundsUp_alignUp size boundary).unique h

theorem alignUp_congr {size' : UInt64}
    (h : multiplesFrom size boundary = multiplesFrom size' boundary) :
    alignUp size boundary = alignUp size' boundary :=
  alignUp_eq_iff.2 ((roundsUp_alignUp size' boundary).congr h)

theorem alignUp_eq_ok_iff {rounded : UInt64} :
    alignUp size boundary = .ok rounded ↔
      boundary.toNat.isPowerOfTwo ∧ IsLeast (multiplesFrom size boundary) rounded.toNat := by
  rw [alignUp_eq_iff]
  constructor
  · intro h
    cases h with
    | least hboundary hleast => exact ⟨hboundary, hleast⟩
  · rintro ⟨hboundary, hleast⟩
    exact .least hboundary hleast

theorem exists_alignUp (hboundary : boundary.toNat.isPowerOfTwo) {m : Nat}
    (hm : m ∈ multiplesFrom size boundary) : ∃ rounded, alignUp size boundary = .ok rounded := by
  cases h : alignUp size boundary with
  | ok rounded => exact ⟨rounded, rfl⟩
  | error fault =>
      cases alignUp_eq_iff.1 h with
      | notPowerOfTwo hnot => exact absurd hboundary hnot
      | overflow _ hnone =>
          rw [hnone] at hm
          cases hm

/-- From the least multiple of a smaller boundary on there are the same multiples of a larger one,
as these are multiples of the smaller one themselves. -/
theorem multiplesFrom_eq_of_isLeast {smaller middle : UInt64}
    (hdvd : smaller.toNat ∣ boundary.toNat)
    (hleast : IsLeast (multiplesFrom size smaller) middle.toNat) :
    multiplesFrom middle boundary = multiplesFrom size boundary := by
  ext m
  constructor
  · rintro ⟨hle, hlt, hm⟩
    exact ⟨Nat.le_trans hleast.1.1 hle, hlt, hm⟩
  · rintro ⟨hle, hlt, hm⟩
    exact ⟨hleast.2 ⟨hle, hlt, Nat.dvd_trans hdvd hm⟩, hlt, hm⟩

theorem dvd_of_isPowerOfTwo_of_le {a b : Nat} (ha : a.isPowerOfTwo) (hb : b.isPowerOfTwo)
    (hle : a ≤ b) : a ∣ b := by
  obtain ⟨k, rfl⟩ := ha
  obtain ⟨l, rfl⟩ := hb
  exact Nat.pow_dvd_pow 2 ((Nat.pow_le_pow_iff_right (by decide)).1 hle)

theorem multiplesFrom_subset {smaller : UInt64} (hdvd : smaller.toNat ∣ boundary.toNat) :
    multiplesFrom size boundary ⊆ multiplesFrom size smaller := by
  rintro m ⟨hle, hlt, hm⟩
  exact ⟨hle, hlt, Nat.dvd_trans hdvd hm⟩

/-- Rounding up to a boundary gives the least multiple that is left, fails where none is left or the
boundary is no power of two, and behaves as a rounding. -/
structure RoundsToLeast (boundary : UInt64) : Prop where
  ends_iff (size : UInt64) (x : Except ArithmeticFault UInt64) :
    alignUp size boundary = x ↔ RoundsUp size boundary x
  idempotent {size rounded : UInt64} : alignUp size boundary = .ok rounded →
    alignUp rounded boundary = .ok rounded
  monotone {size size' rounded' : UInt64} : size ≤ size' →
    alignUp size' boundary = .ok rounded' →
      ∃ rounded, alignUp size boundary = .ok rounded ∧ rounded ≤ rounded'
  near {size rounded : UInt64} : alignUp size boundary = .ok rounded →
    size.toNat ≤ rounded.toNat ∧ rounded.toNat - size.toNat < boundary.toNat
  absorbs {size smaller : UInt64} : smaller.toNat.isPowerOfTwo → boundary.toNat.isPowerOfTwo →
    smaller ≤ boundary →
      (alignUp size smaller).bind (alignUp · boundary) = alignUp size boundary

theorem roundsToLeast_alignUp (boundary : UInt64) : RoundsToLeast boundary where
  ends_iff _ _ := alignUp_eq_iff
  idempotent h := by
    obtain ⟨hboundary, hleast⟩ := alignUp_eq_ok_iff.1 h
    rw [alignUp_congr (multiplesFrom_eq_of_isLeast (Nat.dvd_refl _) hleast)]
    exact h
  monotone hle h := by
    obtain ⟨hboundary, hleast⟩ := alignUp_eq_ok_iff.1 h
    have hmem := hleast.1
    have hmem' := And.intro (Nat.le_trans (UInt64.le_iff_toNat_le.1 hle) hmem.1) hmem.2
    obtain ⟨rounded, hrounded⟩ := exists_alignUp hboundary hmem'
    have hbelow := (alignUp_eq_ok_iff.1 hrounded).2.2 hmem'
    exact ⟨rounded, hrounded, UInt64.le_iff_toNat_le.2 hbelow⟩
  near h := by
    obtain ⟨hboundary, ⟨hle, hlt, hdvd⟩, hleast⟩ := alignUp_eq_ok_iff.1 h
    refine ⟨hle, ?_⟩
    by_contra hfar
    -- the multiple before this one would still not be below the size
    have hpos := Nat.pos_of_isPowerOfTwo hboundary
    have hbefore := hleast ⟨by omega, by omega, Nat.dvd_sub hdvd (Nat.dvd_refl _)⟩
    omega
  absorbs {size smaller} hsmaller hboundary hle := by
    have hdvd := dvd_of_isPowerOfTwo_of_le hsmaller hboundary (UInt64.le_iff_toNat_le.1 hle)
    cases h : alignUp size smaller with
    | ok middle =>
        obtain ⟨-, hleast⟩ := alignUp_eq_ok_iff.1 h
        exact alignUp_congr (multiplesFrom_eq_of_isLeast hdvd hleast)
    | error fault =>
        cases alignUp_eq_iff.1 h with
        | notPowerOfTwo hnot => exact absurd hsmaller hnot
        | overflow _ hnone =>
            symm
            rw [Except.bind, alignUp_eq_iff]
            exact .overflow hboundary (Set.subset_eq_empty (multiplesFrom_subset hdvd) hnone)

end HsaModule.Word
