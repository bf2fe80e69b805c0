import HsaModule.Proofs.Coded.Value
import HsaModule.Proofs.DataType.Encoded

/-!
How the codes of types are made up. The first codes are those of types that are not packed. The code
of a packed type leaves the code of its lanes as the remainder by 32, and the quotient tells the
width of the register. Each table about types is compared with these two numbers on its own.
-/

namespace HsaModule.DataType

/-- `n` is put together from the code of `lane`, one of the first eleven, and the width of a
register of `16 * 2 ^ k` bits, into which two lanes fit. -/
structure Packs (n k : Nat) (lane : DataType) : Prop where
  exponent : 1 ≤ k ∧ k ≤ 3
  lane_code : 1 ≤ Coded.code lane ∧ Coded.code lane ≤ 11
  eq_add : n = Coded.code lane + 32 * k
  fits : 2 * lane.bitCount ≤ 16 * 2 ^ k

theorem isPacked_iff_le_code (t : DataType) : t.isPacked ↔ 32 ≤ Coded.code t := by
  cases t <;> decide

theorem code_bounds_of_isPacked {t : DataType} (h : t.isPacked) :
    Coded.code t < 128 ∧ 1 ≤ Coded.code t % 32 ∧ Coded.code t % 32 ≤ 11 := by
  revert h
  cases t <;> decide

theorem bitCount_of_isPacked {t : DataType} (h : t.isPacked) :
    t.bitCount = 16 * 2 ^ (Coded.code t / 32) := by
  revert h
  cases t <;> decide

theorem exists_lane {t : DataType} (h : t.isPacked) :
    ∃ lane, t.lane.result = .ok lane ∧ Coded.code lane = Coded.code t % 32 ∧
      t.lanes * lane.bitCount = t.bitCount ∧ 2 ≤ t.lanes := by
  cases t <;> first | exact ⟨_, rfl, rfl, rfl, by decide⟩ | cases h

theorem exists_packedUnsigned? {t : DataType} (h : t.isPacked) :
    ∃ u, t.packedUnsigned? = some u ∧ u.bitCount = t.bitCount ∧ u.lanes = t.lanes ∧
      u.isPacked ∧ Coded.code u % 32 ≤ 4 := by
  cases t <;> first | exact ⟨_, rfl, rfl, rfl, rfl, by decide⟩ | cases h

theorem isFloat_iff_code (t : DataType) :
    t.isFloat ↔ 9 ≤ Coded.code t ∧ Coded.code t ≤ 11 := by
  cases t <;> decide

theorem isUnsigned_iff_code (t : DataType) :
    t.isUnsigned ↔ 1 ≤ Coded.code t ∧ Coded.code t ≤ 4 := by
  cases t <;> decide

theorem isFloatPacked_iff_code (t : DataType) :
    t.isFloatPacked ↔ 32 ≤ Coded.code t ∧ 9 ≤ Coded.code t % 32 := by
  cases t <;> decide

theorem toBits_spec (t : DataType) : t.toBits.isBits ∧ t.toBits.bitCount = t.bitCount := by
  cases t <;> decide

structure Unpacked (t : DataType) : Prop where
  isPacked : ¬ t.isPacked
  laneType : t.lane.result = .error (.unsupportedType .lane t)
  lanes : t.lanes = 0
  isFloatPacked : ¬ t.isFloatPacked
  packedUnsigned : t.packedUnsigned? = none

theorem unpacked_of_not_isPacked {t : DataType} (h : ¬ t.isPacked) : t.Unpacked := by
  cases t <;> first | exact absurd rfl h | exact ⟨h, rfl, rfl, Bool.false_ne_true, rfl⟩

theorem lane_eq_ok_iff {t lane : DataType} :
    t.lane.result = .ok lane ↔ t.isPacked ∧ Coded.code lane = Coded.code t % 32 := by
  by_cases h : t.isPacked
  · obtain ⟨lane', hlane, hcode, -⟩ := exists_lane h
    rw [hlane, and_iff_right h, ← hcode, Except.ok.injEq]
    constructor
    · rintro rfl
      rfl
    · exact fun heq => LawfulCoded.code_injective heq.symm
  · rw [(unpacked_of_not_isPacked h).laneType]
    exact iff_of_false nofun fun hlane => h hlane.1

theorem lanes_mul_bitCount {t lane : DataType} (h : t.lane.result = .ok lane) :
    t.lanes * lane.bitCount = t.bitCount ∧ 2 ≤ t.lanes := by
  obtain ⟨lane', hlane, -, hlanes⟩ := exists_lane (lane_eq_ok_iff.1 h).1
  obtain rfl := Except.ok.inj (hlane.symm.trans h)
  exact hlanes

/-- The lane that the table gives is the one that the code is put together from. -/
theorem packs_of_lane {t lane : DataType} (h : t.lane.result = .ok lane) :
    Packs (Coded.code t) (Coded.code t / 32) lane := by
  obtain ⟨hpacked, hcode⟩ := lane_eq_ok_iff.1 h
  obtain ⟨hmul, htwice⟩ := lanes_mul_bitCount h
  have hle := (isPacked_iff_le_code t).1 hpacked
  obtain ⟨hlt, hpos, heleven⟩ := code_bounds_of_isPacked hpacked
  refine ⟨by omega, by omega, by omega, ?_⟩
  rw [← bitCount_of_isPacked hpacked, ← hmul]
  exact Nat.mul_le_mul_right _ htwice

theorem packs_code_iff {t lane : DataType} {k : Nat} :
    Packs (Coded.code t) k lane ↔ t.lane.result = .ok lane ∧ k = Coded.code t / 32 := by
  constructor
  · rintro ⟨hexponent, hlane, heq, -⟩
    refine ⟨lane_eq_ok_iff.2 ⟨(isPacked_iff_le_code t).2 ?_, ?_⟩, ?_⟩
    · omega
    · omega
    · omega
  · rintro ⟨h, rfl⟩
    exact packs_of_lane h

theorem isPacked_iff {t : DataType} : t.isPacked ↔ ∃ k lane, Packs (Coded.code t) k lane := by
  constructor
  · intro h
    obtain ⟨lane, hlane, -⟩ := exists_lane h
    exact ⟨_, lane, packs_of_lane hlane⟩
  · rintro ⟨k, lane, h⟩
    exact (lane_eq_ok_iff.1 (packs_code_iff.1 h).1).1

theorem exists_unpacked_iff {n : Nat} :
    (∃ t : DataType, ¬ t.isPacked ∧ Coded.code t = n) ↔ 1 ≤ n ∧ n ≤ 23 := by
  constructor
  · rintro ⟨t, hpacked, rfl⟩
    revert hpacked
    cases t <;> decide
  · rintro ⟨hpos, hle⟩
    have hall : ∀ n < 24, 1 ≤ n → ∃ t : DataType, ¬ t.isPacked ∧ Coded.code t = n := by
      decide +kernel
    exact hall n (by omega) hpos

theorem exists_code_of_packs {n k : Nat} {lane : DataType} (h : Packs n k lane) :
    ∃ t : DataType, Coded.code t = n := by
  have hall : ∀ k < 4, 1 ≤ k → ∀ lane : DataType, Coded.code lane ≤ 11 →
      2 * lane.bitCount ≤ 16 * 2 ^ k → ∃ t : DataType, Coded.code t = Coded.code lane + 32 * k := by
    decide +kernel
  rw [h.eq_add]
  exact hall k (Nat.lt_succ_of_le h.exponent.2) h.exponent.1 lane h.lane_code.2 h.fits

theorem exists_code_iff {n : Nat} :
    (∃ t : DataType, Coded.code t = n) ↔ 1 ≤ n ∧ n ≤ 23 ∨ ∃ k lane, Packs n k lane := by
  constructor
  · rintro ⟨t, rfl⟩
    by_cases ht : t.isPacked
    · exact .inr (isPacked_iff.1 ht)
    · exact .inl (exists_unpacked_iff.1 ⟨t, ht, rfl⟩)
  · rintro (hsmall | ⟨k, lane, h⟩)
    · obtain ⟨t, -, hcode⟩ := exists_unpacked_iff.2 hsmall
      exact ⟨t, hcode⟩
    · exact exists_code_of_packs h

structure MadeOf (t : DataType) (k : Nat) (lane : DataType) : Prop where
  isPacked : t.isPacked
  bitCount : t.bitCount = 16 * 2 ^ k
  laneType : t.lane.result = .ok lane
  lanes : t.lanes = 16 * 2 ^ k / lane.bitCount
  lanes_mul : t.lanes * lane.bitCount = t.bitCount
  isFloatPacked_iff : t.isFloatPacked ↔ lane.isFloat
  packedUnsigned : ∃ u unsignedLane, t.packedUnsigned? = some u ∧ u.bitCount = t.bitCount ∧
    u.lanes = t.lanes ∧ u.lane.result = .ok unsignedLane ∧ unsignedLane.isUnsigned

theorem madeOf_of_packs {t lane : DataType} {k : Nat} (h : Packs (Coded.code t) k lane) :
    t.MadeOf k lane := by
  obtain ⟨hlane, hk⟩ := packs_code_iff.1 h
  obtain ⟨hpacked, hcode⟩ := lane_eq_ok_iff.1 hlane
  obtain ⟨hmul, htwice⟩ := lanes_mul_bitCount hlane
  have hbits := bitCount_of_isPacked hpacked
  rw [← hk] at hbits
  exact {
    isPacked := hpacked
    bitCount := hbits
    laneType := hlane
    lanes := by
      have hpos : 0 < lane.bitCount := by cases lane <;> decide
      rw [← hbits, ← hmul]
      exact (Nat.mul_div_cancel _ hpos).symm
    lanes_mul := hmul
    isFloatPacked_iff := by
      rw [isFloatPacked_iff_code, isFloat_iff_code, hcode,
        and_iff_right ((isPacked_iff_le_code t).1 hpacked)]
      exact (and_iff_left (hcode ▸ h.lane_code.2)).symm
    packedUnsigned := by
      obtain ⟨u, hu, hwidth, hlanes, hpacked', hcode'⟩ := exists_packedUnsigned? hpacked
      obtain ⟨unsignedLane, hlane', hlaneCode, -⟩ := exists_lane hpacked'
      have hpos := (packs_of_lane hlane').lane_code.1
      rw [← hlaneCode] at hcode'
      exact ⟨u, unsignedLane, hu, hwidth, hlanes, hlane',
        (isUnsigned_iff_code unsignedLane).2 ⟨hpos, hcode'⟩⟩ }

/-- What a stored number says about the type it is decoded to, and which numbers lead to a type. -/
structure FollowsEncoding (stored : UInt16) : Prop where
  known_iff : (∃ t, (Coded.decode DataType stored.toNat).result = .ok t) ↔
    1 ≤ stored.toNat ∧ stored.toNat ≤ 23 ∨ ∃ k lane, Packs stored.toNat k lane
  packed {t lane : DataType} {k : Nat} :
    (Coded.decode DataType stored.toNat).result = .ok t → Packs stored.toNat k lane →
      t.MadeOf k lane
  unpacked {t : DataType} : (Coded.decode DataType stored.toNat).result = .ok t →
    stored.toNat ≤ 23 → t.Unpacked
  toBits {t : DataType} : (Coded.decode DataType stored.toNat).result = .ok t →
    t.toBits.isBits ∧ t.toBits.bitCount = t.bitCount
  element {n : Nat} : (∀ i, n.testBit i = (stored.toNat.testBit i && i != 7)) →
    ofEncodedElement stored = Coded.decode DataType n
  element_iff (t : DataType) : (ofEncodedElement stored).result = .ok t ↔
    stored.toNat = Coded.code t ∨ stored.toNat = Coded.code t + 2 ^ 7

theorem followsEncoding (stored : UInt16) : FollowsEncoding stored where
  known_iff := by
    simp only [Coded.decode_eq_ok_iff]
    exact exists_code_iff
  packed ht hpacks := by
    rw [← Coded.decode_eq_ok_iff.1 ht] at hpacks
    exact madeOf_of_packs hpacks
  unpacked {t} ht hle := by
    rw [← Coded.decode_eq_ok_iff.1 ht] at hle
    apply unpacked_of_not_isPacked
    intro hpacked
    -- the exponent of a packed type alone takes its code past the others
    obtain ⟨k, lane, hpacks⟩ := isPacked_iff.1 hpacked
    have hcode := hpacks.eq_add
    have hexponent := hpacks.exponent
    have hlane := hpacks.lane_code
    omega
  toBits _ := toBits_spec _
  element {n} hn := by
    have hclear : (stored &&& ~~~arrayFlag).toNat = n := by
      rw [toNat_and_not_arrayFlag]
      apply Nat.eq_of_testBit_eq
      intro i
      rw [testBit_and_not_arrayFlag stored.toNat_lt, hn]
    rw [ofEncodedElement, hclear]
  element_iff t := by
    rw [ofEncodedElement, Coded.decode_eq_ok_iff, toNat_and_not_arrayFlag, eq_comm]
    exact and_not_arrayFlag_eq_iff stored.toNat_lt t.code_lt_arrayFlag

end HsaModule.DataType
