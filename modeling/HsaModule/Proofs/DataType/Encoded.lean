import HsaModule.DataType.Conversion
import Mathlib.Algebra.Order.Group.Nat
import Mathlib.Data.Nat.Bitwise

namespace HsaModule

namespace DataType

theorem code_lt_arrayFlag (t : DataType) : t.code < 2 ^ 7 := by
  cases t <;> decide

theorem toNat_ofNat_code (t : DataType) : (UInt16.ofNat t.code).toNat = t.code :=
  UInt16.toNat_ofNat_of_lt' (Nat.lt_trans t.code_lt_arrayFlag (by decide))

theorem toNat_and_not_arrayFlag (stored : UInt16) :
    (stored &&& ~~~arrayFlag).toNat = stored.toNat &&& 0xFF7F :=
  UInt16.toNat_and stored _

theorem and_not_arrayFlag_of_lt {n : Nat} (h : n < 2 ^ 7) : n &&& 0xFF7F = n := by
  have hlow : n &&& 0x7F = n := Nat.and_two_pow_sub_one_of_lt_two_pow h
  calc
    n &&& 0xFF7F = n &&& 0x7F &&& 0xFF7F := by rw [hlow]
    _ = n &&& 0x7F := Nat.and_assoc n 0x7F 0xFF7F
    _ = n := hlow

theorem toNat_encoded_and_not_arrayFlag (t : DataType) (isArray : Bool) :
    (t.encoded isArray &&& ~~~arrayFlag).toNat = t.code := by
  rw [toNat_and_not_arrayFlag]
  cases isArray with
  | false =>
      change (UInt16.ofNat t.code).toNat &&& 0xFF7F = t.code
      rw [toNat_ofNat_code, and_not_arrayFlag_of_lt t.code_lt_arrayFlag]
  | true =>
      change (UInt16.ofNat t.code ||| arrayFlag).toNat &&& 0xFF7F = t.code
      rw [UInt16.toNat_or, toNat_ofNat_code, Nat.and_or_distrib_right,
        and_not_arrayFlag_of_lt t.code_lt_arrayFlag]
      exact Nat.or_zero t.code

theorem ofEncodedElement_encoded (t : DataType) (isArray : Bool) :
    ofEncodedElement (t.encoded isArray) = pure t := by
  rw [ofEncodedElement, toNat_encoded_and_not_arrayFlag, Coded.decode]
  have hcode : Coded.ofCode? DataType t.code = some t := LawfulCoded.ofCode?_code t
  rw [hcode]

theorem testBit_and_not_arrayFlag {n : Nat} (hn : n < 2 ^ 16) (i : Nat) :
    (n &&& 0xFF7F).testBit i = (n.testBit i && i != 7) := by
  rw [Nat.testBit_and]
  by_cases hi : i < 16
  · have hmask : ∀ i < 16, Nat.testBit 0xFF7F i = (i != 7) := by decide
    rw [hmask i hi]
  · have hbound : n < 2 ^ i :=
      Nat.lt_of_lt_of_le hn (Nat.pow_le_pow_right (by decide) (Nat.not_lt.1 hi))
    rw [Nat.testBit_lt_two_pow hbound, Bool.false_and, Bool.false_and]

/-- Two numbers lead to the same code: with the flag and without. -/
theorem and_not_arrayFlag_eq_iff {n code : Nat} (hn : n < 2 ^ 16) (hcode : code < 2 ^ 7) :
    n &&& 0xFF7F = code ↔ n = code ∨ n = code + 2 ^ 7 := by
  have hflag : code + 2 ^ 7 = code ||| 2 ^ 7 := by
    rw [Nat.add_comm, Nat.or_comm]
    exact Nat.two_pow_add_eq_or_of_lt hcode 1
  constructor
  · rintro rfl
    -- the mask and the flag are all bits of the word between them
    have hsplit : n = n &&& 0xFF7F ||| n &&& 2 ^ 7 := by
      rw [← Nat.and_or_distrib_left]
      exact (Nat.and_two_pow_sub_one_of_lt_two_pow hn).symm
    rw [Nat.and_two_pow] at hsplit
    cases hbit : n.testBit 7 with
    | false =>
        left
        simpa [hbit] using hsplit
    | true =>
        right
        rw [hflag]
        simpa [hbit] using hsplit
  · rintro (rfl | rfl)
    · exact and_not_arrayFlag_of_lt hcode
    · rw [hflag, Nat.and_or_distrib_right, and_not_arrayFlag_of_lt hcode]
      exact Nat.or_zero code

end DataType

end HsaModule
