namespace HsaModule

inductive ArithmeticFault
  | multiplyOverflow
  | addOverflow
  | notPowerOfTwo
  deriving DecidableEq, Repr

namespace Word

def add? (a b : UInt64) : Option UInt64 :=
  if a.toNat + b.toNat < UInt64.size then some (a + b) else none

def mul? (a b : UInt64) : Option UInt64 :=
  if a.toNat * b.toNat < UInt64.size then some (a * b) else none

def isPowerOfTwo (w : UInt64) : Bool := 1 <<< w.toNat.log2 == w.toNat

/-- The least multiple of `boundary`, a power of two, from `size` on: the last of the `boundary`
words that start there, with the bits below the boundary cleared. Where they do not all exist, no
multiple is left. -/
def alignUp (size boundary : UInt64) : Except ArithmeticFault UInt64 :=
  if isPowerOfTwo boundary then
    match add? size (boundary - 1) with
    | some last => .ok (last &&& ~~~(boundary - 1))
    | none => .error .addOverflow
  else .error .notPowerOfTwo

theorem add?_eq_some_iff {a b c : UInt64} : add? a b = some c ↔ a.toNat + b.toNat = c.toNat := by
  have hc : c.toNat < UInt64.size := c.toNat_lt
  rw [add?]
  split
  · rename_i h
    rw [Option.some.injEq, ← UInt64.toNat_inj, UInt64.toNat_add, Nat.mod_eq_of_lt h]
  · simp only [reduceCtorEq, false_iff]
    omega

theorem mul?_eq_some_iff {a b c : UInt64} : mul? a b = some c ↔ a.toNat * b.toNat = c.toNat := by
  have hc : c.toNat < UInt64.size := c.toNat_lt
  rw [mul?]
  split
  · rename_i h
    rw [Option.some.injEq, ← UInt64.toNat_inj, UInt64.toNat_mul, Nat.mod_eq_of_lt h]
  · simp only [reduceCtorEq, false_iff]
    omega

theorem add?_eq_none_iff {a b : UInt64} : add? a b = none ↔ UInt64.size ≤ a.toNat + b.toNat := by
  simp [add?]

theorem mul?_eq_none_iff {a b : UInt64} : mul? a b = none ↔ UInt64.size ≤ a.toNat * b.toNat := by
  simp [mul?]

end Word

end HsaModule
