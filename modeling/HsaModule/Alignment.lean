import HsaModule.Coded

namespace HsaModule

inductive Alignment
  | unspecified
  | pow2 (exponent : Fin 9)
  deriving DecidableEq, Repr

namespace Alignment

/-- Zero bytes stand for an alignment that is not specified. -/
def bytes : Alignment → Nat
  | unspecified => 0
  | pow2 e => 1 <<< e.val

def a1 : Alignment := pow2 0

def a2 : Alignment := pow2 1

def a4 : Alignment := pow2 2

def a8 : Alignment := pow2 3

def a16 : Alignment := pow2 4

def largest : Alignment := pow2 8

def label : Alignment → String
  | unspecified => "None"
  | a => "A" ++ toString a.bytes

instance : Coded Alignment where
  family := "Alignment"
  capacity := UInt8.size
  members := unspecified :: (List.finRange 9).map pow2
  code
    | unspecified => 0
    | pow2 e => e.val + 1
  label := label

instance : LawfulCoded Alignment where
  mem_members a := by
    cases a with
    | unspecified => exact List.mem_cons_self
    | pow2 e =>
        exact List.mem_cons_of_mem _ (List.mem_map.2 ⟨e, List.mem_finRange e, rfl⟩)
  ascending := by decide
  code_lt := by decide

instance : Ord Alignment := ⟨compareOn Coded.code⟩

instance : LE Alignment := leOfOrd

def ofBytes? (n : Nat) : Option Alignment :=
  if n.isPowerOfTwo then
    let code := Int.trailingZeros n + 1
    if code < UInt8.size then Coded.ofCode? Alignment code else none
  else none

end Alignment

end HsaModule
