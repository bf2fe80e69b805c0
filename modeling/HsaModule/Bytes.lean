import HsaModule.Error
import HsaModule.Word

namespace HsaModule

abbrev Bytes := List UInt8

abbrev Block (n : Nat) := { bytes : Bytes // bytes.length = n }

namespace Bytes

def toNumber : Bytes → Nat
  | [] => 0
  | b :: rest => b.toNat + 256 * toNumber rest

def slice (data : Bytes) (offset size : UInt64) : Except Error Bytes :=
  match Word.add? offset size with
  | some stop =>
      if stop.toNat ≤ data.length then .ok ((data.drop offset.toNat).take size.toNat)
      else .error (.truncated offset size)
  | none => .error (.truncated offset size)

def range? (data : Bytes) (start stop : UInt64) : Option Bytes :=
  if start ≤ stop ∧ stop.toNat ≤ data.length then
    some ((data.drop start.toNat).take (stop.toNat - start.toNat))
  else none

def first? (n : Nat) (data : Bytes) : Option Bytes :=
  if n ≤ data.length then some (data.take n) else none

def block (data : Bytes) (offset : UInt64) (n : Nat) : Except Error (Block n) := do
  let bytes ← data.slice offset (UInt64.ofNat n)
  if h : bytes.length = n then .ok ⟨bytes, h⟩ else .error (.truncated offset (UInt64.ofNat n))

def word32 (data : Bytes) (offset : UInt64) : Except Error UInt32 :=
  (data.slice offset 4).map fun bytes => UInt32.ofNat bytes.toNumber

def word64 (data : Bytes) (offset : UInt64) : Except Error UInt64 :=
  (data.slice offset 8).map fun bytes => UInt64.ofNat bytes.toNumber

end Bytes

end HsaModule
