import HsaModule.Bytes

namespace HsaModule

structure ByteConstant where
  type : DataType
  bytes : Bytes
  deriving DecidableEq, Repr

namespace ByteConstant

def bitCount (c : ByteConstant) : Nat := 8 * c.bytes.length

def isBit (c : ByteConstant) : Bool := c.bytes == [0] || c.bytes == [1]

def wordBytes? (c : ByteConstant) (index : UInt64) : Option Bytes := do
  let start ← Word.mul? index 4
  let stop ← Word.add? start 4
  let part ← c.bytes.range? start stop
  part.first? 4

def word (c : ByteConstant) (index : UInt64) : Except ContractViolation UInt32 :=
  match c.wordBytes? index with
  | some bytes => .ok (UInt32.ofNat bytes.toNumber)
  | none => .error (.constantIndex index c.bytes.length)

def word64 (c : ByteConstant) : Except ContractViolation UInt64 := do
  let low ← c.word 0
  let high ← c.word 1
  return low.toUInt64 ||| high.toUInt64 <<< 32

end ByteConstant

end HsaModule
