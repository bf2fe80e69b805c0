import HsaModule.Item.Operand
import HsaModule.Logged

namespace HsaModule

/-- The number in the first two words of a 64-bit unsigned constant, or in the first word of any
other. -/
def ByteConstant.value (k : ByteConstant) : Except ContractViolation UInt64 :=
  if k.type = .u64 then k.word64 else (k.word 0).map UInt32.toUInt64

namespace LaunchControl

def judge (c : LaunchControl) (index : Nat) : Option Reason → Logged Error Unit
  | some reason => .refuse (.rejectedOperand c index reason) (.invalid reason)
  | none => pure ()

def boundsObjection? (c : LaunchControl) (value : UInt64) : Option Reason :=
  match c with
  | requiredDim => if 1 ≤ value ∧ value ≤ 3 then none else some .operandNotDimension
  | maxFlatGridSize | maxFlatWorkgroupSize | requiredGridSize | requiredWorkgroupSize =>
      if value = 0 then some .operandZero else none
  | _ => none

def checkBounds (c : LaunchControl) (index : Nat) (value : UInt64) : Logged Error Unit :=
  c.judge index (c.boundsObjection? value)

def checkOperand (c : LaunchControl) (index : Nat) : Operand → Logged Error Unit
  | .waveSize => c.judge index (if c.takesWaveSize then none else some .waveSizeOperand)
  | .constantBytes k =>
      if some k.type = c.operandType? index then do
        let value ← Logged.ofExcept (k.value.mapError .contract)
        c.checkBounds index value
      else c.judge index (some .operandType)
  | _ => c.judge index (some .operandNotImmediate)

def checkFrom (c : LaunchControl) (index : Nat) : List Operand → Logged Error Unit
  | [] => pure ()
  | o :: rest => do
      c.checkOperand index o
      c.checkFrom (index + 1) rest

def check (c : LaunchControl) (operands : List Operand) : Logged Error Unit :=
  if operands.length = c.arity then c.checkFrom 0 operands
  else c.judge operands.length (some .operandCount)

end LaunchControl

end HsaModule
