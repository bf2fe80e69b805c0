import HsaModule.DataType.Basic

namespace HsaModule

inductive LaunchControl
  | enableBreakExceptions
  | enableDetectExceptions
  | maxDynamicGroupSize
  | maxFlatGridSize
  | maxFlatWorkgroupSize
  | requiredDim
  | requiredGridSize
  | requiredWorkgroupSize
  | requireNoPartialWorkgroups
  deriving DecidableEq, Repr

namespace LaunchControl

def label : LaunchControl → String
  | enableBreakExceptions => "EnableBreakExceptions"
  | enableDetectExceptions => "EnableDetectExceptions"
  | maxDynamicGroupSize => "MaxDynamicGroupSize"
  | maxFlatGridSize => "MaxFlatGridSize"
  | maxFlatWorkgroupSize => "MaxFlatWorkgroupSize"
  | requiredDim => "RequiredDim"
  | requiredGridSize => "RequiredGridSize"
  | requiredWorkgroupSize => "RequiredWorkgroupSize"
  | requireNoPartialWorkgroups => "RequireNoPartialWorkgroups"

instance : Coded LaunchControl where
  family := "ControlDirective"
  capacity := UInt16.size
  members :=
    [enableBreakExceptions, enableDetectExceptions, maxDynamicGroupSize, maxFlatGridSize,
      maxFlatWorkgroupSize, requiredDim, requiredGridSize, requiredWorkgroupSize,
      requireNoPartialWorkgroups]
  code c := c.ctorIdx + 1
  label := label

instance : LawfulCoded LaunchControl where
  mem_members c := by cases c <;> decide
  ascending := by decide
  code_lt := by decide

def arity : LaunchControl → Nat
  | requireNoPartialWorkgroups => 0
  | requiredGridSize | requiredWorkgroupSize => 3
  | enableBreakExceptions | enableDetectExceptions | maxDynamicGroupSize | maxFlatGridSize
  | maxFlatWorkgroupSize | requiredDim => 1

def operandType? (c : LaunchControl) (index : Nat) : Option DataType :=
  if c.arity ≤ index then none
  else
    match c with
    | enableBreakExceptions | enableDetectExceptions | maxDynamicGroupSize
    | maxFlatWorkgroupSize | requiredDim | requiredWorkgroupSize => some .u32
    | maxFlatGridSize | requiredGridSize => some .u64
    | requireNoPartialWorkgroups => none

/-- An operand may be the size of a wavefront, whatever that is on the machine. -/
def takesWaveSize : LaunchControl → Bool
  | requiredGridSize | requiredWorkgroupSize | maxFlatWorkgroupSize | maxFlatGridSize => true
  | enableBreakExceptions | enableDetectExceptions | maxDynamicGroupSize | requiredDim
  | requireNoPartialWorkgroups => false

end LaunchControl

end HsaModule
