import HsaModule.Coded.Decode
import HsaModule.Item.Operand
import HsaModule.Opcode
import HsaModule.Packing

namespace HsaModule

structure Instruction where
  opcode : Opcode
  kind : InstructionKind
  property : Property → Option UInt32
  /-- The operand slots in use, some of which may be empty. -/
  operands : List (Option Operand)

namespace Instruction

def slotLimit : Nat := 6

def valueOr (i : Instruction) (p : Property) (default : UInt32) : UInt32 :=
  (i.property p).getD default

def attribute? (i : Instruction) (α : Type) [Coded α] (p : Property) :
    Logged ContractViolation (Option α) :=
  Coded.decodeValue? α (i.valueOr p 0)

def resultType? (i : Instruction) : Logged ContractViolation (Option DataType) :=
  i.attribute? DataType .type

def sourceType? (i : Instruction) : Logged ContractViolation (Option DataType) :=
  i.attribute? DataType .sourceType

def coordinateType? (i : Instruction) : Logged ContractViolation (Option DataType) :=
  i.attribute? DataType .coordType

def signalType? (i : Instruction) : Logged ContractViolation (Option DataType) :=
  i.attribute? DataType .signalType

def imageType? (i : Instruction) : Logged ContractViolation (Option DataType) :=
  i.attribute? DataType .imageType

def segment? (i : Instruction) : Logged ContractViolation (Option Segment) :=
  i.attribute? Segment .segment

def packing? (i : Instruction) : Logged ContractViolation (Option Packing) :=
  i.attribute? Packing .pack

def imageScope? (i : Instruction) : Logged ContractViolation (Option MemoryScope) :=
  i.attribute? MemoryScope .imageSegmentMemoryScope

/-- Memory operations of different classes do not alias, except those of class `0`. -/
def equivalenceClass (i : Instruction) : UInt32 := i.valueOr .equivClass 0

def addressesImage (i : Instruction) : Bool :=
  (i.operands.take slotLimit).any fun slot =>
    (slot.bind Operand.addressedVariable?).any fun v => v.elementType.needsImage

def needsImage (i : Instruction) : Logged ContractViolation Bool :=
  if i.opcode.isImage then pure true
  else do
    let result ← i.resultType?
    let source ← i.sourceType?
    let image ← i.imageType?
    if [result, source, image].any fun t => t.any DataType.needsImage then pure true
    else do
      let scope ← if i.kind = .memFence then i.imageScope? else pure none
      pure (scope.isSome || i.addressesImage)

end Instruction

end HsaModule
