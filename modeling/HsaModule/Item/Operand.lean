import HsaModule.Item.Directive

namespace HsaModule

namespace Operand

def kind : Operand → OperandKind
  | address _ => .address
  | align _ => .align
  | codeList _ => .codeList
  | codeRef _ => .codeRef
  | constantBytes _ => .constantBytes
  | constantImage _ => .constantImage
  | constantList _ => .constantOperandList
  | constantSampler _ => .constantSampler
  | operandList _ => .operandList
  | register _ => .register
  | string _ => .string
  | waveSize => .waveSize

def toAddress? : Operand → Option Address
  | address place => some place
  | _ => none

def toRegister? : Operand → Option Register
  | register r => some r
  | _ => none

def toConstant? : Operand → Option ByteConstant
  | constantBytes c => some c
  | _ => none

def target? : Operand → Option Directive
  | codeRef target => some target
  | _ => none

def isWaveSize : Operand → Bool
  | waveSize => true
  | _ => false

def addressedVariable? (o : Operand) : Option Variable := do
  let place ← o.toAddress?
  let symbol ← place.symbol
  symbol.toVariable?

def refersTo (o : Operand) (kind : DirectiveKind) : Bool :=
  o.target?.any fun target => target.kind == kind

end Operand

def MachineModel.addressBitsInto (m : MachineModel) (segment : Option Segment) : Nat :=
  if segment.any Segment.isFlatSized then m.flatAddressBits else 32

/-- Width in bits of the address. A register alone decides it; without register and symbol it may
be either, which is given as `0`. -/
def Address.bits (a : Address) (m : MachineModel) : Except ContractViolation Nat :=
  match a.register, a.symbol with
  | some r, _ => .ok r.bits
  | none, some symbol => symbol.segment.map fun s => m.addressBitsInto (some s)
  | none, none => .ok 0

end HsaModule
