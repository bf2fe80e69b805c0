import HsaModule.Alignment
import HsaModule.Item.Constant
import HsaModule.LaunchControl.Basic
import HsaModule.Memory
import HsaModule.Register
import HsaModule.Rounding
import HsaModule.Target

namespace HsaModule

structure Variable where
  name : String
  elementType : DataType
  isArray : Bool
  /-- Number of elements; `0` for a scalar and for an array of unknown size. -/
  dim : UInt64
  segment : Segment
  linkage : Linkage
  align : Alignment
  isDefinition : Bool
  deriving DecidableEq, Repr

inductive ExecutableKind
  | kernel
  | function
  | indirectFunction
  deriving DecidableEq, Repr

structure Executable where
  kind : ExecutableKind
  name : String
  linkage : Linkage
  isDefinition : Bool
  outArgs : List Variable
  inArgs : List Variable
  deriving DecidableEq, Repr

structure Fbarrier where
  name : String
  linkage : Linkage
  isDefinition : Bool
  deriving DecidableEq, Repr

structure ModuleDeclaration where
  name : String
  major : UInt32
  minor : UInt32
  profile : Profile
  model : MachineModel
  rounding : Rounding
  deriving DecidableEq, Repr

mutual

/-- A place in memory: an offset from a symbol, from the address in a register, or from both. -/
structure Address where
  symbol : Option Directive
  register : Option Register
  offset : UInt64

inductive Operand
  | address (place : Address)
  | align (alignment : Alignment)
  | codeList (items : List Directive)
  | codeRef (target : Directive)
  | constantBytes (constant : ByteConstant)
  | constantImage (type : DataType)
  | constantList (elements : List Operand)
  | constantSampler (type : DataType)
  | operandList (items : List Operand)
  | register (register : Register)
  | string (text : String)
  | waveSize

inductive Directive
  | argBlockEnd
  | argBlockStart
  | comment (text : String)
  | control (control : LaunchControl) (operands : List Operand)
  | extension (name : String)
  | fbarrier (barrier : Fbarrier)
  | executable (code : Executable)
  | label (name : String)
  | location (line column : UInt32) (filename : String)
  | module (declaration : ModuleDeclaration)
  | pragma (operands : List Operand)
  | signature (code : Executable)
  | var (declaration : Variable)

end

end HsaModule
