import HsaModule.DataType.Basic
import HsaModule.ItemKind

/-!
What can go wrong. A broken contract means that the module handed over is malformed; an invalid
value is well-formed but not legal for the target.
-/

namespace HsaModule

inductive TypeQuery
  | unsignedHolder
  | lane
  | widened
  | writtenLanes
  deriving DecidableEq, Repr

def TypeQuery.label : TypeQuery → String
  | unsignedHolder => "bit_type_to_utype"
  | lane => "packed_element_type"
  | widened => "expand_subword"
  | writtenLanes => "packed_dst_dim"

inductive DirectiveQuery
  | name
  | segment
  | linkage
  | isDefinition
  deriving DecidableEq, Repr

def DirectiveQuery.label : DirectiveQuery → String
  | name => "name"
  | segment => "segment"
  | linkage => "linkage"
  | isDefinition => "is_definition"

inductive OperandQuery
  | aggregateSize
  deriving DecidableEq, Repr

def OperandQuery.label : OperandQuery → String
  | aggregateSize => "aggregate_num_bytes"

inductive ScalarFamily
  | bit
  | signed
  | unsigned
  deriving DecidableEq, Repr

def ScalarFamily.label : ScalarFamily → String
  | bit => "bit"
  | signed => "signed"
  | unsigned => "unsigned"

inductive ContractViolation
  | unknownCode (family : String) (value : Nat)
  | unsupportedType (query : TypeQuery) (type : DataType)
  | unsupportedWidth (family : ScalarFamily) (width : Nat)
  | unsupportedDirective (query : DirectiveQuery) (kind : DirectiveKind)
  | unsupportedOperand (query : OperandQuery) (kind : OperandKind)
  | argumentIndex (index count : Nat)
  | packingSlot (slot : Nat)
  | constantIndex (index : UInt64) (size : Nat)
  | sectionIndex (index count : UInt32)
  | sectionOffset (offset : UInt64)
  deriving DecidableEq, Repr

def hexText (n : Nat) : String := "0x" ++ String.ofList (Nat.toDigits 16 n)

namespace ContractViolation

def message : ContractViolation → String
  | unknownCode family value => "unknown " ++ family ++ " code " ++ toString value
  | unsupportedType query type =>
      "`" ++ query.label ++ "` is not defined for type " ++ type.label
  | unsupportedWidth family width =>
      "no " ++ family.label ++ " type is " ++ toString width ++ " bits wide"
  | unsupportedDirective query kind =>
      "`" ++ query.label ++ "` is not defined for " ++ kind.noun ++ " directives"
  | unsupportedOperand query kind =>
      "`" ++ query.label ++ "` is not defined for " ++ kind.noun ++ " operands"
  | argumentIndex index count =>
      "argument " ++ toString index ++ " is out of range (" ++ toString count ++
        " input arguments)"
  | packingSlot slot => "source operand slot " ++ toString slot ++ " has no packing control"
  | constantIndex index size =>
      "constant word " ++ toString index.toNat ++ " is past the end of a " ++ toString size ++
        "-byte constant"
  | sectionIndex index count =>
      "section index " ++ toString index.toNat ++ " is out of range (module has " ++
        toString count.toNat ++ " sections)"
  | sectionOffset offset =>
      "section offset " ++ hexText offset.toNat ++ " does not fit in 32 bits"

end ContractViolation

inductive Reason
  | imageTypeNeedsExtension
  | doubleNeedsFullProfile
  | signal64NeedsLargeModel
  | signal32NeedsSmallModel
  | imageScopeNeedsExtension
  | flushRequired
  | floatRounding
  | integerRounding
  | operandCount
  | waveSizeOperand
  | operandType
  | operandNotImmediate
  | operandNotDimension
  | operandZero
  deriving DecidableEq, Repr

def Reason.text : Reason → String
  | imageTypeNeedsExtension =>
      "Image and sampler types are only supported if the IMAGE extension has been specified"
  | doubleNeedsFullProfile => "f64 and f64x2 types are not supported by the Base profile"
  | signal64NeedsLargeModel => "sig64 type is not supported by the small machine model"
  | signal32NeedsSmallModel => "sig32 type is not supported by the large machine model"
  | imageScopeNeedsExtension =>
      "Image segment is only allowed if the IMAGE extension has been specified"
  | flushRequired => "Base profile requires ftz modifier to be specified"
  | floatRounding => "Base profile only supports default floating-point rounding mode"
  | integerRounding =>
      "Base profile only supports 'zeroi', 'zeroi_sat', 'szeroi' and 'szeroi_sat' integer " ++
        "rounding modes"
  | operandCount => "Invalid number of operands"
  | waveSizeOperand => "WAVESIZE is not supported by this control directive"
  | operandType => "Invalid operand type"
  | operandNotImmediate => "Control directive operands must be immediate values"
  | operandNotDimension => "Operand value must be in the range [1..3]"
  | operandZero => "Operand value must be greater than 0"

inductive Error
  | invalid (reason : Reason)
  | contract (violation : ContractViolation)
  | notBrig
  | truncated (offset size : UInt64)
  deriving DecidableEq, Repr

namespace Error

def message : Error → String
  | invalid reason => reason.text
  | contract violation => "contract violation: " ++ violation.message
  | notBrig => "not a BRIG module"
  | truncated offset size =>
      "module buffer too short: " ++ toString size.toNat ++ " bytes needed at offset " ++
        toString offset.toNat

def isContractViolation : Error → Bool
  | contract _ => true
  | _ => false

def reason? : Error → Option Reason
  | invalid reason => some reason
  | _ => none

end Error

end HsaModule
