import HsaModule.Error
import HsaModule.LaunchControl.Basic
import HsaModule.Property

namespace HsaModule

inductive Level
  | warn
  | debug
  | trace
  deriving DecidableEq, Repr

def Level.label : Level → String
  | warn => "WARN"
  | debug => "DEBUG"
  | trace => "TRACE"

inductive Notice
  | unknownCode (family : String) (value : Nat)
  | unsupportedType (query : TypeQuery) (type : DataType)
  | rejectedProperty (property : Property) (value : UInt32) (reason : Reason)
  | rejectedOperand (control : LaunchControl) (index : Nat) (reason : Reason)
  | sectionFound (index offset : UInt32)
  deriving DecidableEq, Repr

namespace Notice

def level : Notice → Level
  | unknownCode .. | unsupportedType .. => .warn
  | rejectedProperty .. | rejectedOperand .. => .debug
  | sectionFound .. => .trace

def text : Notice → String
  | unknownCode family value => (ContractViolation.unknownCode family value).message
  | unsupportedType query type => "`" ++ query.label ++ "` called on " ++ type.label
  | rejectedProperty property value reason =>
      property.label ++ " = " ++ toString value.toNat ++ " rejected: " ++ reason.text
  | rejectedOperand control index reason =>
      control.label ++ " operand " ++ toString index ++ " rejected: " ++ reason.text
  | sectionFound index offset =>
      "section " ++ toString index.toNat ++ " at offset " ++ hexText offset.toNat

end Notice

end HsaModule
