import HsaModule.Item.Basic

namespace HsaModule

def ExecutableKind.directiveKind : ExecutableKind → DirectiveKind
  | kernel => .kernel
  | function => .function
  | indirectFunction => .indirectFunction

/-- The target that a module declares itself to be for; a declaration enables no extensions. -/
def ModuleDeclaration.target (d : ModuleDeclaration) : Target :=
  { model := d.model, profile := d.profile }

def Variable.encodedType (v : Variable) : UInt16 := v.elementType.encoded v.isArray

def Executable.inputArgument (e : Executable) (index : Nat) : Except ContractViolation Variable :=
  match e.inArgs[index]? with
  | some v => .ok v
  | none => .error (.argumentIndex index e.inArgs.length)

namespace Directive

def kind : Directive → DirectiveKind
  | argBlockEnd => .argBlockEnd
  | argBlockStart => .argBlockStart
  | comment _ => .comment
  | control .. => .control
  | extension _ => .extension
  | fbarrier _ => .fbarrier
  | executable code => code.kind.directiveKind
  | label _ => .label
  | location .. => .location
  | module _ => .module
  | pragma _ => .pragma
  | signature _ => .signature
  | var _ => .var

def toVariable? : Directive → Option Variable
  | var v => some v
  | _ => none

def toExecutable? : Directive → Option Executable
  | executable code => some code
  | _ => none

def toControl? : Directive → Option (LaunchControl × List Operand)
  | control c operands => some (c, operands)
  | _ => none

def name : Directive → Except ContractViolation String
  | module declaration => .ok declaration.name
  | executable code | signature code => .ok code.name
  | var v => .ok v.name
  | label name => .ok name
  | fbarrier barrier => .ok barrier.name
  | d => .error (.unsupportedDirective .name d.kind)

/-- Where the declared symbol lives; barriers are always in group memory. -/
def segment : Directive → Except ContractViolation Segment
  | var v => .ok v.segment
  | fbarrier _ => .ok .group
  | d => .error (.unsupportedDirective .segment d.kind)

def linkage : Directive → Except ContractViolation Linkage
  | var v => .ok v.linkage
  | executable code => .ok code.linkage
  | fbarrier barrier => .ok barrier.linkage
  | d => .error (.unsupportedDirective .linkage d.kind)

def isDefinition : Directive → Except ContractViolation Bool
  | var v => .ok v.isDefinition
  | executable code => .ok code.isDefinition
  | fbarrier barrier => .ok barrier.isDefinition
  | d => .error (.unsupportedDirective .isDefinition d.kind)

def isDeclaration (d : Directive) : Except ContractViolation Bool :=
  d.isDefinition.map (!·)

end Directive

end HsaModule
