import HsaModule.Coded

/-!
The kinds of items in a module. Directives, instructions and operands each own a range of the
stored numbers, and every number of a range is taken.
-/

namespace HsaModule

/-- A half-open range of item codes. -/
structure ItemRange where
  first : Nat
  stop : Nat
  deriving DecidableEq, Repr

namespace ItemRange

def contains (r : ItemRange) (code : Nat) : Bool := r.first ≤ code && code < r.stop

def directives : ItemRange := ⟨0x1000, 0x100f⟩

def instructions : ItemRange := ⟨0x2000, 0x2012⟩

def operands : ItemRange := ⟨0x3000, 0x300d⟩

end ItemRange

inductive DirectiveKind
  | argBlockEnd
  | argBlockStart
  | comment
  | control
  | extension
  | fbarrier
  | function
  | indirectFunction
  | kernel
  | label
  | location
  | module
  | pragma
  | signature
  | var
  deriving DecidableEq, Repr

namespace DirectiveKind

def noun : DirectiveKind → String
  | argBlockEnd => "arg block end"
  | argBlockStart => "arg block start"
  | comment => "comment"
  | control => "control"
  | extension => "extension"
  | fbarrier => "fbarrier"
  | function => "function"
  | indirectFunction => "indirect function"
  | kernel => "kernel"
  | label => "label"
  | location => "loc"
  | module => "module"
  | pragma => "pragma"
  | signature => "signature"
  | var => "variable"

def listName : DirectiveKind → String
  | argBlockEnd => "ArgBlockEnd"
  | argBlockStart => "ArgBlockStart"
  | comment => "Comment"
  | control => "Control"
  | extension => "Extension"
  | fbarrier => "Fbarrier"
  | function => "Function"
  | indirectFunction => "IndirectFunction"
  | kernel => "Kernel"
  | label => "Label"
  | location => "Loc"
  | module => "Module"
  | pragma => "Pragma"
  | signature => "Signature"
  | var => "Variable"

instance : Coded DirectiveKind where
  family := "DirectiveKind"
  capacity := UInt16.size
  members :=
    [argBlockEnd, argBlockStart, comment, control, extension, fbarrier, function,
      indirectFunction, kernel, label, location, module, pragma, signature, var]
  code k := ItemRange.directives.first + k.ctorIdx
  label := listName

instance : LawfulCoded DirectiveKind where
  mem_members k := by cases k <;> decide
  ascending := by decide
  code_lt := by decide

end DirectiveKind

inductive InstructionKind
  | addr
  | atomic
  | basic
  | br
  | cmp
  | cvt
  | image
  | lane
  | mem
  | memFence
  | mod
  | queryImage
  | querySampler
  | queue
  | seg
  | segCvt
  | signal
  | sourceType
  deriving DecidableEq, Repr

namespace InstructionKind

def label : InstructionKind → String
  | addr => "Addr"
  | atomic => "Atomic"
  | basic => "Basic"
  | br => "Br"
  | cmp => "Cmp"
  | cvt => "Cvt"
  | image => "Image"
  | lane => "Lane"
  | mem => "Mem"
  | memFence => "MemFence"
  | mod => "Mod"
  | queryImage => "QueryImage"
  | querySampler => "QuerySampler"
  | queue => "Queue"
  | seg => "Seg"
  | segCvt => "SegCvt"
  | signal => "Signal"
  | sourceType => "SourceType"

instance : Coded InstructionKind where
  family := "InstKind"
  capacity := UInt16.size
  members :=
    [addr, atomic, basic, br, cmp, cvt, image, lane, mem, memFence, mod, queryImage,
      querySampler, queue, seg, segCvt, signal, sourceType]
  code k := ItemRange.instructions.first + k.ctorIdx
  label := label

instance : LawfulCoded InstructionKind where
  mem_members k := by cases k <;> decide
  ascending := by decide
  code_lt := by decide

end InstructionKind

inductive OperandKind
  | address
  | align
  | codeList
  | codeRef
  | constantBytes
  | reserved
  | constantImage
  | constantOperandList
  | constantSampler
  | operandList
  | register
  | string
  | waveSize
  deriving DecidableEq, Repr

namespace OperandKind

def noun : OperandKind → String
  | address => "address"
  | align => "align"
  | codeList => "code list"
  | codeRef => "code reference"
  | constantBytes => "constant bytes"
  | reserved => "reserved"
  | constantImage => "image constant"
  | constantOperandList => "constant list"
  | constantSampler => "sampler constant"
  | operandList => "operand list"
  | register => "register"
  | string => "string"
  | waveSize => "wavesize"

def label : OperandKind → String
  | address => "Address"
  | align => "Align"
  | codeList => "CodeList"
  | codeRef => "CodeRef"
  | constantBytes => "ConstantBytes"
  | reserved => "Reserved"
  | constantImage => "ConstantImage"
  | constantOperandList => "ConstantOperandList"
  | constantSampler => "ConstantSampler"
  | operandList => "OperandList"
  | register => "Register"
  | string => "String"
  | waveSize => "WaveSize"

instance : Coded OperandKind where
  family := "OperandKind"
  capacity := UInt16.size
  members :=
    [address, align, codeList, codeRef, constantBytes, reserved, constantImage,
      constantOperandList, constantSampler, operandList, register, string, waveSize]
  code k := ItemRange.operands.first + k.ctorIdx
  label := label

instance : LawfulCoded OperandKind where
  mem_members k := by cases k <;> decide
  ascending := by decide
  code_lt := by decide

end OperandKind

end HsaModule
