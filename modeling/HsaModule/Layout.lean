import HsaModule.DataType.Size
import HsaModule.Item.Operand

namespace HsaModule

namespace Variable

def alignment (v : Variable) : Nat := max v.elementType.naturalAlignment.bytes v.align.bytes

/-- Storage size in bytes. A variable of unknown size takes the place of one element. -/
def byteCount (v : Variable) : Except ArithmeticFault UInt64 :=
  match Word.mul? (UInt64.ofNat v.elementType.byteCount) (max v.dim 1) with
  | some n => .ok n
  | none => .error .multiplyOverflow

end Variable

namespace Operand

def advance (offset : UInt64) (size : Nat) : Except (ArithmeticFault ⊕ Error) UInt64 :=
  if offset.toNat + size < UInt64.size then .ok (offset + UInt64.ofNat size)
  else .error (.inl .addOverflow)

/-- Where the next element of an aggregate constant goes, after this one is placed at `offset`.
Constants and handles take their size, and an alignment skips to the next multiple. -/
def placeWord (offset : UInt64) : Operand → Except (ArithmeticFault ⊕ Error) UInt64
  | constantBytes k => advance offset k.bytes.length
  | constantImage type | constantSampler type => advance offset type.byteCount
  | align a =>
      if a.bytes ≤ 1 ∨ offset.toNat % a.bytes = 0 then .ok offset
      else advance offset (a.bytes - offset.toNat % a.bytes)
  | o => .error (.inr (.contract (.unsupportedOperand .aggregateSize o.kind)))

def aggregateByteCount (elements : List Operand) : Except (ArithmeticFault ⊕ Error) UInt64 :=
  elements.foldlM placeWord 0

end Operand

end HsaModule
