import HsaModule.DataType.Basic

namespace HsaModule.DataType

def isUnsigned : DataType → Bool
  | u8 | u16 | u32 | u64 => true
  | _ => false

def isSigned : DataType → Bool
  | s8 | s16 | s32 | s64 => true
  | _ => false

def isInteger (t : DataType) : Bool := t.isSigned || t.isUnsigned

def isFloat : DataType → Bool
  | f16 | f32 | f64 => true
  | _ => false

def isBits : DataType → Bool
  | b1 | b8 | b16 | b32 | b64 | b128 => true
  | _ => false

def isHandle : DataType → Bool
  | sampler | readOnlyImage | writeOnlyImage | readWriteImage | signal32 | signal64 => true
  | _ => false

def isImage : DataType → Bool
  | readOnlyImage | writeOnlyImage | readWriteImage => true
  | _ => false

def isSampler : DataType → Bool
  | sampler => true
  | _ => false

def isSignal : DataType → Bool
  | signal32 | signal64 => true
  | _ => false

def needsImage (t : DataType) : Bool := t.isImage || t.isSampler

def isIntegerPacked : DataType → Bool
  | u8x4 | s8x4 | u16x2 | s16x2 => true
  | u8x8 | s8x8 | u16x4 | s16x4 | u32x2 | s32x2 => true
  | u8x16 | s8x16 | u16x8 | s16x8 | u32x4 | s32x4 | u64x2 | s64x2 => true
  | _ => false

def isFloatPacked : DataType → Bool
  | f16x2 | f16x4 | f32x2 | f16x8 | f32x4 | f64x2 => true
  | _ => false

def isPacked (t : DataType) : Bool := t.isIntegerPacked || t.isFloatPacked

def needsFullProfile : DataType → Bool
  | f64 | f64x2 => true
  | _ => false

/-- A single bit can be held in a register or written as an immediate, but is no variable. -/
def isVariableType (t : DataType) : Bool := t != b1

def isImmediateType (t : DataType) : Bool := !t.isImage && !t.isSampler

/-- Number of lanes of a packed type, `0` for any other type. -/
def lanes : DataType → Nat
  | u16x2 | s16x2 | f16x2 | u32x2 | s32x2 | f32x2 | u64x2 | s64x2 | f64x2 => 2
  | u8x4 | s8x4 | u16x4 | s16x4 | f16x4 | u32x4 | s32x4 | f32x4 => 4
  | u8x8 | s8x8 | u16x8 | s16x8 | f16x8 => 8
  | u8x16 | s8x16 => 16
  | _ => 0

end HsaModule.DataType
