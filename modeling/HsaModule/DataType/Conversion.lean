import HsaModule.Coded.Decode
import HsaModule.DataType.Category
import HsaModule.DataType.Size

namespace HsaModule

namespace DataType

def unsupported (query : TypeQuery) (t : DataType) : Logged ContractViolation DataType :=
  .refuse (.unsupportedType query t) (.unsupportedType query t)

/-- The unsigned type that holds the value of a bit type. There is no 128-bit integer, so the
widest values are held as bytes. -/
def unsignedHolder : DataType → Logged ContractViolation DataType
  | b1 | b8 => pure u8
  | b16 => pure u16
  | b32 => pure u32
  | b64 => pure u64
  | b128 => pure u8x16
  | t => unsupported .unsignedHolder t

def toBits : DataType → DataType
  | b1 => b1
  | b8 | s8 | u8 => b8
  | b16 | s16 | u16 | f16 => b16
  | b32 | s32 | u32 | f32 => b32
  | b64 | s64 | u64 | f64 => b64
  | b128 => b128
  | u8x4 | s8x4 | u16x2 | s16x2 | f16x2 => b32
  | u8x8 | s8x8 | u16x4 | s16x4 | f16x4 | u32x2 | s32x2 | f32x2 => b64
  | u8x16 | s8x16 | u16x8 | s16x8 | f16x8 | u32x4 | s32x4 | f32x4 | u64x2 | s64x2 | f64x2 => b128
  | sampler | readOnlyImage | writeOnlyImage | readWriteImage | signal32 | signal64 => b64

def packedUnsigned? : DataType → Option DataType
  | u8x4 | s8x4 => some u8x4
  | u16x2 | s16x2 | f16x2 => some u16x2
  | u8x8 | s8x8 => some u8x8
  | u16x4 | s16x4 | f16x4 => some u16x4
  | u32x2 | s32x2 | f32x2 => some u32x2
  | u8x16 | s8x16 => some u8x16
  | u16x8 | s16x8 | f16x8 => some u16x8
  | u32x4 | s32x4 | f32x4 => some u32x4
  | u64x2 | s64x2 | f64x2 => some u64x2
  | _ => none

def lane : DataType → Logged ContractViolation DataType
  | u8x4 | u8x8 | u8x16 => pure u8
  | u16x2 | u16x4 | u16x8 => pure u16
  | u32x2 | u32x4 => pure u32
  | u64x2 => pure u64
  | s8x4 | s8x8 | s8x16 => pure s8
  | s16x2 | s16x4 | s16x8 => pure s16
  | s32x2 | s32x4 => pure s32
  | s64x2 => pure s64
  | f16x2 | f16x4 | f16x8 => pure f16
  | f32x2 | f32x4 => pure f32
  | f64x2 => pure f64
  | t => unsupported .lane t

/-- Integers and bit types of 8 or 16 bits become 32 bits wide; a single bit cannot. -/
def widened : DataType → Logged ContractViolation DataType
  | b1 => unsupported .widened b1
  | b8 | b16 => pure b32
  | u8 | u16 => pure u32
  | s8 | s16 => pure s32
  | t => pure t

def widenedLane (t : DataType) : Logged ContractViolation DataType := do
  (← t.lane).widened

/-- Stored type of an immediate with a value of this type, or with an array of such values. Bit
types are stored as unsigned numbers, and single bits do not form arrays. -/
def immediate? (t : DataType) (isArray : Bool) : Option UInt16 :=
  if !t.isImmediateType || (isArray && t == b1) then none
  else do
    let stored ← if t.isBits then t.unsignedHolder.result.toOption else some t
    return stored.encoded isArray

def ofEncodedElement (stored : UInt16) : Logged ContractViolation DataType :=
  Coded.decode DataType (stored &&& ~~~arrayFlag).toNat

end DataType

namespace ScalarFamily

def ofWidth : ScalarFamily → Nat → Except ContractViolation DataType
  | bit, 1 => .ok .b1
  | bit, 8 => .ok .b8
  | bit, 16 => .ok .b16
  | bit, 32 => .ok .b32
  | bit, 64 => .ok .b64
  | bit, 128 => .ok .b128
  | signed, 8 => .ok .s8
  | signed, 16 => .ok .s16
  | signed, 32 => .ok .s32
  | signed, 64 => .ok .s64
  | unsigned, 8 => .ok .u8
  | unsigned, 16 => .ok .u16
  | unsigned, 32 => .ok .u32
  | unsigned, 64 => .ok .u64
  | family, width => .error (.unsupportedWidth family width)

end ScalarFamily

end HsaModule
