import HsaModule.Coded

namespace HsaModule

inductive DataType
  | u8
  | u16
  | u32
  | u64
  | s8
  | s16
  | s32
  | s64
  | f16
  | f32
  | f64
  | b1
  | b8
  | b16
  | b32
  | b64
  | b128
  | sampler
  | readOnlyImage
  | writeOnlyImage
  | readWriteImage
  | signal32
  | signal64
  | u8x4
  | u16x2
  | s8x4
  | s16x2
  | f16x2
  | u8x8
  | u16x4
  | u32x2
  | s8x8
  | s16x4
  | s32x2
  | f16x4
  | f32x2
  | u8x16
  | u16x8
  | u32x4
  | u64x2
  | s8x16
  | s16x8
  | s32x4
  | s64x2
  | f16x8
  | f32x4
  | f64x2
  deriving DecidableEq, Repr

namespace DataType

def packed32 : Nat := 1 <<< 5

def packed64 : Nat := 2 <<< 5

def packed128 : Nat := 3 <<< 5

def code : DataType → Nat
  | u8 => 1
  | u16 => 2
  | u32 => 3
  | u64 => 4
  | s8 => 5
  | s16 => 6
  | s32 => 7
  | s64 => 8
  | f16 => 9
  | f32 => 10
  | f64 => 11
  | b1 => 12
  | b8 => 13
  | b16 => 14
  | b32 => 15
  | b64 => 16
  | b128 => 17
  | sampler => 18
  | readOnlyImage => 19
  | writeOnlyImage => 20
  | readWriteImage => 21
  | signal32 => 22
  | signal64 => 23
  | u8x4 => 1 ||| packed32
  | u16x2 => 2 ||| packed32
  | s8x4 => 5 ||| packed32
  | s16x2 => 6 ||| packed32
  | f16x2 => 9 ||| packed32
  | u8x8 => 1 ||| packed64
  | u16x4 => 2 ||| packed64
  | u32x2 => 3 ||| packed64
  | s8x8 => 5 ||| packed64
  | s16x4 => 6 ||| packed64
  | s32x2 => 7 ||| packed64
  | f16x4 => 9 ||| packed64
  | f32x2 => 10 ||| packed64
  | u8x16 => 1 ||| packed128
  | u16x8 => 2 ||| packed128
  | u32x4 => 3 ||| packed128
  | u64x2 => 4 ||| packed128
  | s8x16 => 5 ||| packed128
  | s16x8 => 6 ||| packed128
  | s32x4 => 7 ||| packed128
  | s64x2 => 8 ||| packed128
  | f16x8 => 9 ||| packed128
  | f32x4 => 10 ||| packed128
  | f64x2 => 11 ||| packed128

def members : List DataType :=
  [u8, u16, u32, u64, s8, s16, s32, s64, f16, f32, f64,
    b1, b8, b16, b32, b64, b128,
    sampler, readOnlyImage, writeOnlyImage, readWriteImage, signal32, signal64,
    u8x4, u16x2, s8x4, s16x2, f16x2,
    u8x8, u16x4, u32x2, s8x8, s16x4, s32x2, f16x4, f32x2,
    u8x16, u16x8, u32x4, u64x2, s8x16, s16x8, s32x4, s64x2, f16x8, f32x4, f64x2]

def label : DataType → String
  | u8 => "U8"
  | u16 => "U16"
  | u32 => "U32"
  | u64 => "U64"
  | s8 => "S8"
  | s16 => "S16"
  | s32 => "S32"
  | s64 => "S64"
  | f16 => "F16"
  | f32 => "F32"
  | f64 => "F64"
  | b1 => "B1"
  | b8 => "B8"
  | b16 => "B16"
  | b32 => "B32"
  | b64 => "B64"
  | b128 => "B128"
  | sampler => "Samp"
  | readOnlyImage => "RoImg"
  | writeOnlyImage => "WoImg"
  | readWriteImage => "RwImg"
  | signal32 => "Sig32"
  | signal64 => "Sig64"
  | u8x4 => "U8X4"
  | u16x2 => "U16X2"
  | s8x4 => "S8X4"
  | s16x2 => "S16X2"
  | f16x2 => "F16X2"
  | u8x8 => "U8X8"
  | u16x4 => "U16X4"
  | u32x2 => "U32X2"
  | s8x8 => "S8X8"
  | s16x4 => "S16X4"
  | s32x2 => "S32X2"
  | f16x4 => "F16X4"
  | f32x2 => "F32X2"
  | u8x16 => "U8X16"
  | u16x8 => "U16X8"
  | u32x4 => "U32X4"
  | u64x2 => "U64X2"
  | s8x16 => "S8X16"
  | s16x8 => "S16X8"
  | s32x4 => "S32X4"
  | s64x2 => "S64X2"
  | f16x8 => "F16X8"
  | f32x4 => "F32X4"
  | f64x2 => "F64X2"

instance : Coded DataType where
  family := "TypeCode"
  capacity := UInt16.size
  members := members
  code := code
  label := label

theorem members_getElem?_ctorIdx (t : DataType) : members[t.ctorIdx]? = some t := by
  cases t <;> rfl

instance : LawfulCoded DataType where
  mem_members t := List.mem_of_getElem? (members_getElem?_ctorIdx t)
  ascending := by decide +kernel
  code_lt := by decide +kernel

/-- Set on the code of a type to form the code of its arrays. -/
def arrayFlag : UInt16 := 0x80

def encoded (t : DataType) (isArray : Bool) : UInt16 :=
  if isArray then UInt16.ofNat t.code ||| arrayFlag else UInt16.ofNat t.code

end DataType

end HsaModule
