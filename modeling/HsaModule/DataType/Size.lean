import HsaModule.Alignment
import HsaModule.DataType.Basic

namespace HsaModule.DataType

def bitCount : DataType → Nat
  | b1 => 1
  | u8 | s8 | b8 => 8
  | u16 | s16 | f16 | b16 => 16
  | u32 | s32 | f32 | b32 => 32
  | u64 | s64 | f64 | b64 => 64
  | b128 => 128
  -- handles are 64 bits wide whatever size the value of a signal has
  | sampler | readOnlyImage | writeOnlyImage | readWriteImage | signal32 | signal64 => 64
  | u8x4 | s8x4 | u16x2 | s16x2 | f16x2 => 32
  | u8x8 | s8x8 | u16x4 | s16x4 | f16x4 | u32x2 | s32x2 | f32x2 => 64
  | u8x16 | s8x16 | u16x8 | s16x8 | f16x8 | u32x4 | s32x4 | f32x4 | u64x2 | s64x2 | f64x2 => 128

/-- Storage size in bytes; a single bit takes a whole byte. -/
def byteCount (t : DataType) : Nat := (t.bitCount + 7) / 8

def naturalAlignment (t : DataType) : Alignment :=
  match t.byteCount with
  | 1 => .a1
  | 2 => .a2
  | 4 => .a4
  | 8 => .a8
  | _ => .a16

/-- Objects of the type may be accessed where the alignment is known to be `a`. -/
def allowsAlignment (t : DataType) (a : Alignment) : Bool :=
  t.naturalAlignment.bytes ≤ a.bytes

theorem bytes_naturalAlignment (t : DataType) : t.naturalAlignment.bytes = t.byteCount := by
  cases t <;> rfl

end HsaModule.DataType
