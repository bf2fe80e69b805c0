import HsaModule.Binary.Header
import HsaModule.Proofs.Bytes.Change

namespace HsaModule.Binary.Header

open Bytes

def toBytes (h : Header) (reserved : Block 4) : Bytes :=
  identification ++ Bytes.ofNumber 4 h.major.toNat ++ Bytes.ofNumber 4 h.minor.toNat ++
    Bytes.ofNumber 8 h.byteCount.toNat ++ h.hash.val ++ reserved.val ++
    Bytes.ofNumber 4 h.sectionCount.toNat ++ Bytes.ofNumber 8 h.tableOffset.toNat

@[simp] theorem length_toBytes (h : Header) (reserved : Block 4) :
    (h.toBytes reserved).length = size := by
  simp [toBytes, identification, size, h.hash.property, reserved.property]

theorem take_eight_eq_iff {data : Bytes} :
    data.take 8 = identification ↔ data.Holds 0 identification := by
  rw [holds_iff]
  constructor
  · intro h
    have hlength := congrArg List.length h
    rw [List.length_take] at hlength
    have height : identification.length = 8 := rfl
    exact ⟨by omega, h⟩
  · rintro ⟨-, h⟩
    exact h

theorem parse?_eq_some_iff_reads {data : Bytes} {h : Header} :
    parse? data = some h ↔
      data.Holds 0 identification ∧ data.word32 8 = .ok h.major ∧ data.word32 12 = .ok h.minor ∧
        data.word64 16 = .ok h.byteCount ∧ data.block 24 64 = .ok h.hash ∧
        data.word32 92 = .ok h.sectionCount ∧ data.word64 96 = .ok h.tableOffset := by
  rw [← take_eight_eq_iff]
  constructor
  · intro hparse
    rw [parse?] at hparse
    split at hparse
    case isFalse => cases hparse
    case isTrue hidentification =>
        simp only [Option.bind_eq_bind, Option.bind_eq_some_iff, except_toOption_eq_some_iff]
          at hparse
        obtain ⟨_, hmajor, _, hminor, _, hbyteCount, _, hhash, _, hcount, _, htable, heq⟩ :=
          hparse
        obtain rfl := Option.some.inj heq
        exact ⟨hidentification, hmajor, hminor, hbyteCount, hhash, hcount, htable⟩
  · rintro ⟨hidentification, hmajor, hminor, hbyteCount, hhash, hcount, htable⟩
    rw [parse?, if_pos hidentification, hmajor, hminor, hbyteCount, hhash, hcount, htable]
    rfl

theorem parse?_take (data : Bytes) : parse? (data.take size) = parse? data := by
  have hidentification : (data.take size).take 8 = data.take 8 := by
    rw [List.take_take]
    rfl
  have hhash : block (data.take size) 24 64 = data.block 24 64 := by
    rw [block, slice_take (by decide), block]
  rw [parse?, hidentification, word32_take (by decide), word32_take (by decide),
    word64_take (by decide), hhash, word32_take (by decide), word64_take (by decide), parse?]

theorem size_le_length {data : Bytes} {h : Header} (hparse : parse? data = some h) :
    size ≤ data.length := by
  obtain ⟨-, -, -, -, -, -, htable⟩ := parse?_eq_some_iff_reads.1 hparse
  by_contra hshort
  have hslice : data.slice 96 8 = .error (.truncated 96 8) := slice_of_lt (Nat.not_le.1 hshort)
  rw [word64, hslice] at htable
  cases htable

theorem holds_toBytes_iff {data : Bytes} {h : Header} {reserved : Block 4} :
    data.Holds 0 (h.toBytes reserved) ↔
      data.Holds 0 identification ∧ data.Holds 8 (ofNumber 4 h.major.toNat) ∧
        data.Holds 12 (ofNumber 4 h.minor.toNat) ∧ data.Holds 16 (ofNumber 8 h.byteCount.toNat) ∧
        data.Holds 24 h.hash.val ∧ data.Holds 88 reserved.val ∧
        data.Holds 92 (ofNumber 4 h.sectionCount.toNat) ∧
        data.Holds 96 (ofNumber 8 h.tableOffset.toNat) := by
  have hidentification : identification.length = 8 := rfl
  simp only [toBytes, holds_append_iff, List.length_append, length_ofNumber, h.hash.property,
    reserved.property, hidentification, and_assoc, Nat.zero_add, Nat.reduceAdd]

theorem parse?_eq_some_iff {data : Bytes} {h : Header} (hdata : data.Addressable) :
    parse? data = some h ↔ ∃ reserved, data.Holds 0 (h.toBytes reserved) := by
  rw [parse?_eq_some_iff_reads, word32_eq_ok_iff hdata, word32_eq_ok_iff hdata,
    word64_eq_ok_iff hdata, block_eq_ok_iff hdata (by decide), word32_eq_ok_iff hdata,
    word64_eq_ok_iff hdata]
  simp only [holds_toBytes_iff]
  constructor
  · rintro ⟨hidentification, hmajor, hminor, hbyteCount, hhash, hcount, htable⟩
    -- nothing reads the reserved bytes, but the fields behind them need the buffer to go on
    have hle : 88 + 4 ≤ data.length := by
      have hend := htable.le_length
      rw [length_ofNumber] at hend
      have hplace : (96 : UInt64).toNat = 96 := rfl
      omega
    exact ⟨⟨(data.drop 88).take 4, length_take_drop hle⟩, hidentification, hmajor, hminor,
      hbyteCount, hhash, holds_take_drop hle, hcount, htable⟩
  · rintro ⟨_, hidentification, hmajor, hminor, hbyteCount, hhash, -, hcount, htable⟩
    exact ⟨hidentification, hmajor, hminor, hbyteCount, hhash, hcount, htable⟩

theorem parse?_isSome_iff {data : Bytes} :
    (parse? data).isSome ↔ size ≤ data.length ∧ identification <+: data := by
  have hstarts : identification <+: data ↔ data.take 8 = identification := by
    rw [List.prefix_iff_eq_take]
    exact eq_comm
  rw [hstarts, take_eight_eq_iff, Option.isSome_iff_exists]
  constructor
  · rintro ⟨h, hparse⟩
    exact ⟨size_le_length hparse, (parse?_eq_some_iff_reads.1 hparse).1⟩
  · rintro ⟨hlength, hidentification⟩
    have hslice (offset count : UInt64) (hcount : offset.toNat + count.toNat ≤ size) :
        data.slice offset count = .ok ((data.drop offset.toNat).take count.toNat) :=
      slice_of_range (Nat.lt_of_le_of_lt hcount (by decide)) (Nat.le_trans hcount hlength)
    obtain ⟨major, hmajor, -⟩ := word32_of_slice (hslice 8 4 (by decide))
    obtain ⟨minor, hminor, -⟩ := word32_of_slice (hslice 12 4 (by decide))
    obtain ⟨byteCount, hbyteCount, -⟩ := word64_of_slice (hslice 16 8 (by decide))
    obtain ⟨hash, hhash⟩ := exists_block (by decide) (hslice 24 (.ofNat 64) (by decide))
    obtain ⟨sectionCount, hcount, -⟩ := word32_of_slice (hslice 92 4 (by decide))
    obtain ⟨tableOffset, htable, -⟩ := word64_of_slice (hslice 96 8 (by decide))
    exact ⟨{ major, minor, byteCount, hash, sectionCount, tableOffset },
      parse?_eq_some_iff_reads.2
        ⟨hidentification, hmajor, hminor, hbyteCount, hhash, hcount, htable⟩⟩

example : identification = "HSA BRIG".toList.map fun c => UInt8.ofNat c.toNat := by decide

/-- The bytes that the fields of a header are read from: all 104 but the four from 88 on. -/
def fieldBytes (data : Bytes) : Bytes × Bytes := (data.take 88, (data.drop 92).take 12)

theorem fieldBytes_take (data : Bytes) : fieldBytes (data.take size) = fieldBytes data := by
  rw [fieldBytes, fieldBytes, List.take_take, List.drop_take, List.take_take]
  rfl

theorem take_size_eq (data : Bytes) :
    data.take size = (fieldBytes data).1 ++ (data.drop 88).take 4 ++ (fieldBytes data).2 := by
  have hback : (data.drop 88).take 16 = (data.drop 88).take 4 ++ (data.drop 92).take 12 := by
    rw [List.take_add (i := 4) (j := 12), List.drop_drop]
  have hwhole : data.take size = data.take 88 ++ (data.drop 88).take 16 :=
    List.take_add (i := 88) (j := 16)
  rw [hwhole, hback, ← List.append_assoc]
  rfl

def writtenFields (h : Header) : Bytes × Bytes :=
  (identification ++ ofNumber 4 h.major.toNat ++ ofNumber 4 h.minor.toNat ++
      ofNumber 8 h.byteCount.toNat ++ h.hash.val,
    ofNumber 4 h.sectionCount.toNat ++ ofNumber 8 h.tableOffset.toNat)

theorem length_writtenFields (h : Header) :
    h.writtenFields.1.length = 88 ∧ h.writtenFields.2.length = 12 := by
  simp [writtenFields, identification, h.hash.property]

theorem toBytes_eq (h : Header) (reserved : Block 4) :
    h.toBytes reserved = h.writtenFields.1 ++ reserved.val ++ h.writtenFields.2 := by
  rw [toBytes, List.append_assoc]
  rfl

theorem fieldBytes_toBytes (h : Header) (reserved : Block 4) :
    fieldBytes (h.toBytes reserved) = h.writtenFields := by
  obtain ⟨hfront, hback⟩ := h.length_writtenFields
  have htake : (h.toBytes reserved).take 88 = h.writtenFields.1 := by
    rw [toBytes_eq, List.append_assoc]
    exact List.take_left' hfront
  have hdrop : (h.toBytes reserved).drop 92 = h.writtenFields.2 := by
    rw [toBytes_eq]
    apply List.drop_left'
    rw [List.length_append, hfront, reserved.property]
  rw [fieldBytes, htake, hdrop, List.take_of_length_le (Nat.le_of_eq hback)]

theorem addressable_take (data : Bytes) : Addressable (data.take size) :=
  Nat.lt_of_le_of_lt (List.length_take_le size data) (by decide)

theorem parse?_eq_some_iff_fieldBytes {data : Bytes} {h : Header} :
    parse? data = some h ↔ fieldBytes data = h.writtenFields := by
  rw [← parse?_take, parse?_eq_some_iff (addressable_take data)]
  constructor
  · rintro ⟨reserved, hholds⟩
    have hwhole := hholds.take_drop_eq
    rw [length_toBytes, List.drop_zero, List.take_take, Nat.min_self] at hwhole
    rw [← fieldBytes_take, hwhole, fieldBytes_toBytes]
  · intro hfields
    have hback := h.length_writtenFields.2
    rw [← hfields, fieldBytes, List.length_take, List.length_drop] at hback
    have hle : 88 + 4 ≤ data.length := by omega
    refine ⟨⟨_, length_take_drop hle⟩, ?_⟩
    rw [toBytes_eq, ← hfields, ← take_size_eq]
    exact holds_self _

theorem parse?_congr {data data' : Bytes} (h : fieldBytes data' = fieldBytes data) :
    parse? data' = parse? data := by
  ext header
  rw [parse?_eq_some_iff_fieldBytes, parse?_eq_some_iff_fieldBytes, h]

/-- Which buffers have a header, which of their bytes the header is, and that it is nothing else. -/
structure ReadExactly (data : Bytes) : Prop where
  isSome_iff : (parse? data).isSome ↔ 104 ≤ data.length ∧ identification <+: data
  written {h : Header} (reserved : Block 4) : parse? data = some h →
    fieldBytes (h.toBytes reserved) = fieldBytes data
  same_iff {h : Header} {data' : Bytes} : parse? data = some h →
    (parse? data' = some h ↔ fieldBytes data' = fieldBytes data)
  reserved_unread (reserved : Block 4) : 104 ≤ data.length →
    parse? (data.overwrite 88 reserved.val) = parse? data
  rest_unread (rest : Bytes) : 104 ≤ data.length → parse? (data.take 104 ++ rest) = parse? data

theorem readExactly (data : Bytes) : ReadExactly data where
  isSome_iff := parse?_isSome_iff
  written {h} reserved hparse := by
    rw [fieldBytes_toBytes, parse?_eq_some_iff_fieldBytes.1 hparse]
  same_iff hparse := by
    rw [parse?_eq_some_iff_fieldBytes, parse?_eq_some_iff_fieldBytes.1 hparse]
  reserved_unread reserved hlength := by
    have hstart : 88 ≤ data.length := Nat.le_trans (by decide) hlength
    have hdrop : (data.overwrite 88 reserved.val).drop (88 + reserved.val.length) =
        data.drop (88 + reserved.val.length) := drop_overwrite hstart
    rw [reserved.property] at hdrop
    apply parse?_congr
    rw [fieldBytes, take_overwrite hstart, hdrop]
    rfl
  rest_unread rest hlength := by
    have hfront : (data.take 104).length = size := List.length_take_of_le hlength
    rw [← parse?_take, List.take_left' hfront]
    exact parse?_take data

end HsaModule.Binary.Header
