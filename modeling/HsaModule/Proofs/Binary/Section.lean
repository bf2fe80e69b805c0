import HsaModule.Binary.Module
import HsaModule.Proofs.Bytes.Access

namespace HsaModule.Binary.Section

theorem toNat_fieldOffset (s : Section) {delta : UInt64} (hdelta : delta.toNat ≤ 16) :
    (s.fieldOffset delta).toNat = s.offset.toNat + delta.toNat := by
  have hoffset : s.offset.toNat < 2 ^ 32 := s.offset.toNat_lt
  rw [fieldOffset, UInt64.toNat_add, UInt32.toNat_toUInt64]
  exact Nat.mod_eq_of_lt (by omega)

theorem byteCount_eq_ok_iff {s : Section} {n : UInt64} (hdata : s.data.Addressable) :
    s.byteCount = .ok n ↔ s.data.Holds s.offset.toNat (Bytes.ofNumber 8 n.toNat) := by
  rw [byteCount, Bytes.word64_eq_ok_iff hdata, s.toNat_fieldOffset (by decide)]
  rfl

theorem headerByteCount_eq_ok_iff {s : Section} {n : UInt32} (hdata : s.data.Addressable) :
    s.headerByteCount = .ok n ↔
      s.data.Holds (s.offset.toNat + 8) (Bytes.ofNumber 4 n.toNat) := by
  rw [headerByteCount, Bytes.word32_eq_ok_iff hdata, s.toNat_fieldOffset (by decide)]
  rfl

theorem nameSize_eq_ok_iff {s : Section} {n : UInt32} (hdata : s.data.Addressable) :
    s.data.word32 (s.fieldOffset 12) = .ok n ↔
      s.data.Holds (s.offset.toNat + 12) (Bytes.ofNumber 4 n.toNat) := by
  rw [Bytes.word32_eq_ok_iff hdata, s.toNat_fieldOffset (by decide)]
  rfl

theorem nameSize_eq_error_iff {s : Section} {e : Error} (hdata : s.data.Addressable) :
    s.data.word32 (s.fieldOffset 12) = .error e ↔
      s.data.CutShort (s.offset.toNat + 12) 4 e := by
  rw [Bytes.word32_eq_error_iff_cutShort hdata, s.toNat_fieldOffset (by decide)]
  rfl

theorem slice_fieldOffset_eq_ok_iff {s : Section} {delta size : UInt64} {bytes : Bytes}
    (hdata : s.data.Addressable) (hdelta : delta.toNat ≤ 16) :
    s.data.slice (s.fieldOffset delta) size = .ok bytes ↔
      bytes.length = size.toNat ∧ s.data.Holds (s.offset.toNat + delta.toNat) bytes := by
  rw [Bytes.slice_eq_ok_iff hdata, s.toNat_fieldOffset hdelta]

theorem slice_fieldOffset_eq_error_iff {s : Section} {delta size : UInt64} {e : Error}
    (hdata : s.data.Addressable) (hdelta : delta.toNat ≤ 16) :
    s.data.slice (s.fieldOffset delta) size = .error e ↔
      s.data.CutShort (s.offset.toNat + delta.toNat) size.toNat e := by
  rw [Bytes.slice_eq_error_iff_cutShort hdata, s.toNat_fieldOffset hdelta]

theorem name_eq_ok_iff {s : Section} {bytes : Bytes} (hdata : s.data.Addressable) :
    s.name = .ok bytes ↔
      ∃ size : UInt32, s.data.Holds (s.offset.toNat + 12) (Bytes.ofNumber 4 size.toNat) ∧
        bytes.length = size.toNat ∧ s.data.Holds (s.offset.toNat + 16) bytes := by
  have hbytes (size : UInt32) : s.data.slice (s.fieldOffset 16) size.toUInt64 = .ok bytes ↔
      bytes.length = size.toNat ∧ s.data.Holds (s.offset.toNat + 16) bytes :=
    slice_fieldOffset_eq_ok_iff hdata (by decide)
  change Except.bind _ _ = _ ↔ _
  rw [except_bind_eq_ok_iff]
  exact exists_congr fun size => and_congr (nameSize_eq_ok_iff hdata) (hbytes size)

theorem contents_eq_ok_iff {s : Section} {bytes : Bytes} (hdata : s.data.Addressable) :
    s.contents = .ok bytes ↔
      ∃ size : UInt64, s.data.Holds s.offset.toNat (Bytes.ofNumber 8 size.toNat) ∧
        bytes.length = size.toNat ∧ s.data.Holds s.offset.toNat bytes := by
  have hbytes (size : UInt64) : s.data.slice (s.fieldOffset 0) size = .ok bytes ↔
      bytes.length = size.toNat ∧ s.data.Holds s.offset.toNat bytes :=
    slice_fieldOffset_eq_ok_iff hdata (by decide)
  change Except.bind _ _ = _ ↔ _
  rw [except_bind_eq_ok_iff]
  exact exists_congr fun size => and_congr (byteCount_eq_ok_iff hdata) (hbytes size)

theorem byteCount_eq_error_iff {s : Section} {e : Error} (hdata : s.data.Addressable) :
    s.byteCount = .error e ↔ s.data.CutShort s.offset.toNat 8 e := by
  rw [byteCount, Bytes.word64_eq_error_iff_cutShort hdata, s.toNat_fieldOffset (by decide)]
  rfl

theorem headerByteCount_eq_error_iff {s : Section} {e : Error} (hdata : s.data.Addressable) :
    s.headerByteCount = .error e ↔ s.data.CutShort (s.offset.toNat + 8) 4 e := by
  rw [headerByteCount, Bytes.word32_eq_error_iff_cutShort hdata, s.toNat_fieldOffset (by decide)]
  rfl

theorem name_eq_error_iff {s : Section} {e : Error} (hdata : s.data.Addressable) :
    s.name = .error e ↔
      s.data.CutShort (s.offset.toNat + 12) 4 e ∨
        ∃ size : UInt32, s.data.Holds (s.offset.toNat + 12) (Bytes.ofNumber 4 size.toNat) ∧
          s.data.CutShort (s.offset.toNat + 16) size.toNat e := by
  have hbytes (size : UInt32) : s.data.slice (s.fieldOffset 16) size.toUInt64 = .error e ↔
      s.data.CutShort (s.offset.toNat + 16) size.toNat e :=
    slice_fieldOffset_eq_error_iff hdata (by decide)
  change Except.bind _ _ = _ ↔ _
  rw [except_bind_eq_error_iff]
  exact or_congr (nameSize_eq_error_iff hdata)
    (exists_congr fun size => and_congr (nameSize_eq_ok_iff hdata) (hbytes size))

theorem contents_eq_error_iff {s : Section} {e : Error} (hdata : s.data.Addressable) :
    s.contents = .error e ↔
      s.data.CutShort s.offset.toNat 8 e ∨
        ∃ size : UInt64, s.data.Holds s.offset.toNat (Bytes.ofNumber 8 size.toNat) ∧
          s.data.CutShort s.offset.toNat size.toNat e := by
  have hbytes (size : UInt64) : s.data.slice (s.fieldOffset 0) size = .error e ↔
      s.data.CutShort s.offset.toNat size.toNat e :=
    slice_fieldOffset_eq_error_iff hdata (by decide)
  change Except.bind _ _ = _ ↔ _
  rw [except_bind_eq_error_iff]
  exact or_congr (byteCount_eq_error_iff hdata)
    (exists_congr fun size => and_congr (byteCount_eq_ok_iff hdata) (hbytes size))

theorem slice_of_contents {s : Section} {contents : Bytes} (h : s.contents = .ok contents)
    (delta count : UInt64) (hdelta : delta.toNat ≤ 16)
    (hcount : delta.toNat + count.toNat ≤ contents.length) :
    s.data.slice (s.fieldOffset delta) count =
      .ok ((contents.drop delta.toNat).take count.toNat) := by
  obtain ⟨size, -, hslice⟩ := except_bind_eq_ok_iff.1 h
  obtain ⟨hrange, hlength, hholds⟩ := Bytes.slice_eq_ok_iff_range.1 hslice
  have hstart : (s.fieldOffset 0).toNat = s.offset.toNat := s.toNat_fieldOffset (by decide)
  rw [hstart] at hrange hholds
  rw [Bytes.slice_eq_ok_iff_range, s.toNat_fieldOffset hdelta]
  refine ⟨?_, Bytes.length_take_drop hcount, hholds.trans (Bytes.holds_take_drop hcount)⟩
  omega

theorem exists_slice_of_name {s : Section} {name : Bytes} (h : s.name = .ok name)
    (delta count : UInt64) (hcount : delta.toNat + count.toNat ≤ 16) :
    ∃ part, s.data.slice (s.fieldOffset delta) count = .ok part := by
  obtain ⟨size, hsize, -⟩ := except_bind_eq_ok_iff.1 h
  obtain ⟨part, hslice, -⟩ := except_map_eq_ok_iff.1 hsize
  obtain ⟨hrange, hlength, hholds⟩ := Bytes.slice_eq_ok_iff_range.1 hslice
  have hend := hholds.le_length
  have hplace : (s.fieldOffset 12).toNat = s.offset.toNat + 12 := s.toNat_fieldOffset (by decide)
  have hfield : (s.fieldOffset delta).toNat = s.offset.toNat + delta.toNat :=
    s.toNat_fieldOffset (Nat.le_of_add_right_le hcount)
  have hfour : (4 : UInt64).toNat = 4 := rfl
  exact ⟨_, Bytes.slice_of_range (by omega) (by omega)⟩

/-- A section whose contents can be read has in them what its other reads give. -/
structure SelfDescribing (s : Section) : Prop where
  length {contents : Bytes} : s.contents = .ok contents →
    ∃ size, s.byteCount = .ok size ∧ size.toNat = contents.length
  sizes {contents : Bytes} : s.contents = .ok contents → 16 ≤ contents.length →
    (∃ size, s.byteCount = .ok size ∧ size.toNat = Bytes.toNumber (contents.take 8)) ∧
      ∃ size, s.headerByteCount = .ok size ∧ size.toNat = Bytes.toNumber ((contents.drop 8).take 4)
  name {contents : Bytes} {n : Nat} : s.contents = .ok contents →
    Bytes.toNumber ((contents.drop 12).take 4) = n → 16 + n ≤ contents.length →
      s.name = .ok ((contents.drop 16).take n)
  sizes_of_name {name : Bytes} : s.name = .ok name →
    (∃ size, s.byteCount = .ok size) ∧ ∃ size, s.headerByteCount = .ok size

theorem selfDescribing (s : Section) : s.SelfDescribing where
  length h := by
    obtain ⟨size, hsize, hslice⟩ := except_bind_eq_ok_iff.1 h
    obtain ⟨-, hlength, -⟩ := Bytes.slice_eq_ok_iff_range.1 hslice
    exact ⟨size, hsize, hlength.symm⟩
  sizes {contents} h hlong := by
    have hcount : 0 + 8 ≤ contents.length := Nat.le_trans (by decide) hlong
    have hheader : 8 + 4 ≤ contents.length := Nat.le_trans (by decide) hlong
    exact ⟨Bytes.word64_of_slice (slice_of_contents h 0 8 (by decide) hcount),
      Bytes.word32_of_slice (slice_of_contents h 8 4 (by decide) hheader)⟩
  name {contents n} h hn hlong := by
    have hsize : 12 + 4 ≤ contents.length := Nat.le_of_add_right_le hlong
    obtain ⟨w, hw, hvalue⟩ := Bytes.word32_of_slice (slice_of_contents h 12 4 (by decide) hsize)
    have hwide : w.toUInt64.toNat = n := by
      rw [UInt32.toNat_toUInt64, hvalue]
      exact hn
    have hbytes : 16 + w.toUInt64.toNat ≤ contents.length := by
      rw [hwide]
      exact hlong
    have hslice := slice_of_contents h 16 w.toUInt64 (by decide) hbytes
    rw [hwide] at hslice
    exact except_bind_eq_ok_iff.2 ⟨w, hw, hslice⟩
  sizes_of_name h := by
    obtain ⟨count, hcount⟩ := exists_slice_of_name h 0 8 (by decide)
    obtain ⟨header, hheader⟩ := exists_slice_of_name h 8 4 (by decide)
    obtain ⟨size, hsize, -⟩ := Bytes.word64_of_slice hcount
    obtain ⟨headerSize, hheaderSize, -⟩ := Bytes.word32_of_slice hheader
    exact ⟨⟨size, hsize⟩, ⟨headerSize, hheaderSize⟩⟩

end HsaModule.Binary.Section
