import HsaModule.Proofs.Binary.Lookup
import HsaModule.Proofs.Binary.Section

namespace HsaModule.Binary

structure Section.Safe (s : Section) : Prop where
  fieldOffset_exact (delta : UInt64) :
    delta.toNat ≤ 16 → (s.fieldOffset delta).toNat = s.offset.toNat + delta.toNat
  byteCount_ok (size : UInt64) :
    s.byteCount = .ok size ↔ s.data.Holds s.offset.toNat (Bytes.ofNumber 8 size.toNat)
  byteCount_error (e : Error) : s.byteCount = .error e ↔ s.data.CutShort s.offset.toNat 8 e
  headerByteCount_ok (size : UInt32) : s.headerByteCount = .ok size ↔
    s.data.Holds (s.offset.toNat + 8) (Bytes.ofNumber 4 size.toNat)
  headerByteCount_error (e : Error) :
    s.headerByteCount = .error e ↔ s.data.CutShort (s.offset.toNat + 8) 4 e
  name_ok (bytes : Bytes) : s.name = .ok bytes ↔
    ∃ size : UInt32, s.data.Holds (s.offset.toNat + 12) (Bytes.ofNumber 4 size.toNat) ∧
      bytes.length = size.toNat ∧ s.data.Holds (s.offset.toNat + 16) bytes
  name_error (e : Error) : s.name = .error e ↔
    s.data.CutShort (s.offset.toNat + 12) 4 e ∨
      ∃ size : UInt32, s.data.Holds (s.offset.toNat + 12) (Bytes.ofNumber 4 size.toNat) ∧
        s.data.CutShort (s.offset.toNat + 16) size.toNat e
  contents_ok (bytes : Bytes) : s.contents = .ok bytes ↔
    ∃ size : UInt64, s.data.Holds s.offset.toNat (Bytes.ofNumber 8 size.toNat) ∧
      bytes.length = size.toNat ∧ s.data.Holds s.offset.toNat bytes
  contents_error (e : Error) : s.contents = .error e ↔
    s.data.CutShort s.offset.toNat 8 e ∨
      ∃ size : UInt64, s.data.Holds s.offset.toNat (Bytes.ofNumber 8 size.toNat) ∧
        s.data.CutShort s.offset.toNat size.toNat e

structure Navigable (data : Bytes) : Prop where
  load_error (e : Error) : Module.load data = .error e → e = .notBrig
  entryOffset_exact (m : Module) (index : UInt32) : Module.load data = .ok m →
    (∀ place, m.entryOffset? index = some place → place.toNat = m.entryPlace index) ∧
      (m.entryOffset? index = none → UInt64.size ≤ m.entryPlace index)
  sectionAt_error (m : Module) (index : UInt32) (e : Error) : Module.load data = .ok m →
    ((m.sectionAt index).result = .error e ↔ m.Refuses index e)
  sectionAt_ok (m : Module) (index : UInt32) (s : Section) : Module.load data = .ok m →
    ((m.sectionAt index).result = .ok s ↔
      index < m.header.sectionCount ∧ s.data = data ∧ s.offset.toNat < UInt32.size - 1 ∧
        data.Holds (m.entryPlace index) (Bytes.ofNumber 8 s.offset.toNat))
  section_safe (m : Module) (index : UInt32) (s : Section) : Module.load data = .ok m →
    (m.sectionAt index).result = .ok s → s.data = data ∧ s.Safe
  firstSections_lookup (m : Module) (n : Nat) (found : Logged Error Section) :
    Module.load data = .ok m → found ∈ m.firstSections n → ∃ index, found = m.sectionAt index

theorem Section.safe_of_addressable {s : Section} (hdata : s.data.Addressable) : s.Safe where
  fieldOffset_exact _ hdelta := s.toNat_fieldOffset hdelta
  byteCount_ok _ := byteCount_eq_ok_iff hdata
  byteCount_error _ := byteCount_eq_error_iff hdata
  headerByteCount_ok _ := headerByteCount_eq_ok_iff hdata
  headerByteCount_error _ := headerByteCount_eq_error_iff hdata
  name_ok _ := name_eq_ok_iff hdata
  name_error _ := name_eq_error_iff hdata
  contents_ok _ := contents_eq_ok_iff hdata
  contents_error _ := contents_eq_error_iff hdata

theorem Module.load_eq_error {data : Bytes} {e : Error} (h : load data = .error e) :
    e = .notBrig := by
  unfold load at h
  split at h
  · cases h
  · exact (Except.error.inj h).symm

/-- A buffer that fits into memory can be navigated whatever its bytes are. -/
theorem navigable_of_addressable (data : Bytes) (hdata : data.Addressable) : Navigable data where
  load_error _ h := Module.load_eq_error h
  entryOffset_exact _ _ _ :=
    ⟨fun _ hplace => Module.entryOffset?_eq_some_iff.1 hplace, Module.entryOffset?_eq_none_iff.1⟩
  sectionAt_error m index e hload := by
    obtain rfl := Module.load_eq_ok_iff.1 hload
    exact Module.result_sectionAt_eq_error_iff hdata
  sectionAt_ok m index s hload := by
    obtain rfl := Module.load_eq_ok_iff.1 hload
    exact Module.result_sectionAt_eq_ok_iff hdata
  section_safe m index s hload h := by
    obtain rfl := Module.load_eq_ok_iff.1 hload
    have hs := Module.data_of_sectionAt h
    refine ⟨hs, Section.safe_of_addressable ?_⟩
    rwa [hs]
  firstSections_lookup m n found _ h := by
    obtain ⟨i, -, rfl⟩ := List.mem_map.1 h
    exact ⟨UInt32.ofNat i, rfl⟩

/-- A header whose table starts with its own last field, the place of the table. -/
def selfTableHeader : Header where
  major := 1
  minor := 0
  byteCount := 0xFFFFFFFFFFFFFFFF
  hash := Bytes.fill 64 0
  sectionCount := 0xFFFFFFFF
  tableOffset := 96

def selfTable : Bytes :=
  selfTableHeader.toBytes (Bytes.fill 4 0) ++ Bytes.ofNumber 8 0xFFFFFFFF00000010

theorem navigable_selfTable :
    selfTable.Addressable ∧ Navigable selfTable ∧
      ∃ m s, Module.load selfTable = .ok m ∧ (m.sectionAt 0).result = .ok s ∧
        s.contents = .error (.truncated 96 96) := by
  have hdata : selfTable.Addressable := by decide +kernel
  refine ⟨hdata, navigable_of_addressable selfTable hdata, ?_⟩
  let m : Module :=
    { data := selfTable, header := selfTableHeader, parse?_data := by decide +kernel }
  exact ⟨m, { data := selfTable, offset := 96 }, m.load_eq_ok, by decide +kernel, by decide +kernel⟩

end HsaModule.Binary
