import HsaModule.Proofs.Binary.Draft
import HsaModule.Proofs.Binary.Lookup
import HsaModule.Proofs.Binary.Section

/-!
Written modules read back.

A draft is written as a header, a table and sections. Each of these is a part of the image, and the
places of the parts are the running offsets that the table records; so every read of a field goes to
the place where the field was written.
-/

namespace HsaModule.Binary

open Bytes

namespace SectionDraft

theorem holds_toBytes_iff {data : Bytes} {start : Nat} {s : SectionDraft} :
    data.Holds start s.toBytes ↔
      data.Holds start (ofNumber 8 s.size) ∧ data.Holds (start + 8) (ofNumber 4 s.headerSize) ∧
        data.Holds (start + 12) (ofNumber 4 s.name.length) ∧ data.Holds (start + 16) s.name ∧
        data.Holds (start + 16 + s.name.length) (List.replicate s.padding 0) ∧
        data.Holds (start + s.headerSize) s.payload := by
  simp only [toBytes, headerSize, holds_append_iff, List.length_append, length_ofNumber,
    List.length_replicate, and_assoc, Nat.add_assoc, Nat.reduceAdd]

theorem drop_toBytes (s : SectionDraft) : s.toBytes.drop s.headerSize = s.payload := by
  rw [toBytes]
  apply List.drop_left'
  simp only [headerSize, List.length_append, length_ofNumber, List.length_replicate]

theorem getElem?_offsets (start : Nat) {sections : List SectionDraft} {i : Nat}
    (hi : i < sections.length) :
    (offsets start sections)[i]? = some (start + ((sections.take i).map size).sum) := by
  induction sections generalizing start i with
  | nil => simp at hi
  | cons first rest ih =>
      cases i with
      | zero => simp [offsets]
      | succ i =>
          have hnext := ih (start + first.size) (Nat.lt_of_succ_lt_succ hi)
          simpa [offsets, Nat.add_assoc] using hnext

theorem holds_getElem {data : Bytes} {start : Nat} {sections : List SectionDraft}
    (h : data.Holds start (sections.flatMap toBytes)) {i : Nat} {s : SectionDraft}
    (hs : sections[i]? = some s) :
    data.Holds (start + ((sections.take i).map size).sum) s.toBytes := by
  induction sections generalizing start i with
  | nil => simp at hs
  | cons first rest ih =>
      rw [List.flatMap_cons, holds_append_iff, length_toBytes] at h
      obtain ⟨hfirst, hrest⟩ := h
      cases i with
      | zero =>
          obtain rfl : first = s := by simpa using hs
          simpa using hfirst
      | succ i =>
          have hnext := ih hrest (by simpa using hs)
          simpa [Nat.add_assoc] using hnext

structure ReadBack (draft : SectionDraft) (s : Section) : Prop where
  byteCount : ∃ n, s.byteCount = .ok n ∧ n.toNat = draft.size
  headerByteCount : ∃ n, s.headerByteCount = .ok n ∧ n.toNat = draft.headerSize
  name : s.name = .ok draft.name
  contents : s.contents = .ok draft.toBytes
  payload : ∃ bytes, s.contents = .ok bytes ∧ bytes.drop draft.headerSize = draft.payload

theorem readBack_of_holds {draft : SectionDraft} {s : Section}
    (hlength : s.data.length < 2 ^ 32) (h : s.data.Holds s.offset.toNat draft.toBytes) :
    draft.ReadBack s := by
  have hdata : s.data.Addressable := by
    rw [Addressable]
    omega
  have hend := h.le_length
  rw [length_toBytes, size, headerSize] at hend
  have hsize : (UInt64.ofNat draft.size).toNat = draft.size := by
    apply UInt64.toNat_ofNat_of_lt'
    have hwords : UInt64.size = 18446744073709551616 := rfl
    rw [size, headerSize]
    omega
  have hwords : UInt32.size = 4294967296 := rfl
  have hheader : (UInt32.ofNat draft.headerSize).toNat = draft.headerSize := by
    apply UInt32.toNat_ofNat_of_lt'
    rw [headerSize]
    omega
  have hname : (UInt32.ofNat draft.name.length).toNat = draft.name.length := by
    apply UInt32.toNat_ofNat_of_lt'
    omega
  obtain ⟨hbyteCount, hheaderByteCount, hnameLength, hnameBytes, -, -⟩ := holds_toBytes_iff.1 h
  rw [← hsize] at hbyteCount
  rw [← hheader] at hheaderByteCount
  rw [← hname] at hnameLength
  have hcontents : s.contents = .ok draft.toBytes := by
    rw [Section.contents_eq_ok_iff hdata]
    refine ⟨_, hbyteCount, ?_, h⟩
    rw [length_toBytes, hsize]
  exact
    { byteCount := ⟨_, (Section.byteCount_eq_ok_iff hdata).2 hbyteCount, hsize⟩
      headerByteCount :=
        ⟨_, (Section.headerByteCount_eq_ok_iff hdata).2 hheaderByteCount, hheader⟩
      name := (Section.name_eq_ok_iff hdata).2 ⟨_, hnameLength, hname.symm, hnameBytes⟩
      contents := hcontents
      payload := ⟨_, hcontents, draft.drop_toBytes⟩ }

end SectionDraft

namespace Draft

structure ReadBack (d : Draft) (m : Module) : Prop where
  major : m.header.major = d.major
  minor : m.header.minor = d.minor
  byteCount : m.header.byteCount = d.byteCount
  hash : m.header.hash = d.hash
  sectionCount : m.header.sectionCount.toNat = d.sections.length
  tableOffset : m.header.tableOffset.toNat = 104
  length_sections : m.sections.length = d.sections.length
  getElem_sections (i : Nat) (draft : SectionDraft) : d.sections[i]? = some draft →
    ∃ found s, m.sections[i]? = some found ∧ found.result = .ok s ∧
      s.offset.toNat = 104 + 8 * d.sections.length +
        ((d.sections.take i).map SectionDraft.size).sum ∧
      draft.ReadBack s
  noSection (index : UInt32) : d.sections.length ≤ index.toNat →
    (m.sectionAt index).result = .error (.contract (.sectionIndex index m.header.sectionCount))

theorem length_table (d : Draft) : d.table.length = 8 * d.sections.length := by
  simp only [table, offsets, List.length_flatMap, length_ofNumber, List.map_const',
    SectionDraft.length_offsets, List.sum_replicate_nat, Nat.mul_comm]

theorem holds_toBytes (d : Draft) :
    d.toBytes.Holds 0 (d.header.toBytes d.reserved) ∧ d.toBytes.Holds 104 d.table ∧
      d.toBytes.Holds d.sectionsOffset (d.sections.flatMap SectionDraft.toBytes) := by
  have hparts := holds_self d.toBytes
  nth_rewrite 2 [toBytes] at hparts
  rw [holds_append_iff, holds_append_iff, List.length_append, Header.length_toBytes, length_table,
    Nat.zero_add, Nat.zero_add, and_assoc] at hparts
  exact hparts

theorem sectionsOffset_le (d : Draft) : d.sectionsOffset ≤ d.toBytes.length := by
  have hle := (d.holds_toBytes).2.2.le_length
  omega

theorem holds_entry (d : Draft) {i : Nat} (hi : i < d.sections.length) :
    d.toBytes.Holds (104 + 8 * i)
      (ofNumber 8 (d.sectionsOffset + ((d.sections.take i).map SectionDraft.size).sum)) := by
  obtain ⟨-, htable, -⟩ := d.holds_toBytes
  exact htable.getElem_flatMap (length_ofNumber 8) (SectionDraft.getElem?_offsets _ hi)

theorem length_sections_lt (d : Draft) (hsize : d.toBytes.length < 2 ^ 32) :
    d.sections.length < UInt32.size := by
  have hle := d.sectionsOffset_le
  have hwords : UInt32.size = 4294967296 := rfl
  rw [sectionsOffset] at hle
  omega

theorem toNat_sectionCount (d : Draft) (hsize : d.toBytes.length < 2 ^ 32) :
    d.header.sectionCount.toNat = d.sections.length :=
  UInt32.toNat_ofNat_of_lt' (d.length_sections_lt hsize)

theorem addressable_toBytes (d : Draft) (hsize : d.toBytes.length < 2 ^ 32) :
    d.toBytes.Addressable := by
  rw [Addressable]
  omega

theorem parse?_toBytes (d : Draft) (hsize : d.toBytes.length < 2 ^ 32) :
    Header.parse? d.toBytes = some d.header :=
  (Header.parse?_eq_some_iff (d.addressable_toBytes hsize)).2 ⟨d.reserved, d.holds_toBytes.1⟩

theorem sectionAt_readBack (d : Draft) (hsize : d.toBytes.length < 2 ^ 32) {m : Module}
    (hdata : m.data = d.toBytes) (hheader : m.header = d.header) {i : Nat}
    {draft : SectionDraft} (hdraft : d.sections[i]? = some draft) :
    ∃ s, (m.sectionAt (UInt32.ofNat i)).result = .ok s ∧
      s.offset.toNat = d.sectionsOffset + ((d.sections.take i).map SectionDraft.size).sum ∧
      draft.ReadBack s := by
  obtain ⟨hi, -⟩ := List.getElem?_eq_some_iff.1 hdraft
  have hwords : UInt32.size = 4294967296 := rfl
  have hcount := d.length_sections_lt hsize
  have hindex : (UInt32.ofNat i).toNat = i := UInt32.toNat_ofNat_of_lt' (by omega)
  have hsection := SectionDraft.holds_getElem d.holds_toBytes.2.2 hdraft
  have hentry := d.holds_entry hi
  generalize hstart : d.sectionsOffset + ((d.sections.take i).map SectionDraft.size).sum = start
    at hsection hentry ⊢
  -- a section has sixteen bytes of header at least, so its place is well below the limit
  have hend := hsection.le_length
  rw [SectionDraft.length_toBytes, SectionDraft.size, SectionDraft.headerSize] at hend
  have hoffset : (UInt32.ofNat start).toNat = start := UInt32.toNat_ofNat_of_lt' (by omega)
  refine ⟨{ data := d.toBytes, offset := UInt32.ofNat start }, ?_, hoffset, ?_⟩
  · rw [Module.result_sectionAt_eq_ok_iff (by rw [hdata]; exact d.addressable_toBytes hsize)]
    refine ⟨?_, hdata.symm, ?_, ?_⟩
    · rw [hheader, UInt32.lt_iff_toNat_lt, hindex, d.toNat_sectionCount hsize]
      exact hi
    · rw [hoffset]
      omega
    · rw [hoffset, hdata, Module.entryPlace, hheader, hindex]
      exact hentry
  · apply SectionDraft.readBack_of_holds hsize
    rwa [hoffset]

/-- Loading the written form of a draft gives back what is in the draft. -/
theorem load_toBytes (d : Draft) (hsize : d.toBytes.length < 2 ^ 32) :
    ∃ m, Module.load d.toBytes = .ok m ∧ d.ReadBack m := by
  let m : Module :=
    { data := d.toBytes, header := d.header, parse?_data := d.parse?_toBytes hsize }
  have hcount : m.header.sectionCount.toNat = d.sections.length := d.toNat_sectionCount hsize
  refine ⟨m, m.load_eq_ok, ?_⟩
  exact
    { major := rfl
      minor := rfl
      byteCount := rfl
      hash := rfl
      sectionCount := hcount
      tableOffset := rfl
      length_sections := by rw [Module.length_sections, hcount]
      getElem_sections := by
        intro i draft hdraft
        obtain ⟨hi, -⟩ := List.getElem?_eq_some_iff.1 hdraft
        obtain ⟨s, hresult, hoffset, hread⟩ :=
          d.sectionAt_readBack hsize (m := m) rfl rfl hdraft
        refine ⟨_, s, Module.getElem?_sections (by rwa [hcount]), hresult, ?_, hread⟩
        exact hoffset
      noSection := by
        intro index hindex
        apply Module.result_sectionAt_of_le
        rw [UInt32.le_iff_toNat_le, hcount]
        exact hindex }

def threeSections : Draft where
  major := 1
  minor := 0
  byteCount := 216
  hash := Bytes.fill 64 0xAB
  reserved := Bytes.fill 4 0
  sections :=
    [{ name := [0x68, 0x73, 0x61, 0x5F, 0x63, 0x6F, 0x64, 0x65], payload := [1, 1, 1, 1] },
      { name := [], payload := [] },
      { name := [0x68, 0x73, 0x61, 0x5F, 0x6F, 0x70, 0x65, 0x72, 0x61, 0x6E, 0x64],
        payload := [2, 2] }]

theorem load_threeSections :
    threeSections.toBytes.length < 2 ^ 32 ∧
      ∃ m, Module.load threeSections.toBytes = .ok m ∧ threeSections.ReadBack m := by
  have hsize : threeSections.toBytes.length < 2 ^ 32 := by decide +kernel
  exact ⟨hsize, load_toBytes threeSections hsize⟩

end Draft

end HsaModule.Binary
