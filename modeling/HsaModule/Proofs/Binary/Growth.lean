import HsaModule.Proofs.Binary.Lookup
import HsaModule.Proofs.Bytes.Change

namespace HsaModule.Binary

structure Section.ReadsKept (s s' : Section) : Prop where
  offset : s'.offset = s.offset
  byteCount : Kept s.byteCount s'.byteCount
  headerByteCount : Kept s.headerByteCount s'.headerByteCount
  name : Kept s.name s'.name
  contents : Kept s.contents s'.contents

theorem Section.readsKept {s s' : Section} {suffix : Bytes} (hdata : s'.data = s.data ++ suffix)
    (hoffset : s'.offset = s.offset) : s.ReadsKept s' := by
  obtain ⟨data, offset⟩ := s
  obtain ⟨data', offset'⟩ := s'
  obtain rfl : data' = data ++ suffix := hdata
  obtain rfl : offset' = offset := hoffset
  refine ⟨rfl, Bytes.kept_word64 data suffix _, Bytes.kept_word32 data suffix _, ?_, ?_⟩
  · exact (Bytes.kept_word32 data suffix _).bind fun size => Bytes.kept_slice data suffix _ _
  · exact (Bytes.kept_word64 data suffix _).bind fun size => Bytes.kept_slice data suffix _ _

namespace Module

structure AnswersKept (m m' : Module) : Prop where
  header : m'.header = m.header
  lookup (index : UInt32) : Kept ((m.sectionAt index).result.map Section.offset)
    ((m'.sectionAt index).result.map Section.offset)
  reads (index : UInt32) (s : Section) : (m.sectionAt index).result = .ok s →
    ∃ s', (m'.sectionAt index).result = .ok s' ∧ s.ReadsKept s'

theorem parse?_append (m : Module) (suffix : Bytes) :
    Header.parse? (m.data ++ suffix) = some m.header := by
  have hsize := Header.size_le_length m.parse?_data
  rw [← Header.parse?_take, List.take_append_of_le_length hsize, Header.parse?_take,
    m.parse?_data]

variable {m m' : Module} {suffix : Bytes}

theorem kept_entry (hdata : m'.data = m.data ++ suffix) (hheader : m'.header = m.header)
    (index : UInt32) : Kept (m.entry index) (m'.entry index) := by
  have hplace := entryOffset?_congr hheader index
  cases hentry : m.entryOffset? index with
  | none =>
      left
      simp only [entry, hplace, hentry]
  | some place =>
      simp only [entry, hplace, hentry, hdata]
      exact Bytes.kept_word64 m.data suffix place

theorem kept_lookup (hdata : m'.data = m.data ++ suffix) (hheader : m'.header = m.header)
    (index : UInt32) : Kept ((m.sectionAt index).result.map Section.offset)
      ((m'.sectionAt index).result.map Section.offset) := by
  rw [map_offset_sectionAt, map_offset_sectionAt, hheader]
  split
  · exact (kept_entry hdata hheader index).bind fun offset => .inl rfl
  · exact .inl rfl

theorem answersKept (hdata : m'.data = m.data ++ suffix) (hheader : m'.header = m.header) :
    m.AnswersKept m' where
  header := hheader
  lookup index := kept_lookup hdata hheader index
  reads index s hs := by
    have hlookup := kept_lookup hdata hheader index
    rw [hs] at hlookup
    obtain ⟨s', hs', hoffset⟩ := except_map_eq_ok_iff.1 hlookup.eq_ok
    have hgrown : s'.data = s.data ++ suffix := by
      rw [data_of_sectionAt hs', hdata, data_of_sectionAt hs]
    exact ⟨s', hs', Section.readsKept hgrown hoffset⟩

/-- A module with more bytes at its end is a module too, and its answers are kept. -/
theorem load_append (m : Module) (suffix : Bytes) :
    ∃ m', load (m.data ++ suffix) = .ok m' ∧ m.AnswersKept m' := by
  let m' : Module :=
    { data := m.data ++ suffix, header := m.header, parse?_data := m.parse?_append suffix }
  have hdata : m'.data = m.data ++ suffix := rfl
  exact ⟨m', m'.load_eq_ok, answersKept hdata rfl⟩

end Module

end HsaModule.Binary
