import HsaModule.Proofs.Binary.Lookup
import HsaModule.Proofs.Bytes.Change

namespace HsaModule.Binary.Module

theorem entryPlace_apart (m : Module) {i j : UInt32} (h : i ≠ j) :
    m.entryPlace i + 8 ≤ m.entryPlace j ∨ m.entryPlace j + 8 ≤ m.entryPlace i := by
  have hne : i.toNat ≠ j.toNat := mt UInt32.toNat_inj.1 h
  rw [entryPlace, entryPlace]
  omega

def withEntry (m : Module) (j : UInt32) (v : UInt64) : Bytes :=
  m.data.overwrite (m.entryPlace j) (Bytes.ofNumber 8 v.toNat)

/-- `m'` answers as `m` does, except that the entry of section `j` is `v`. -/
structure EntryReplaced (m m' : Module) (j : UInt32) (v : UInt64) : Prop where
  header : m'.header = m.header
  others (i : UInt32) : i ≠ j →
    (m'.sectionAt i).result.map Section.offset = (m.sectionAt i).result.map Section.offset
  tooFar : 2 ^ 32 ≤ v.toNat →
    (m'.sectionAt j).result = .error (.contract (.sectionOffset v))
  found : v.toNat < 2 ^ 32 - 1 →
    ∃ s, (m'.sectionAt j).result = .ok s ∧ s.offset.toNat = v.toNat

section

variable {m m' : Module} {j : UInt32} {v : UInt64}

theorem parse?_withEntry (htable : Header.size ≤ m.header.tableOffset.toNat)
    (hplace : m.entryPlace j + 8 ≤ m.data.length) :
    Header.parse? (m.withEntry j v) = some m.header := by
  have hafter : Header.size ≤ m.entryPlace j := Nat.le_add_right_of_le htable
  have htake : (m.withEntry j v).take Header.size = m.data.take Header.size := by
    rw [← Nat.min_eq_left hafter, ← List.take_take, ← List.take_take, withEntry,
      Bytes.take_overwrite (Nat.le_of_add_right_le hplace)]
  rw [← Header.parse?_take, htake, Header.parse?_take, m.parse?_data]

theorem entry_withEntry_of_ne (hdata : m'.data = m.withEntry j v) (hheader : m'.header = m.header)
    (hplace : m.entryPlace j + 8 ≤ m.data.length) {i : UInt32} (hij : i ≠ j) :
    m'.entry i = m.entry i := by
  have hsame := entryOffset?_congr hheader i
  cases hentry : m.entryOffset? i with
  -- the entry has no place among the addresses, before and after
  | none => simp only [entry, hsame, hentry]
  | some place =>
      have hvalue := entryOffset?_eq_some_iff.1 hentry
      have hapart := m.entryPlace_apart hij
      rw [← hvalue] at hapart
      simp only [entry, hsame, hentry, hdata]
      apply Bytes.word64_overwrite
      · rwa [Bytes.length_ofNumber]
      · rwa [Bytes.length_ofNumber]

theorem entry_withEntry_self (hdata : m'.data = m.withEntry j v)
    (hheader : m'.header = m.header) (hfits : m.data.Addressable)
    (hplace : m.entryPlace j + 8 ≤ m.data.length) : m'.entry j = .ok v := by
  have hfits' : m'.data.Addressable := by
    rw [Bytes.Addressable, hdata, withEntry, Bytes.length_overwrite]
    · exact hfits
    · rwa [Bytes.length_ofNumber]
  have hsame : m'.entryPlace j = m.entryPlace j := by
    rw [entryPlace, hheader, entryPlace]
  rw [entry_eq_ok_iff hfits', hsame, hdata]
  exact Bytes.holds_overwrite (Nat.le_of_add_right_le hplace)

theorem entryReplaced (hdata : m'.data = m.withEntry j v) (hheader : m'.header = m.header)
    (hfits : m.data.Addressable) (hindex : j < m.header.sectionCount)
    (hplace : m.entryPlace j + 8 ≤ m.data.length) : m.EntryReplaced m' j v := by
  have hentry := entry_withEntry_self hdata hheader hfits hplace
  rw [← hheader] at hindex
  have hresult := result_sectionAt_of_entry hindex hentry
  refine ⟨hheader, ?_, ?_, ?_⟩
  · intro i hij
    rw [map_offset_sectionAt, map_offset_sectionAt, hheader,
      entry_withEntry_of_ne hdata hheader hplace hij]
  · intro hv
    have hsize : UInt32.size = 2 ^ 32 := rfl
    rw [hresult, if_neg (by omega)]
  · intro hv
    exact ⟨_, hresult.trans (if_pos hv), toNat_toUInt32_of_lt hv⟩

end

structure SectionsListed (m : Module) : Prop where
  length : m.sections.length = m.header.sectionCount.toNat
  getElem? (i : Nat) : i < m.header.sectionCount.toNat →
    m.sections[i]? = some (m.sectionAt (UInt32.ofNat i))

theorem sectionsListed (m : Module) : m.SectionsListed where
  length := m.length_sections
  getElem? _ hi := getElem?_sections hi

/-- Sections are listed one by one, and a number that is written into one entry of a table behind
the header changes the lookup of that section only. -/
theorem entries_independent (m : Module) :
    m.SectionsListed ∧ ∀ (j : UInt32) (v : UInt64), m.data.Addressable →
      Header.size ≤ m.header.tableOffset.toNat → j < m.header.sectionCount →
        m.entryPlace j + 8 ≤ m.data.length →
          ∃ m', load (m.withEntry j v) = .ok m' ∧ m.EntryReplaced m' j v := by
  refine ⟨m.sectionsListed, ?_⟩
  intro j v hfits htable hindex hplace
  let m' : Module :=
    { data := m.withEntry j v, header := m.header, parse?_data := parse?_withEntry htable hplace }
  have hdata : m'.data = m.withEntry j v := rfl
  exact ⟨m', m'.load_eq_ok, entryReplaced hdata rfl hfits hindex hplace⟩

def cutTable : Module :=
  let header : Header :=
    { major := 1, minor := 0, byteCount := 120, hash := Bytes.fill 64 0,
      sectionCount := 3, tableOffset := 104 }
  { header
    data := header.toBytes (Bytes.fill 4 0) ++ Bytes.ofNumber 8 104 ++ Bytes.ofNumber 8 112
    parse?_data := by decide +kernel }

theorem entries_independent_cutTable :
    cutTable.data.Addressable ∧ Header.size ≤ cutTable.header.tableOffset.toNat ∧
      1 < cutTable.header.sectionCount ∧ cutTable.entryPlace 1 + 8 ≤ cutTable.data.length ∧
      cutTable.SectionsListed ∧
      ∃ m', load (cutTable.withEntry 1 0) = .ok m' ∧ cutTable.EntryReplaced m' 1 0 := by
  have hfits : cutTable.data.Addressable := by decide +kernel
  have htable : Header.size ≤ cutTable.header.tableOffset.toNat := by decide +kernel
  have hindex : 1 < cutTable.header.sectionCount := by decide +kernel
  have hplace : cutTable.entryPlace 1 + 8 ≤ cutTable.data.length := by decide +kernel
  obtain ⟨hlisted, hreplaced⟩ := entries_independent cutTable
  exact ⟨hfits, htable, hindex, hplace, hlisted, hreplaced 1 0 hfits htable hindex hplace⟩

end HsaModule.Binary.Module
