import HsaModule.Binary.Module
import HsaModule.Proofs.Binary.Header

namespace HsaModule.Binary.Module

/-- Where the table has its entry for a section, whether or not the buffer reaches so far. -/
def entryPlace (m : Module) (index : UInt32) : Nat :=
  m.header.tableOffset.toNat + 8 * index.toNat

/-- The answers that the table allows for a section, if offsets from `limit` on are refused. -/
inductive Answers (m : Module) (limit : Nat) (index : UInt32) : Except Error Section → Prop
  | found (offset : UInt32) (hindex : index < m.header.sectionCount)
      (hentry : m.data.Holds (m.entryPlace index) (Bytes.ofNumber 8 offset.toNat))
      (hoffset : offset.toNat < limit) :
      Answers m limit index (.ok { data := m.data, offset })
  | noSection (hindex : m.header.sectionCount ≤ index) :
      Answers m limit index (.error (.contract (.sectionIndex index m.header.sectionCount)))
  | noEntry (offset size : UInt64) (hindex : index < m.header.sectionCount)
      (hentry : m.data.length < m.entryPlace index + 8) :
      Answers m limit index (.error (.truncated offset size))
  | tooFar (offset : UInt64) (hindex : index < m.header.sectionCount)
      (hentry : m.data.Holds (m.entryPlace index) (Bytes.ofNumber 8 offset.toNat))
      (hoffset : limit ≤ offset.toNat) :
      Answers m limit index (.error (.contract (.sectionOffset offset)))

theorem mul?_toUInt64_eight (index : UInt32) :
    ∃ delta, Word.mul? index.toUInt64 8 = some delta ∧ delta.toNat = 8 * index.toNat := by
  have hindex : index.toNat < 2 ^ 32 := index.toNat_lt
  have hsize : UInt64.size = 18446744073709551616 := rfl
  cases hdelta : Word.mul? index.toUInt64 8 with
  | none =>
      have hoverflow := Word.mul?_eq_none_iff.1 hdelta
      rw [UInt32.toNat_toUInt64, show (8 : UInt64).toNat = 8 from rfl] at hoverflow
      omega
  | some delta =>
      have hproduct := Word.mul?_eq_some_iff.1 hdelta
      rw [UInt32.toNat_toUInt64, show (8 : UInt64).toNat = 8 from rfl] at hproduct
      exact ⟨delta, rfl, by omega⟩

theorem entryOffset?_eq_some_iff {m : Module} {index : UInt32} {place : UInt64} :
    m.entryOffset? index = some place ↔ place.toNat = m.entryPlace index := by
  obtain ⟨delta, hdelta, hvalue⟩ := mul?_toUInt64_eight index
  rw [entryOffset?, hdelta, Option.bind_eq_bind, Option.bind_some, Word.add?_eq_some_iff,
    hvalue, entryPlace]
  exact eq_comm

theorem entryOffset?_eq_none_iff {m : Module} {index : UInt32} :
    m.entryOffset? index = none ↔ UInt64.size ≤ m.entryPlace index := by
  obtain ⟨delta, hdelta, hvalue⟩ := mul?_toUInt64_eight index
  rw [entryOffset?, hdelta, Option.bind_eq_bind, Option.bind_some, Word.add?_eq_none_iff,
    hvalue, entryPlace]

theorem entryOffset?_congr {m m' : Module} (h : m'.header = m.header) (index : UInt32) :
    m'.entryOffset? index = m.entryOffset? index := by
  rw [entryOffset?, h, entryOffset?]

theorem entry_eq_ok_iff {m : Module} {index : UInt32} {offset : UInt64}
    (hdata : m.data.Addressable) :
    m.entry index = .ok offset ↔
      m.data.Holds (m.entryPlace index) (Bytes.ofNumber 8 offset.toNat) := by
  cases hplace : m.entryOffset? index with
  | none =>
      simp only [entry, hplace, reduceCtorEq, false_iff]
      intro hholds
      have hoverflow := entryOffset?_eq_none_iff.1 hplace
      have hle := hholds.le_length
      have hlength := hdata.length_lt
      omega
  | some place =>
      simp only [entry, hplace]
      rw [Bytes.word64_eq_ok_iff hdata, entryOffset?_eq_some_iff.1 hplace]

/-- Without an entry the report starts where the entry should, or at the last word if that is no
place at all. -/
theorem entry_eq_error_iff {m : Module} {index : UInt32} {e : Error}
    (hdata : m.data.Addressable) :
    m.entry index = .error e ↔
      m.data.length < m.entryPlace index + 8 ∧
        m.data.CutShort (min (m.entryPlace index) (UInt64.size - 1)) 8 e := by
  have hlength := hdata.length_lt
  cases hplace : m.entryOffset? index with
  | none =>
      have hoverflow := entryOffset?_eq_none_iff.1 hplace
      have hlast : (UInt64.ofNat (UInt64.size - 1)).toNat = UInt64.size - 1 :=
        UInt64.toNat_ofNat_of_lt' (by decide)
      have hreport := @Bytes.cutShort_iff m.data (UInt64.ofNat (UInt64.size - 1)) 8 e
      have height : (8 : UInt64).toNat = 8 := rfl
      rw [hlast, height] at hreport
      simp only [entry, hplace, Except.error.injEq]
      rw [Nat.min_eq_right (by omega), hreport]
      constructor
      · rintro rfl
        exact ⟨by omega, rfl, by omega⟩
      · rintro ⟨-, rfl, -⟩
        rfl
  | some place =>
      have hvalue := entryOffset?_eq_some_iff.1 hplace
      have hword : place.toNat < UInt64.size := place.toNat_lt
      simp only [entry, hplace]
      rw [Bytes.word64_eq_error_iff_cutShort hdata, Nat.min_eq_left (by omega), ← hvalue,
        iff_and_self]
      exact fun h => h.1

theorem load_eq_ok_iff {data : Bytes} {m : Module} : load data = .ok m ↔ m.data = data := by
  constructor
  · intro h
    unfold load at h
    split at h
    · rw [← Except.ok.inj h]
    · cases h
  · rintro rfl
    exact load_eq_ok m

theorem result_sectionAt (m : Module) (index : UInt32) :
    (m.sectionAt index).result =
      if index < m.header.sectionCount then
        (m.entry index).bind fun offset =>
          if offset.toNat < UInt32.size - 1 then
            .ok { data := m.data, offset := offset.toUInt32 }
          else .error (.contract (.sectionOffset offset))
      else .error (.contract (.sectionIndex index m.header.sectionCount)) := by
  rw [sectionAt]
  split
  · rw [Logged.result_bind]
    congr 1
    funext offset
    split
    · rfl
    · rfl
  · rfl

theorem result_sectionAt_of_entry {m : Module} {index : UInt32} {offset : UInt64}
    (hindex : index < m.header.sectionCount) (hentry : m.entry index = .ok offset) :
    (m.sectionAt index).result =
      if offset.toNat < UInt32.size - 1 then .ok { data := m.data, offset := offset.toUInt32 }
      else .error (.contract (.sectionOffset offset)) := by
  rw [result_sectionAt, if_pos hindex, hentry]
  rfl

theorem map_offset_sectionAt (m : Module) (index : UInt32) :
    (m.sectionAt index).result.map Section.offset =
      if index < m.header.sectionCount then
        (m.entry index).bind fun offset =>
          if offset.toNat < UInt32.size - 1 then .ok offset.toUInt32
          else .error (.contract (.sectionOffset offset))
      else .error (.contract (.sectionIndex index m.header.sectionCount)) := by
  rw [result_sectionAt]
  split
  case isFalse => rfl
  case isTrue =>
      cases m.entry index with
      | error e => rfl
      | ok offset => exact apply_ite _ _ _ _

theorem data_of_sectionAt {m : Module} {index : UInt32} {s : Section}
    (h : (m.sectionAt index).result = .ok s) : s.data = m.data := by
  rw [result_sectionAt] at h
  split at h
  case isFalse => cases h
  case isTrue =>
      obtain ⟨offset, -, hs⟩ := except_bind_eq_ok_iff.1 h
      split at hs
      case isFalse => cases hs
      case isTrue => rw [← Except.ok.inj hs]

theorem toNat_toUInt32_of_lt {offset : UInt64} (h : offset.toNat < UInt32.size - 1) :
    offset.toUInt32.toNat = offset.toNat := by
  rw [UInt64.toNat_toUInt32]
  exact Nat.mod_eq_of_lt (Nat.lt_of_lt_of_le h (by decide))

theorem result_sectionAt_eq_ok_iff {m : Module} {index : UInt32} {s : Section}
    (hdata : m.data.Addressable) :
    (m.sectionAt index).result = .ok s ↔
      index < m.header.sectionCount ∧ s.data = m.data ∧ s.offset.toNat < UInt32.size - 1 ∧
        m.data.Holds (m.entryPlace index) (Bytes.ofNumber 8 s.offset.toNat) := by
  rw [result_sectionAt]
  constructor
  · intro h
    split at h
    case isFalse => cases h
    case isTrue hindex =>
        obtain ⟨offset, hentry, hs⟩ := except_bind_eq_ok_iff.1 h
        split at hs
        case isFalse => cases hs
        case isTrue hoffset =>
            obtain rfl := Except.ok.inj hs
            have hholds := (entry_eq_ok_iff hdata).1 hentry
            have hnarrow := toNat_toUInt32_of_lt hoffset
            rw [← hnarrow] at hoffset hholds
            exact ⟨hindex, rfl, hoffset, hholds⟩
  · rintro ⟨hindex, hs, hoffset, hholds⟩
    have hwide : s.offset.toUInt64.toNat = s.offset.toNat := UInt32.toNat_toUInt64 _
    rw [← hwide] at hoffset hholds
    rw [if_pos hindex, except_bind_eq_ok_iff]
    refine ⟨s.offset.toUInt64, (entry_eq_ok_iff hdata).2 hholds, ?_⟩
    rw [if_pos hoffset, ← hs, UInt32.toUInt32_toUInt64]

inductive Refuses (m : Module) (index : UInt32) : Error → Prop
  | noSection (hindex : m.header.sectionCount ≤ index) :
      Refuses m index (.contract (.sectionIndex index m.header.sectionCount))
  | noEntry {e : Error} (hindex : index < m.header.sectionCount)
      (hentry : m.data.length < m.entryPlace index + 8)
      (hreport : m.data.CutShort (min (m.entryPlace index) (UInt64.size - 1)) 8 e) :
      Refuses m index e
  | tooFar (offset : UInt64) (hindex : index < m.header.sectionCount)
      (hentry : m.data.Holds (m.entryPlace index) (Bytes.ofNumber 8 offset.toNat))
      (hoffset : UInt32.size - 1 ≤ offset.toNat) :
      Refuses m index (.contract (.sectionOffset offset))

theorem result_sectionAt_eq_error_iff {m : Module} {index : UInt32} {e : Error}
    (hdata : m.data.Addressable) :
    (m.sectionAt index).result = .error e ↔ m.Refuses index e := by
  rw [result_sectionAt]
  constructor
  · intro h
    split at h
    case isFalse hindex =>
        obtain rfl := Except.error.inj h
        exact .noSection (UInt32.not_lt.1 hindex)
    case isTrue hindex =>
        rcases except_bind_eq_error_iff.1 h with hentry | ⟨offset, hentry, hoffset⟩
        · obtain ⟨hplace, hreport⟩ := (entry_eq_error_iff hdata).1 hentry
          exact .noEntry hindex hplace hreport
        · split at hoffset
          case isTrue => cases hoffset
          case isFalse hfar =>
              obtain rfl := Except.error.inj hoffset
              exact .tooFar offset hindex ((entry_eq_ok_iff hdata).1 hentry) (Nat.not_lt.1 hfar)
  · intro h
    cases h with
    | noSection hindex => rw [if_neg (UInt32.not_lt.2 hindex)]
    | noEntry hindex hplace hreport =>
        rw [if_pos hindex, (entry_eq_error_iff hdata).2 ⟨hplace, hreport⟩]
        rfl
    | tooFar offset hindex hentry hoffset =>
        rw [if_pos hindex, (entry_eq_ok_iff hdata).2 hentry]
        exact if_neg (Nat.not_lt.2 hoffset)

theorem result_sectionAt_of_le {m : Module} {index : UInt32}
    (h : m.header.sectionCount ≤ index) :
    (m.sectionAt index).result =
      .error (.contract (.sectionIndex index m.header.sectionCount)) := by
  rw [result_sectionAt, if_neg (UInt32.not_lt.2 h)]

theorem length_sections (m : Module) : m.sections.length = m.header.sectionCount.toNat := by
  rw [sections, firstSections, List.length_map, List.length_range, Nat.min_self]

theorem getElem?_sections {m : Module} {i : Nat} (hi : i < m.header.sectionCount.toNat) :
    m.sections[i]? = some (m.sectionAt (UInt32.ofNat i)) := by
  rw [sections, firstSections, Nat.min_self, List.getElem?_map, List.getElem?_range hi,
    Option.map_some]

theorem answers_sectionAt (m : Module) (index : UInt32) (hdata : m.data.Addressable) :
    m.Answers (2 ^ 32 - 1) index (m.sectionAt index).result := by
  rw [result_sectionAt]
  split
  case isFalse hindex => exact .noSection (UInt32.not_lt.1 hindex)
  case isTrue hindex =>
      cases hentry : m.entry index with
      | error e =>
          obtain ⟨hplace, -, offset, size, rfl, -⟩ := (entry_eq_error_iff hdata).1 hentry
          exact .noEntry offset size hindex hplace
      | ok offset =>
          have hholds := (entry_eq_ok_iff hdata).1 hentry
          change m.Answers _ _ (if offset.toNat < UInt32.size - 1 then _ else _)
          split
          case isFalse hoffset => exact .tooFar offset hindex hholds (Nat.not_lt.1 hoffset)
          case isTrue hoffset =>
              have hnarrow := toNat_toUInt32_of_lt hoffset
              rw [← hnarrow] at hoffset hholds
              exact .found offset.toUInt32 hindex hholds hoffset

theorem Answers.weaken {m : Module} {index : UInt32} {r : Except Error Section}
    (h : m.Answers (2 ^ 32 - 1) index r)
    (hlargest : ¬ (index < m.header.sectionCount ∧
      m.data.Holds (m.entryPlace index) (Bytes.ofNumber 8 (2 ^ 32 - 1)))) :
    m.Answers (2 ^ 32) index r := by
  cases h with
  | found offset hindex hentry hoffset =>
      exact .found offset hindex hentry (Nat.lt_of_lt_of_le hoffset (by decide))
  | noSection hindex => exact .noSection hindex
  | noEntry offset size hindex hentry => exact .noEntry offset size hindex hentry
  | tooFar offset hindex hentry hoffset =>
      refine .tooFar offset hindex hentry ?_
      by_contra hlt
      have hvalue : offset.toNat = 2 ^ 32 - 1 := by omega
      rw [hvalue] at hentry
      exact hlargest ⟨hindex, hentry⟩

theorem Answers.entry_ne_largest {m : Module} {index : UInt32} {r : Except Error Section}
    (h : m.Answers (2 ^ 32 - 1) index r) (hfull : m.Answers (2 ^ 32) index r)
    (hindex : index < m.header.sectionCount) :
    ¬ m.data.Holds (m.entryPlace index) (Bytes.ofNumber 8 (2 ^ 32 - 1)) := by
  intro hlargest
  -- both relations allow the answer, so it is not one that only the larger limit gives
  cases h with
  | found offset _ hentry hoffset =>
      have hvalue := hentry.number_unique hlargest (by omega) (by omega)
      omega
  | noSection hcount => exact UInt32.not_lt.2 hcount hindex
  | noEntry _ _ _ hentry =>
      have hle := hlargest.le_length
      rw [Bytes.length_ofNumber] at hle
      omega
  | tooFar offset _ hentry _ =>
      cases hfull with
      | tooFar _ _ _ hoffset =>
          have hlt : offset.toNat < 2 ^ 64 := offset.toNat_lt
          have hvalue := hentry.number_unique hlargest hlt (by omega)
          omega

/-- A lookup answers as the table says, except that it refuses the largest 32-bit offset. -/
theorem sectionAt_answers_unless_largest (m : Module) (index : UInt32)
    (hdata : m.data.Addressable) :
    m.Answers (2 ^ 32 - 1) index (m.sectionAt index).result ∧
      (m.Answers (2 ^ 32) index (m.sectionAt index).result ↔
        ¬ (index < m.header.sectionCount ∧
          m.data.Holds (m.entryPlace index) (Bytes.ofNumber 8 (2 ^ 32 - 1)))) := by
  have hanswers := answers_sectionAt m index hdata
  refine ⟨hanswers, ?_, hanswers.weaken⟩
  rintro hfull ⟨hindex, hlargest⟩
  exact hanswers.entry_ne_largest hfull hindex hlargest

def largestEntry : Module :=
  let header : Header :=
    { major := 1, minor := 0, byteCount := 112, hash := Bytes.fill 64 0,
      sectionCount := 1, tableOffset := 104 }
  { header
    data := header.toBytes (Bytes.fill 4 0) ++ Bytes.ofNumber 8 (2 ^ 32 - 1)
    parse?_data := by decide +kernel }

theorem sectionAt_answers_largestEntry :
    largestEntry.data.Addressable ∧
      largestEntry.Answers (2 ^ 32 - 1) 0 (largestEntry.sectionAt 0).result ∧
      (largestEntry.Answers (2 ^ 32) 0 (largestEntry.sectionAt 0).result ↔
        ¬ (0 < largestEntry.header.sectionCount ∧
          largestEntry.data.Holds (largestEntry.entryPlace 0)
            (Bytes.ofNumber 8 (2 ^ 32 - 1)))) := by
  have hdata : largestEntry.data.Addressable := by decide +kernel
  exact ⟨hdata, sectionAt_answers_unless_largest largestEntry 0 hdata⟩

/-- The entry fits into 32 bits, and the section is refused all the same. -/
theorem largestEntry_refused :
    0 < largestEntry.header.sectionCount ∧
      largestEntry.data.Holds (largestEntry.entryPlace 0) (Bytes.ofNumber 8 (2 ^ 32 - 1)) ∧
      (largestEntry.sectionAt 0).result = .error (.contract (.sectionOffset 0xFFFFFFFF)) ∧
      ¬ largestEntry.Answers (2 ^ 32) 0 (largestEntry.sectionAt 0).result := by
  have hresult :
      (largestEntry.sectionAt 0).result = .error (.contract (.sectionOffset 0xFFFFFFFF)) := by
    rfl
  refine ⟨by decide +kernel, by decide +kernel, hresult, ?_⟩
  rw [hresult]
  intro h
  cases h with
  | tooFar _ _ _ hoffset => exact absurd hoffset (by decide +kernel)

end HsaModule.Binary.Module
