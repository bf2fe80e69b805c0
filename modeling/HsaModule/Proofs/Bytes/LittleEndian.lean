import HsaModule.Proofs.Bytes.Access

namespace HsaModule.Bytes

theorem slice_eq_ok_iff_take {data part : Bytes} {offset size : UInt64} (hdata : data.Addressable) :
    data.slice offset size = .ok part ↔
      offset.toNat + size.toNat ≤ data.length ∧
        part = (data.drop offset.toNat).take size.toNat := by
  by_cases hle : offset.toNat + size.toNat ≤ data.length
  · rw [slice_of_le hdata hle, Except.ok.injEq, and_iff_right hle]
    exact eq_comm
  · rw [slice_of_lt (Nat.lt_of_not_le hle)]
    exact iff_of_false nofun fun h => hle h.1

theorem holds_of_eq_append {data before part after : Bytes} (hdata : data.Addressable)
    (h : data = before ++ part ++ after) :
    data.Holds (UInt64.ofNat before.length).toNat part := by
  have hlt : before.length < UInt64.size := by
    have hlength := hdata.length_lt
    rw [h, List.length_append, List.length_append] at hlength
    omega
  rw [UInt64.toNat_ofNat_of_lt' hlt]
  exact ⟨before, after, h, rfl⟩

theorem word64_eq_ok_iff_halves {data : Bytes} {offset w : UInt64} (hdata : data.Addressable) :
    data.word64 offset = .ok w ↔
      ∃ low high : UInt32, data.word32 offset = .ok low ∧ data.word32 (offset + 4) = .ok high ∧
        w.toNat = low.toNat + 2 ^ 32 * high.toNat := by
  -- where the low half can be read, the place of the high half is still a word
  have hplace {low : UInt32} (hlow : data.Holds offset.toNat (ofNumber 4 low.toNat)) :
      (offset + 4).toNat = offset.toNat + 4 := by
    have hle := hlow.le_length
    have hlength := hdata.length_lt
    rw [length_ofNumber] at hle
    rw [UInt64.toNat_add]
    exact Nat.mod_eq_of_lt (Nat.lt_of_le_of_lt hle hlength)
  rw [word64_eq_ok_iff hdata, holds_word64_iff]
  apply exists_congr
  intro low
  apply exists_congr
  intro high
  rw [word32_eq_ok_iff hdata, word32_eq_ok_iff hdata]
  apply and_congr_right
  intro hlow
  rw [hplace hlow]
  rfl

theorem exists_word64_iff {data : Bytes} {offset : UInt64} (hdata : data.Addressable) :
    (∃ w, data.word64 offset = .ok w) ↔
      (∃ low, data.word32 offset = .ok low) ∧ ∃ high, data.word32 (offset + 4) = .ok high := by
  constructor
  · rintro ⟨w, hw⟩
    obtain ⟨low, high, hlow, hhigh, -⟩ := (word64_eq_ok_iff_halves hdata).1 hw
    exact ⟨⟨low, hlow⟩, high, hhigh⟩
  · rintro ⟨⟨low, hlow⟩, high, hhigh⟩
    have hlt : low.toNat + 2 ^ 32 * high.toNat < 2 ^ 64 := by
      have hlowlt := low.toNat_lt
      have hhighlt := high.toNat_lt
      omega
    refine ⟨UInt64.ofNat (low.toNat + 2 ^ 32 * high.toNat), ?_⟩
    exact (word64_eq_ok_iff_halves hdata).2
      ⟨low, high, hlow, hhigh, UInt64.toNat_ofNat_of_lt' hlt⟩

/-- What is read from a buffer, for all offsets and sizes that are words: the bytes of the range
that was asked for, if the buffer holds them all, and otherwise a truncation that repeats the
request. -/
structure ReadInPlace (data : Bytes) : Prop where
  slice_ok_iff (offset size : UInt64) (part : Bytes) : data.slice offset size = .ok part ↔
    offset.toNat + size.toNat ≤ data.length ∧ part = (data.drop offset.toNat).take size.toNat
  slice_error_iff (offset size : UInt64) (e : Error) : data.slice offset size = .error e ↔
    e = .truncated offset size ∧ data.length < offset.toNat + size.toNat
  word32_written (before after : Bytes) (w : UInt32) :
    data = before ++ ofNumber 4 w.toNat ++ after →
      data.word32 (UInt64.ofNat before.length) = .ok w
  word64_written (before after : Bytes) (w : UInt64) :
    data = before ++ ofNumber 8 w.toNat ++ after →
      data.word64 (UInt64.ofNat before.length) = .ok w
  word64_halves_iff (offset : UInt64) : (∃ w, data.word64 offset = .ok w) ↔
    (∃ low, data.word32 offset = .ok low) ∧ ∃ high, data.word32 (offset + 4) = .ok high
  word64_value {offset w : UInt64} : data.word64 offset = .ok w →
    ∃ low high : UInt32, data.word32 offset = .ok low ∧ data.word32 (offset + 4) = .ok high ∧
      w.toNat = low.toNat + 2 ^ 32 * high.toNat

theorem readInPlace (data : Bytes) (hdata : data.Addressable) : data.ReadInPlace where
  slice_ok_iff _ _ _ := slice_eq_ok_iff_take hdata
  slice_error_iff _ _ _ := slice_eq_error_iff hdata
  word32_written _ _ _ h := (word32_eq_ok_iff hdata).2 (holds_of_eq_append hdata h)
  word64_written _ _ _ h := (word64_eq_ok_iff hdata).2 (holds_of_eq_append hdata h)
  word64_halves_iff _ := exists_word64_iff hdata
  word64_value h := (word64_eq_ok_iff_halves hdata).1 h

theorem readInPlace_twelveBytes :
    let data : Bytes := [0x78, 0x56, 0x34, 0x12, 1, 0, 0, 0, 0, 0, 0, 0x80]
    data.Addressable ∧ data.slice 12 0 = .ok [] ∧ data.slice 13 0 = .error (.truncated 13 0) ∧
      data.slice 0xfffffffffffffffe 4 = .error (.truncated 0xfffffffffffffffe 4) ∧
      data.word32 0 = .ok 0x12345678 ∧ data.word64 4 = .ok 0x8000000000000001 ∧
      ¬ ∃ w, data.word64 5 = .ok w := by
  intro data
  have hdata : data.Addressable := by decide
  have hread := readInPlace data hdata
  refine ⟨hdata, ?_, ?_, ?_, ?_, ?_, ?_⟩
  · exact (hread.slice_ok_iff 12 0 []).2 (by decide)
  · exact (hread.slice_error_iff 13 0 _).2 (by decide)
  · exact (hread.slice_error_iff 0xfffffffffffffffe 4 _).2 (by decide)
  · exact hread.word32_written [] (data.drop 4) 0x12345678 rfl
  · exact hread.word64_written (data.take 4) [] 0x8000000000000001 rfl
  · rw [hread.word64_halves_iff]
    rintro ⟨-, high, hhigh⟩
    cases hhigh

end HsaModule.Bytes
