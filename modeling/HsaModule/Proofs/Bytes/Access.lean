import HsaModule.Proofs.Bytes.Part
import HsaModule.Proofs.Outcome

namespace HsaModule.Bytes

/-- Short enough for memory. -/
def Addressable (data : Bytes) : Prop := data.length < 2 ^ 63

instance (data : Bytes) : Decidable data.Addressable :=
  inferInstanceAs (Decidable (data.length < 2 ^ 63))

theorem Addressable.length_lt {data : Bytes} (hdata : data.Addressable) :
    data.length < UInt64.size := by
  have hsize : UInt64.size = 18446744073709551616 := rfl
  rw [Addressable] at hdata
  omega

theorem slice_of_range {data : Bytes} {offset size : UInt64}
    (hrange : offset.toNat + size.toNat < UInt64.size)
    (h : offset.toNat + size.toNat ≤ data.length) :
    data.slice offset size = .ok ((data.drop offset.toNat).take size.toNat) := by
  have hstop : Word.add? offset size = some (offset + size) := by
    rw [Word.add?, if_pos hrange]
  have hsum := Word.add?_eq_some_iff.1 hstop
  simp only [slice, hstop]
  rw [if_pos (by omega)]

theorem slice_of_le {data : Bytes} {offset size : UInt64} (hdata : data.Addressable)
    (h : offset.toNat + size.toNat ≤ data.length) :
    data.slice offset size = .ok ((data.drop offset.toNat).take size.toNat) :=
  slice_of_range (Nat.lt_of_le_of_lt h hdata.length_lt) h

theorem slice_of_lt {data : Bytes} {offset size : UInt64}
    (h : data.length < offset.toNat + size.toNat) :
    data.slice offset size = .error (.truncated offset size) := by
  cases hstop : Word.add? offset size with
  | none => simp only [slice, hstop]
  | some stop =>
      have hsum := Word.add?_eq_some_iff.1 hstop
      simp only [slice, hstop]
      rw [if_neg (by omega)]

theorem slice_take {data : Bytes} {offset size : UInt64} {n : Nat}
    (h : offset.toNat + size.toNat ≤ n) :
    slice (data.take n) offset size = data.slice offset size := by
  cases hstop : Word.add? offset size with
  | none => simp only [slice, hstop]
  | some stop =>
      have hsum := Word.add?_eq_some_iff.1 hstop
      have hfits : stop.toNat ≤ (data.take n).length ↔ stop.toNat ≤ data.length := by
        rw [List.length_take]
        omega
      have hpart : ((data.take n).drop offset.toNat).take size.toNat =
          (data.drop offset.toNat).take size.toNat := by
        rw [List.drop_take, List.take_take, Nat.min_eq_left (by omega)]
      simp only [slice, hstop, hfits, hpart]

theorem word32_take {data : Bytes} {offset : UInt64} {n : Nat} (h : offset.toNat + 4 ≤ n) :
    word32 (data.take n) offset = data.word32 offset := by
  rw [word32, slice_take h, word32]

theorem word64_take {data : Bytes} {offset : UInt64} {n : Nat} (h : offset.toNat + 8 ≤ n) :
    word64 (data.take n) offset = data.word64 offset := by
  rw [word64, slice_take h, word64]

theorem slice_eq_ok_iff_range {data part : Bytes} {offset size : UInt64} :
    data.slice offset size = .ok part ↔
      offset.toNat + size.toNat < UInt64.size ∧ part.length = size.toNat ∧
        data.Holds offset.toNat part := by
  constructor
  · intro h
    have hrange : offset.toNat + size.toNat < UInt64.size := by
      by_contra hwraps
      rw [slice, Word.add?_eq_none_iff.2 (Nat.not_lt.1 hwraps)] at h
      cases h
    by_cases hle : offset.toNat + size.toNat ≤ data.length
    · rw [slice_of_range hrange hle] at h
      obtain rfl := Except.ok.inj h
      exact ⟨hrange, length_take_drop hle, holds_take_drop hle⟩
    · rw [slice_of_lt (by omega)] at h
      cases h
  · rintro ⟨hrange, hpart, hholds⟩
    have hle := hholds.le_length
    rw [slice_of_range hrange (by omega), ← hpart, hholds.take_drop_eq]

theorem slice_eq_ok_iff {data part : Bytes} {offset size : UInt64} (hdata : data.Addressable) :
    data.slice offset size = .ok part ↔
      part.length = size.toNat ∧ data.Holds offset.toNat part := by
  rw [slice_eq_ok_iff_range, and_iff_right_iff_imp]
  rintro ⟨hpart, hholds⟩
  have hle := hholds.le_length
  have hlength := hdata.length_lt
  omega

theorem slice_eq_error_iff {data : Bytes} {offset size : UInt64} {e : Error}
    (hdata : data.Addressable) :
    data.slice offset size = .error e ↔
      e = .truncated offset size ∧ data.length < offset.toNat + size.toNat := by
  by_cases hle : offset.toNat + size.toNat ≤ data.length
  · rw [slice_of_le hdata hle]
    simp only [reduceCtorEq, false_iff]
    omega
  · rw [slice_of_lt (by omega), Except.error.injEq]
    constructor
    · rintro rfl
      exact ⟨rfl, by omega⟩
    · rintro ⟨rfl, -⟩
      rfl

/-- A number of fixed width, read as `ofNat` of the bytes of a slice, is the one that stands
there. -/
theorem map_slice_eq_ok_iff {α : Type} {data : Bytes} {offset : UInt64} (size : UInt64)
    {ofNat : Nat → α} {toNat : α → Nat} (hdata : data.Addressable)
    (hofNat : ∀ n < 256 ^ size.toNat, ∀ a, ofNat n = a ↔ n = toNat a)
    (htoNat : ∀ a, toNat a < 256 ^ size.toNat) (a : α) :
    (data.slice offset size).map (fun bytes => ofNat bytes.toNumber) = .ok a ↔
      data.Holds offset.toNat (ofNumber size.toNat (toNat a)) := by
  rw [except_map_eq_ok_iff]
  constructor
  · rintro ⟨part, hslice, hvalue⟩
    obtain ⟨hpart, hholds⟩ := (slice_eq_ok_iff hdata).1 hslice
    have hlt := part.toNumber_lt
    rw [hpart] at hlt
    obtain ⟨-, heq⟩ := (toNumber_eq_iff hpart).1 ((hofNat _ hlt a).1 hvalue)
    rwa [heq] at hholds
  · intro h
    refine ⟨_, (slice_eq_ok_iff hdata).2 ⟨length_ofNumber _ _, h⟩, ?_⟩
    rw [toNumber_ofNumber (htoNat a)]
    exact (hofNat _ (htoNat a) a).2 rfl

theorem block_eq_ok_iff {data : Bytes} {offset : UInt64} {n : Nat} {b : Block n}
    (hdata : data.Addressable) (hn : n < UInt64.size) :
    data.block offset n = .ok b ↔ data.Holds offset.toNat b.val := by
  change Except.bind _ _ = _ ↔ _
  rw [except_bind_eq_ok_iff]
  constructor
  · rintro ⟨bytes, hslice, hb⟩
    split at hb
    · rw [← Except.ok.inj hb]
      exact ((slice_eq_ok_iff hdata).1 hslice).2
    · cases hb
  · intro h
    have hlength : b.val.length = (UInt64.ofNat n).toNat := by
      rw [UInt64.toNat_ofNat_of_lt' hn, b.property]
    refine ⟨b.val, (slice_eq_ok_iff hdata).2 ⟨hlength, h⟩, ?_⟩
    rw [dif_pos b.property]

theorem exists_block {data part : Bytes} {offset : UInt64} {n : Nat} (hn : n < UInt64.size)
    (h : data.slice offset (UInt64.ofNat n) = .ok part) : ∃ b, data.block offset n = .ok b := by
  obtain ⟨-, hpart, -⟩ := slice_eq_ok_iff_range.1 h
  rw [UInt64.toNat_ofNat_of_lt' hn] at hpart
  refine ⟨⟨part, hpart⟩, ?_⟩
  rw [block, h]
  exact dif_pos hpart

theorem word32_eq_ok_iff {data : Bytes} {offset : UInt64} {w : UInt32} (hdata : data.Addressable) :
    data.word32 offset = .ok w ↔ data.Holds offset.toNat (ofNumber 4 w.toNat) := by
  refine map_slice_eq_ok_iff 4 hdata ?_ UInt32.toNat_lt w
  intro n hn a
  rw [← UInt32.toNat_inj, UInt32.toNat_ofNat_of_lt' hn]

theorem word64_eq_ok_iff {data : Bytes} {offset w : UInt64} (hdata : data.Addressable) :
    data.word64 offset = .ok w ↔ data.Holds offset.toNat (ofNumber 8 w.toNat) := by
  refine map_slice_eq_ok_iff 8 hdata ?_ UInt64.toNat_lt w
  intro n hn a
  rw [← UInt64.toNat_inj, UInt64.toNat_ofNat_of_lt' hn]

theorem word64_eq_error_iff {data : Bytes} {offset : UInt64} {e : Error}
    (hdata : data.Addressable) :
    data.word64 offset = .error e ↔
      e = .truncated offset 8 ∧ data.length < offset.toNat + 8 := by
  rw [word64, except_map_eq_error_iff, slice_eq_error_iff hdata]
  rfl

theorem map_slice_of_slice {α : Type} {data part : Bytes} {offset size : UInt64}
    {ofNat : Nat → α} {toNat : α → Nat} (h : data.slice offset size = .ok part)
    (hofNat : ∀ n < 256 ^ size.toNat, toNat (ofNat n) = n) :
    ∃ a, (data.slice offset size).map (fun bytes => ofNat bytes.toNumber) = .ok a ∧
      toNat a = part.toNumber := by
  obtain ⟨-, hpart, -⟩ := slice_eq_ok_iff_range.1 h
  have hlt := part.toNumber_lt
  rw [hpart] at hlt
  refine ⟨ofNat part.toNumber, ?_, hofNat _ hlt⟩
  rw [h]
  rfl

theorem word32_of_slice {data part : Bytes} {offset : UInt64}
    (h : data.slice offset 4 = .ok part) :
    ∃ w, data.word32 offset = .ok w ∧ w.toNat = part.toNumber :=
  map_slice_of_slice h fun _ hn => UInt32.toNat_ofNat_of_lt' hn

theorem word64_of_slice {data part : Bytes} {offset : UInt64}
    (h : data.slice offset 8 = .ok part) :
    ∃ w, data.word64 offset = .ok w ∧ w.toNat = part.toNumber :=
  map_slice_of_slice h fun _ hn => UInt64.toNat_ofNat_of_lt' hn

/-- `e` reports the bytes from `start` on, and the buffer ends before they do. -/
def CutShort (data : Bytes) (start size : Nat) (e : Error) : Prop :=
  data.length < start + size ∧
    ∃ offset count, e = .truncated offset count ∧ offset.toNat = start ∧ count.toNat = size

theorem cutShort_iff {data : Bytes} {offset size : UInt64} {e : Error} :
    data.CutShort offset.toNat size.toNat e ↔
      e = .truncated offset size ∧ data.length < offset.toNat + size.toNat := by
  constructor
  · rintro ⟨hlt, offset', size', rfl, hoffset, hsize⟩
    rw [UInt64.toNat_inj] at hoffset hsize
    exact ⟨by rw [hoffset, hsize], hlt⟩
  · rintro ⟨rfl, hlt⟩
    exact ⟨hlt, offset, size, rfl, rfl, rfl⟩

theorem slice_eq_error_iff_cutShort {data : Bytes} {offset size : UInt64} {e : Error}
    (hdata : data.Addressable) :
    data.slice offset size = .error e ↔ data.CutShort offset.toNat size.toNat e :=
  (slice_eq_error_iff hdata).trans cutShort_iff.symm

theorem word32_eq_error_iff_cutShort {data : Bytes} {offset : UInt64} {e : Error}
    (hdata : data.Addressable) : data.word32 offset = .error e ↔ data.CutShort offset.toNat 4 e :=
  except_map_eq_error_iff.trans (slice_eq_error_iff_cutShort hdata)

theorem word64_eq_error_iff_cutShort {data : Bytes} {offset : UInt64} {e : Error}
    (hdata : data.Addressable) : data.word64 offset = .error e ↔ data.CutShort offset.toNat 8 e :=
  except_map_eq_error_iff.trans (slice_eq_error_iff_cutShort hdata)

end HsaModule.Bytes
