import HsaModule.Item.Constant
import HsaModule.Proofs.Bytes.Part
import HsaModule.Proofs.Outcome

namespace HsaModule

theorem or_shiftLeft_of_lt {low high k : Nat} (hlow : low < 2 ^ k) :
    low ||| high <<< k = low + 2 ^ k * high := by
  calc
    low ||| high <<< k = high <<< k ||| low := Nat.or_comm _ _
    _ = high <<< k + low := (Nat.shiftLeft_add_eq_or_of_lt hlow high).symm
    _ = low + 2 ^ k * high := by rw [Nat.shiftLeft_eq, Nat.mul_comm, Nat.add_comm]

namespace ByteConstant

variable {k : ByteConstant} {index : UInt64}

theorem wordBytes?_eq_bind (hindex : 4 * index.toNat + 4 < UInt64.size) :
    ∃ start stop : UInt64, start.toNat = 4 * index.toNat ∧ stop.toNat = 4 * index.toNat + 4 ∧
      k.wordBytes? index = (k.bytes.range? start stop).bind (Bytes.first? 4) := by
  have hfour : (4 : UInt64).toNat = 4 := rfl
  have hstart : Word.mul? index 4 = some (index * 4) := if_pos (by rw [hfour]; omega)
  have hproduct := Word.mul?_eq_some_iff.1 hstart
  rw [hfour] at hproduct
  have hstop : Word.add? (index * 4) 4 = some (index * 4 + 4) := if_pos (by omega)
  have hsum := Word.add?_eq_some_iff.1 hstop
  refine ⟨index * 4, index * 4 + 4, by omega, by omega, ?_⟩
  rw [wordBytes?, hstart, Option.bind_eq_bind, Option.bind_some, hstop]
  rfl

theorem wordBytes?_of_le (hindex : 4 * index.toNat + 4 < UInt64.size)
    (hle : 4 * index.toNat + 4 ≤ k.bytes.length) :
    k.wordBytes? index = some ((k.bytes.drop (4 * index.toNat)).take 4) := by
  obtain ⟨start, stop, hstart, hstop, hbytes⟩ := wordBytes?_eq_bind (k := k) hindex
  have hrange : start ≤ stop ∧ stop.toNat ≤ k.bytes.length := by
    rw [UInt64.le_iff_toNat_le]
    omega
  have hwidth : stop.toNat - start.toNat = 4 := by omega
  have hlength := Bytes.length_take_drop hle
  rw [hbytes, Bytes.range?, if_pos hrange, Option.bind_some, hwidth, hstart, Bytes.first?,
    if_pos (Nat.le_of_eq hlength.symm), List.take_take, Nat.min_self]

theorem wordBytes?_of_lt (h : k.bytes.length < 4 * index.toNat + 4) :
    k.wordBytes? index = none := by
  by_cases hindex : 4 * index.toNat + 4 < UInt64.size
  · obtain ⟨start, stop, -, hstop, hbytes⟩ := wordBytes?_eq_bind (k := k) hindex
    rw [hbytes, Bytes.range?, if_neg (by omega)]
    rfl
  · have hfour : (4 : UInt64).toNat = 4 := rfl
    -- one of the two steps leaves the range
    cases hstart : Word.mul? index 4 with
    | none =>
        rw [wordBytes?, hstart]
        rfl
    | some start =>
        have hproduct := Word.mul?_eq_some_iff.1 hstart
        rw [hfour] at hproduct
        have hstop : Word.add? start 4 = none := Word.add?_eq_none_iff.2 (by omega)
        rw [wordBytes?, hstart, Option.bind_eq_bind, Option.bind_some, hstop]
        rfl

theorem word_eq_error_iff (hindex : 4 * index.toNat + 4 < UInt64.size) {v : ContractViolation} :
    k.word index = .error v ↔
      k.bytes.length < 4 * index.toNat + 4 ∧ v = .constantIndex index k.bytes.length := by
  rw [word]
  by_cases hle : 4 * index.toNat + 4 ≤ k.bytes.length
  · rw [wordBytes?_of_le hindex hle]
    exact iff_of_false nofun fun h => Nat.not_lt.2 hle h.1
  · have hlt := Nat.lt_of_not_le hle
    rw [wordBytes?_of_lt hlt, Except.error.injEq, and_iff_right hlt]
    exact eq_comm

theorem word_eq_ok_iff (hindex : 4 * index.toNat + 4 < UInt64.size) {w : UInt32} :
    k.word index = .ok w ↔
      k.bytes.Holds (4 * index.toNat) (Bytes.ofNumber 4 w.toNat) := by
  rw [word, Bytes.holds_ofNumber_iff w.toNat_lt]
  by_cases hle : 4 * index.toNat + 4 ≤ k.bytes.length
  · have hlt := Bytes.toNumber_lt ((k.bytes.drop (4 * index.toNat)).take 4)
    rw [Bytes.length_take_drop hle] at hlt
    rw [wordBytes?_of_le hindex hle, and_iff_right hle, Except.ok.injEq, ← UInt32.toNat_inj,
      UInt32.toNat_ofNat_of_lt' hlt]
  · rw [wordBytes?_of_lt (Nat.lt_of_not_le hle)]
    exact iff_of_false nofun fun h => hle h.1

theorem toNat_joinWords (low high : UInt32) :
    (low.toUInt64 ||| high.toUInt64 <<< 32).toNat = low.toNat + 256 ^ 4 * high.toNat := by
  have hlow := low.toNat_lt
  have hhigh := high.toNat_lt
  have hshift : (high.toUInt64 <<< 32).toNat = high.toNat <<< 32 := by
    rw [UInt64.toNat_shiftLeft, UInt32.toNat_toUInt64, Nat.shiftLeft_eq, Nat.shiftLeft_eq]
    change high.toNat * 2 ^ 32 % 2 ^ 64 = high.toNat * 2 ^ 32
    exact Nat.mod_eq_of_lt (by omega)
  rw [UInt64.toNat_or, hshift, UInt32.toNat_toUInt64]
  exact or_shiftLeft_of_lt hlow

theorem word64_eq_ok_iff {w : UInt64} :
    k.word64 = .ok w ↔ k.bytes.Holds 0 (Bytes.ofNumber 8 w.toNat) := by
  rw [Bytes.holds_word64_iff]
  change Except.bind _ _ = _ ↔ _
  rw [except_bind_eq_ok_iff]
  constructor
  · rintro ⟨low, hlow, hrest⟩
    obtain ⟨high, hhigh, hw⟩ := except_bind_eq_ok_iff.1 hrest
    obtain rfl := Except.ok.inj hw
    exact ⟨low, high, (word_eq_ok_iff (by decide)).1 hlow, (word_eq_ok_iff (by decide)).1 hhigh,
      toNat_joinWords low high⟩
  · rintro ⟨low, high, hlow, hhigh, hw⟩
    refine ⟨low, (word_eq_ok_iff (by decide)).2 hlow, ?_⟩
    refine except_bind_eq_ok_iff.2 ⟨high, (word_eq_ok_iff (by decide)).2 hhigh, ?_⟩
    apply congrArg Except.ok
    rw [← UInt64.toNat_inj, toNat_joinWords, hw]

theorem word64_eq_error_iff {v : ContractViolation} :
    k.word64 = .error v ↔
      k.bytes.length < 8 ∧
        v = .constantIndex (UInt64.ofNat (k.bytes.length / 4)) k.bytes.length := by
  rw [word64]
  cases hlow : k.word 0 with
  | error v' =>
      obtain ⟨hlt, rfl⟩ := (word_eq_error_iff (by decide)).1 hlow
      change k.bytes.length < 4 at hlt
      have hindex : k.bytes.length / 4 = 0 := by omega
      change Except.error _ = Except.error v ↔ _
      rw [Except.error.injEq, hindex, and_iff_right (by omega)]
      exact eq_comm
  | ok low =>
      have hle := ((word_eq_ok_iff (by decide)).1 hlow).le_length
      change 4 ≤ k.bytes.length at hle
      cases hhigh : k.word 1 with
      | error v' =>
          obtain ⟨hlt, rfl⟩ := (word_eq_error_iff (by decide)).1 hhigh
          change k.bytes.length < 8 at hlt
          have hindex : k.bytes.length / 4 = 1 := by omega
          change Except.error _ = Except.error v ↔ _
          rw [Except.error.injEq, hindex, and_iff_right hlt]
          exact eq_comm
      | ok high =>
          have hle' := ((word_eq_ok_iff (by decide)).1 hhigh).le_length
          change 8 ≤ k.bytes.length at hle'
          change Except.ok _ = Except.error v ↔ _
          simp only [reduceCtorEq, false_iff, not_and]
          omega

end ByteConstant

end HsaModule
