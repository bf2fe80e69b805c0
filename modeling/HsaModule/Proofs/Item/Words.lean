import HsaModule.Proofs.Bytes.Access
import HsaModule.Proofs.Item.Constant

namespace HsaModule.ByteConstant

variable {k : ByteConstant} {index : UInt64}

def wordAt (bytes : Bytes) (i : Nat) : UInt32 :=
  UInt32.ofNat (Bytes.toNumber ((bytes.drop (4 * i)).take 4))

theorem ofNumber_wordAt {bytes : Bytes} {i : Nat} (hle : 4 * i + 4 ≤ bytes.length) :
    Bytes.ofNumber 4 (wordAt bytes i).toNat = (bytes.drop (4 * i)).take 4 := by
  have hlength := Bytes.length_take_drop hle
  have hlt := Bytes.toNumber_lt ((bytes.drop (4 * i)).take 4)
  have hback := Bytes.ofNumber_toNumber ((bytes.drop (4 * i)).take 4)
  rw [hlength] at hlt hback
  rw [wordAt, UInt32.toNat_ofNat_of_lt' hlt, hback]

theorem flatMap_wordAt {bytes : Bytes} {n : Nat} (hn : 4 * n ≤ bytes.length) :
    (List.range n).flatMap (fun i => Bytes.ofNumber 4 (wordAt bytes i).toNat) =
      bytes.take (4 * n) := by
  induction n with
  | zero => rfl
  | succ n ih =>
      rw [List.range_succ, List.flatMap_append, ih (by omega), List.flatMap_singleton,
        ofNumber_wordAt hn, Nat.mul_succ, List.take_add]

theorem word_of_le (hindex : 4 * index.toNat + 4 < UInt64.size)
    (hle : 4 * index.toNat + 4 ≤ k.bytes.length) :
    k.word index = .ok (wordAt k.bytes index.toNat) := by
  rw [word, wordBytes?_of_le hindex hle, wordAt]

theorem lt_size_of_le (hk : k.bytes.Addressable)
    (hle : 4 * index.toNat + 4 ≤ k.bytes.length) : 4 * index.toNat + 4 < UInt64.size :=
  Nat.lt_of_le_of_lt hle hk.length_lt

theorem map_word_range (hk : k.bytes.Addressable) :
    (List.range (k.bytes.length / 4)).map (fun i => k.word (UInt64.ofNat i)) =
      ((List.range (k.bytes.length / 4)).map (wordAt k.bytes)).map .ok := by
  rw [List.map_map]
  apply List.map_congr_left
  intro i hi
  have hlt := List.mem_range.1 hi
  have hlength := hk.length_lt
  have hindex : (UInt64.ofNat i).toNat = i := UInt64.toNat_ofNat_of_lt' (by omega)
  rw [word_of_le (by omega) (by omega), hindex, Function.comp_apply]

theorem exists_word_iff (hk : k.bytes.Addressable) :
    (∃ w, k.word index = .ok w) ↔ 4 * index.toNat + 4 ≤ k.bytes.length := by
  constructor
  · rintro ⟨w, hw⟩
    by_contra hlt
    rw [word, wordBytes?_of_lt (Nat.lt_of_not_le hlt)] at hw
    cases hw
  · intro hle
    exact ⟨_, word_of_le (lt_size_of_le hk hle) hle⟩

theorem toNat_four_mul (hindex : 4 * index.toNat + 4 < UInt64.size) :
    (4 * index).toNat = 4 * index.toNat := by
  rw [UInt64.toNat_mul]
  change 4 * index.toNat % UInt64.size = 4 * index.toNat
  exact Nat.mod_eq_of_lt (by omega)

theorem eq_constantIndex_of_word {v : ContractViolation} (h : k.word index = .error v) :
    v = .constantIndex index k.bytes.length := by
  rw [word] at h
  split at h
  · cases h
  · exact (Except.error.inj h).symm

theorem word64_eq_word64 (hk : k.bytes.Addressable) {w : UInt64} :
    k.word64 = .ok w ↔ k.bytes.word64 0 = .ok w := by
  rw [word64_eq_ok_iff, Bytes.word64_eq_ok_iff hk]
  rfl

/-- What the words of a constant are: numbers of its bytes, all of them and in order. A word that is
not there is reported with its index, and no index comes back into range by going around. -/
structure ReadFromBytes (k : ByteConstant) : Prop where
  word_iff (index : UInt64) :
    (∃ w, k.word index = .ok w) ↔ 4 * index.toNat + 4 ≤ k.bytes.length
  word_eq {index : UInt64} {w : UInt32} : k.word index = .ok w →
    (4 * index).toNat = 4 * index.toNat ∧ k.bytes.word32 (4 * index) = .ok w
  word_missing {index : UInt64} {v : ContractViolation} : k.word index = .error v →
    v = .constantIndex index k.bytes.length
  written : ∃ words : List UInt32,
    (List.range (k.bytes.length / 4)).map (fun i => k.word (UInt64.ofNat i)) = words.map .ok ∧
      words.flatMap (fun w => Bytes.ofNumber 4 w.toNat) =
        k.bytes.take (4 * (k.bytes.length / 4))
  word64_eq : 8 ≤ k.bytes.length → ∃ w, k.word64 = .ok w ∧ k.bytes.word64 0 = .ok w
  word64_missing : k.bytes.length < 8 → k.word64 =
    .error (.constantIndex (UInt64.ofNat (k.bytes.length / 4)) k.bytes.length)

theorem readFromBytes (k : ByteConstant) (hk : k.bytes.Addressable) : k.ReadFromBytes where
  word_iff index := exists_word_iff hk
  word_eq {index w} hw := by
    have hindex := lt_size_of_le hk ((exists_word_iff hk).1 ⟨w, hw⟩)
    have hoffset := toNat_four_mul hindex
    refine ⟨hoffset, ?_⟩
    rw [Bytes.word32_eq_ok_iff hk, hoffset]
    exact (word_eq_ok_iff hindex).1 hw
  word_missing hv := eq_constantIndex_of_word hv
  written := by
    refine ⟨_, map_word_range hk, ?_⟩
    rw [List.flatMap_map]
    exact flatMap_wordAt (Nat.mul_div_le k.bytes.length 4)
  word64_eq hle := by
    cases hword : k.word64 with
    | ok w => exact ⟨w, rfl, (word64_eq_word64 hk).1 hword⟩
    | error v =>
        have hlt := (word64_eq_error_iff.1 hword).1
        omega
  word64_missing hlt := word64_eq_error_iff.2 ⟨hlt, rfl⟩

theorem readFromBytes_tenBytes :
    let k : ByteConstant := ⟨.u64, [0x78, 0x56, 0x34, 0x12, 1, 0, 0, 0x80, 7, 7]⟩
    k.bytes.Addressable ∧ k.word 1 = .ok 0x80000001 ∧ k.bytes.word32 4 = .ok 0x80000001 ∧
      (¬ ∃ w, k.word 2 = .ok w) ∧ (¬ ∃ w, k.word 0x4000000000000000 = .ok w) ∧
        k.bytes.word64 0 = .ok 0x8000000112345678 := by
  intro k
  have hk : k.bytes.Addressable := by decide
  have hread := readFromBytes k hk
  have hword : k.word 1 = .ok 0x80000001 := rfl
  refine ⟨hk, hword, (hread.word_eq hword).2, ?_, ?_, ?_⟩
  · rw [hread.word_iff]
    decide
  · rw [hread.word_iff]
    decide
  · have hlong : k.word64 = .ok 0x8000000112345678 := by decide +kernel
    obtain ⟨w, hw, hbytes⟩ := hread.word64_eq (by decide)
    obtain rfl : 0x8000000112345678 = w := Except.ok.inj (hlong.symm.trans hw)
    exact hbytes

end HsaModule.ByteConstant
