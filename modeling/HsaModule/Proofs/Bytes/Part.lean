import HsaModule.Bytes
import Mathlib.Algebra.Order.Group.Nat
import Mathlib.Tactic.Ring

namespace HsaModule.Bytes

/-- The last `width` bytes of a number, least significant byte first. -/
def ofNumber : Nat → Nat → Bytes
  | 0, _ => []
  | width + 1, n => UInt8.ofNat n :: ofNumber width (n / 256)

@[simp] theorem length_ofNumber (width n : Nat) : (ofNumber width n).length = width := by
  induction width generalizing n with
  | zero => rfl
  | succ width ih => simp [ofNumber, ih]

theorem ofNumber_toNumber (bytes : Bytes) : ofNumber bytes.length bytes.toNumber = bytes := by
  induction bytes with
  | nil => rfl
  | cons b rest ih =>
      have hb := b.toNat_lt
      have hdiv : (b.toNat + 256 * toNumber rest) / 256 = toNumber rest := by omega
      have hmod : UInt8.ofNat (b.toNat + 256 * toNumber rest) = b := by
        apply UInt8.toNat_inj.1
        rw [UInt8.toNat_ofNat']
        omega
      rw [List.length_cons, toNumber, ofNumber, hdiv, hmod, ih]

/-- `part` stands in `data` from `start` on. -/
def Holds (data : Bytes) (start : Nat) (part : Bytes) : Prop :=
  ∃ before after, data = before ++ part ++ after ∧ before.length = start

theorem Holds.le_length {data part : Bytes} {start : Nat} (h : data.Holds start part) :
    start + part.length ≤ data.length := by
  obtain ⟨before, after, rfl, rfl⟩ := h
  simp

theorem Holds.take_drop_eq {data part : Bytes} {start : Nat} (h : data.Holds start part) :
    (data.drop start).take part.length = part := by
  obtain ⟨before, after, rfl, rfl⟩ := h
  rw [List.append_assoc, List.drop_left, List.take_left]

theorem length_take_drop {data : Bytes} {start size : Nat} (h : start + size ≤ data.length) :
    ((data.drop start).take size).length = size := by
  rw [List.length_take, List.length_drop]
  omega

theorem holds_take_drop {data : Bytes} {start size : Nat} (h : start + size ≤ data.length) :
    data.Holds start ((data.drop start).take size) := by
  refine ⟨data.take start, (data.drop start).drop size, ?_, ?_⟩
  · rw [List.append_assoc, List.take_append_drop, List.take_append_drop]
  · rw [List.length_take]
    omega

theorem holds_iff {data part : Bytes} {start : Nat} :
    data.Holds start part ↔
      start + part.length ≤ data.length ∧ (data.drop start).take part.length = part := by
  constructor
  · intro h
    exact ⟨h.le_length, h.take_drop_eq⟩
  · rintro ⟨hle, heq⟩
    rw [← heq]
    exact holds_take_drop hle

instance (data part : Bytes) (start : Nat) : Decidable (data.Holds start part) :=
  decidable_of_iff _ holds_iff.symm

theorem Holds.unique {data a b : Bytes} {start : Nat} (ha : data.Holds start a)
    (hb : data.Holds start b) (hlength : a.length = b.length) : a = b := by
  rw [← ha.take_drop_eq, ← hb.take_drop_eq, hlength]

theorem holds_append_iff {data a b : Bytes} {start : Nat} :
    data.Holds start (a ++ b) ↔ data.Holds start a ∧ data.Holds (start + a.length) b := by
  constructor
  · rintro ⟨before, after, rfl, rfl⟩
    refine ⟨⟨before, b ++ after, by simp, rfl⟩, before ++ a, after, by simp, by simp⟩
  · rintro ⟨ha, hb⟩
    have hle := hb.le_length
    have hpart : data.Holds start ((data.drop start).take (a ++ b).length) := by
      apply holds_take_drop
      rw [List.length_append]
      omega
    have heq : (data.drop start).take (a ++ b).length = a ++ b := by
      rw [List.length_append, List.take_add, ha.take_drop_eq, List.drop_drop, hb.take_drop_eq]
    rwa [heq] at hpart

theorem Holds.trans {data part inner : Bytes} {start i : Nat} (h : data.Holds start part)
    (hinner : part.Holds i inner) : data.Holds (start + i) inner := by
  obtain ⟨before, after, rfl, rfl⟩ := h
  obtain ⟨before', after', rfl, rfl⟩ := hinner
  exact ⟨before ++ before', after' ++ after, by simp, by simp⟩

theorem holds_self (data : Bytes) : data.Holds 0 data :=
  ⟨[], [], by simp, rfl⟩

theorem Holds.getElem_flatMap {α : Type} {data : Bytes} {f : α → Bytes} {width start : Nat}
    {l : List α} (h : data.Holds start (l.flatMap f)) (hwidth : ∀ a, (f a).length = width)
    {i : Nat} {a : α} (ha : l[i]? = some a) : data.Holds (start + width * i) (f a) := by
  induction l generalizing start i with
  | nil => simp at ha
  | cons b rest ih =>
      rw [List.flatMap_cons, holds_append_iff, hwidth] at h
      obtain ⟨hfirst, hrest⟩ := h
      cases i with
      | zero =>
          obtain rfl : b = a := by simpa using ha
          simpa using hfirst
      | succ i =>
          have hnext := ih hrest (by simpa using ha)
          rwa [Nat.add_assoc, Nat.add_comm width, ← Nat.mul_succ] at hnext

theorem toNumber_lt (bytes : Bytes) : bytes.toNumber < 256 ^ bytes.length := by
  induction bytes with
  | nil => simp [toNumber]
  | cons b rest ih =>
      have hb : b.toNat < 256 := b.toNat_lt
      rw [toNumber, List.length_cons, pow_succ]
      omega

theorem toNumber_ofNumber {width n : Nat} (h : n < 256 ^ width) :
    toNumber (ofNumber width n) = n := by
  induction width generalizing n with
  | zero =>
      have hzero : n = 0 := by simpa using h
      rw [hzero, ofNumber, toNumber]
  | succ width ih =>
      have hrest : n / 256 < 256 ^ width := by
        rw [pow_succ] at h
        omega
      rw [ofNumber, toNumber, ih hrest, UInt8.toNat_ofNat']
      omega

theorem Holds.number_unique {data : Bytes} {start width a b : Nat}
    (ha : data.Holds start (ofNumber width a)) (hb : data.Holds start (ofNumber width b))
    (halt : a < 256 ^ width) (hblt : b < 256 ^ width) : a = b := by
  have heq := ha.unique hb (by rw [length_ofNumber, length_ofNumber])
  rw [← toNumber_ofNumber halt, heq, toNumber_ofNumber hblt]

theorem toNumber_eq_iff {part : Bytes} {width n : Nat} (hpart : part.length = width) :
    part.toNumber = n ↔ n < 256 ^ width ∧ part = ofNumber width n := by
  constructor
  · rintro rfl
    rw [← hpart]
    exact ⟨part.toNumber_lt, part.ofNumber_toNumber.symm⟩
  · rintro ⟨hn, rfl⟩
    exact toNumber_ofNumber hn

theorem holds_ofNumber_iff {data : Bytes} {start width n : Nat} (hn : n < 256 ^ width) :
    data.Holds start (ofNumber width n) ↔
      start + width ≤ data.length ∧ toNumber ((data.drop start).take width) = n := by
  rw [holds_iff, length_ofNumber]
  apply and_congr_right
  intro hle
  rw [toNumber_eq_iff (length_take_drop hle)]
  exact (and_iff_right hn).symm

theorem ofNumber_append_ofNumber {a low : Nat} (hlow : low < 256 ^ a) (b high : Nat) :
    ofNumber a low ++ ofNumber b high = ofNumber (a + b) (low + 256 ^ a * high) := by
  induction a generalizing low with
  | zero =>
      obtain rfl : low = 0 := by simpa using hlow
      simp [ofNumber]
  | succ a ih =>
      have hrest : low / 256 < 256 ^ a := by
        rw [pow_succ] at hlow
        omega
      have hpow : 256 ^ (a + 1) * high = 256 * (256 ^ a * high) := by ring
      have hdiv : (low + 256 ^ (a + 1) * high) / 256 = low / 256 + 256 ^ a * high := by omega
      have hbyte : UInt8.ofNat (low + 256 ^ (a + 1) * high) = UInt8.ofNat low := by
        apply UInt8.toNat_inj.1
        rw [UInt8.toNat_ofNat', UInt8.toNat_ofNat']
        omega
      rw [Nat.succ_add, ofNumber, ofNumber, hdiv, hbyte, List.cons_append, ih hrest]

theorem exists_halves (w : UInt64) :
    ∃ low high : UInt32, w.toNat = low.toNat + 256 ^ 4 * high.toNat := by
  have hlt : w.toNat < 256 ^ 4 * 256 ^ 4 := w.toNat_lt
  have hlow : w.toNat % 256 ^ 4 < UInt32.size := Nat.mod_lt _ (by decide)
  have hhigh : w.toNat / 256 ^ 4 < UInt32.size := Nat.div_lt_of_lt_mul hlt
  refine ⟨UInt32.ofNat (w.toNat % 256 ^ 4), UInt32.ofNat (w.toNat / 256 ^ 4), ?_⟩
  rw [UInt32.toNat_ofNat_of_lt' hlow, UInt32.toNat_ofNat_of_lt' hhigh, Nat.mod_add_div]

theorem holds_word64_iff {data : Bytes} {start : Nat} {w : UInt64} :
    data.Holds start (ofNumber 8 w.toNat) ↔
      ∃ low high : UInt32, data.Holds start (ofNumber 4 low.toNat) ∧
        data.Holds (start + 4) (ofNumber 4 high.toNat) ∧
        w.toNat = low.toNat + 256 ^ 4 * high.toNat := by
  have hsplit {low high : UInt32} (hw : w.toNat = low.toNat + 256 ^ 4 * high.toNat) :
      data.Holds start (ofNumber 8 w.toNat) ↔
        data.Holds start (ofNumber 4 low.toNat) ∧
          data.Holds (start + 4) (ofNumber 4 high.toNat) := by
    have hjoined := ofNumber_append_ofNumber (a := 4) low.toNat_lt 4 high.toNat
    rw [hw, ← hjoined, holds_append_iff, length_ofNumber]
  constructor
  · intro h
    obtain ⟨low, high, hw⟩ := exists_halves w
    obtain ⟨hlow, hhigh⟩ := (hsplit hw).1 h
    exact ⟨low, high, hlow, hhigh, hw⟩
  · rintro ⟨low, high, hlow, hhigh, hw⟩
    exact (hsplit hw).2 ⟨hlow, hhigh⟩

def fill (n : Nat) (b : UInt8) : Block n := ⟨List.replicate n b, List.length_replicate⟩

end HsaModule.Bytes
