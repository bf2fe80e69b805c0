import HsaModule.Layout
import HsaModule.Proofs.Alignment.Order
import HsaModule.Proofs.DataType.Encoded

namespace HsaModule

namespace DataType

theorem byteCount_pos (t : DataType) : 0 < t.byteCount := by
  cases t <;> decide

theorem toNat_ofNat_byteCount (t : DataType) : (UInt64.ofNat t.byteCount).toNat = t.byteCount := by
  have hle : t.byteCount ≤ 16 := by cases t <;> decide
  exact UInt64.toNat_ofNat_of_lt' (Nat.lt_of_le_of_lt hle (by decide))

theorem naturalAlignment_ne_unspecified (t : DataType) : t.naturalAlignment ≠ .unspecified := by
  intro h
  have hbytes := t.bytes_naturalAlignment
  rw [h] at hbytes
  exact Nat.ne_of_lt t.byteCount_pos hbytes

theorem allowsAlignment_iff {t : DataType} {a : Alignment} :
    t.allowsAlignment a ↔ t.naturalAlignment ≤ a := by
  rw [allowsAlignment, decide_eq_true_iff, Alignment.le_iff_bytes_le]

end DataType

namespace Variable

variable {v : Variable}

def exactSize (v : Variable) : Nat := v.elementType.byteCount * max v.dim.toNat 1

theorem toNat_mul_eq_exactSize (v : Variable) :
    (UInt64.ofNat v.elementType.byteCount).toNat * (max v.dim 1).toNat = v.exactSize := by
  rw [DataType.toNat_ofNat_byteCount, UInt64.toNat_max]
  rfl

theorem byteCount_eq_ok_iff {n : UInt64} : v.byteCount = .ok n ↔ n.toNat = v.exactSize := by
  rw [← toNat_mul_eq_exactSize, eq_comm (a := n.toNat), ← Word.mul?_eq_some_iff, byteCount]
  cases Word.mul? (UInt64.ofNat v.elementType.byteCount) (max v.dim 1) with
  | none => exact iff_of_false nofun nofun
  | some m => rw [Except.ok.injEq, Option.some.injEq]

theorem byteCount_eq_error_iff {fault : ArithmeticFault} :
    v.byteCount = .error fault ↔ fault = .multiplyOverflow ∧ 2 ^ 64 ≤ v.exactSize := by
  have hnone : Word.mul? (UInt64.ofNat v.elementType.byteCount) (max v.dim 1) = none ↔
      2 ^ 64 ≤ v.exactSize := by
    rw [← toNat_mul_eq_exactSize]
    exact Word.mul?_eq_none_iff
  rw [← hnone, byteCount]
  cases Word.mul? (UInt64.ofNat v.elementType.byteCount) (max v.dim 1) with
  | none => simp [eq_comm]
  | some m => exact iff_of_false nofun nofun

theorem exists_byteCount (h : v.exactSize < 2 ^ 64) :
    ∃ n : UInt64, n.toNat = v.exactSize ∧ v.byteCount = .ok n := by
  have hword : (UInt64.ofNat v.exactSize).toNat = v.exactSize := UInt64.toNat_ofNat_of_lt' h
  exact ⟨_, hword, byteCount_eq_ok_iff.2 hword⟩

theorem bytes_naturalAlignment_dvd_exactSize (v : Variable) :
    v.elementType.naturalAlignment.bytes ∣ v.exactSize := by
  rw [DataType.bytes_naturalAlignment]
  exact Nat.dvd_mul_right _ _

theorem exists_alignment (v : Variable) :
    ∃ a, IsGreatest {v.elementType.naturalAlignment, v.align} a ∧ a ≠ .unspecified ∧
      a.bytes = v.alignment := by
  obtain ⟨a, hgreatest, hbytes⟩ :=
    Alignment.exists_isGreatest v.elementType.naturalAlignment v.align
  have hnatural : v.elementType.naturalAlignment ≤ a := hgreatest.2 (.inl rfl)
  have ha : a ≠ .unspecified :=
    Alignment.ne_unspecified_of_le v.elementType.naturalAlignment_ne_unspecified hnatural
  exact ⟨a, hgreatest, ha, hbytes⟩

/-- How a variable lies in memory, and that its stored type leads back to its elements. -/
structure LaidOut (v : Variable) : Prop where
  powerOfTwo : v.alignment.isPowerOfTwo
  bounds : 1 ≤ v.alignment ∧ v.alignment ≤ 256
  alignment : ∃ a, Alignment.ofBytes? v.alignment = some a ∧
    IsGreatest {v.elementType.naturalAlignment, v.align} a ∧ v.elementType.allowsAlignment a
  tooWeak {a : Alignment} : a ≤ v.elementType.naturalAlignment →
    a ≠ v.elementType.naturalAlignment → v.elementType.allowsAlignment a = false
  fits : v.elementType.byteCount * max v.dim.toNat 1 < 2 ^ 64 →
    ∃ n, v.byteCount = .ok n ∧ n.toNat = v.elementType.byteCount * max v.dim.toNat 1 ∧
      v.elementType.naturalAlignment.bytes ∣ n.toNat
  overflows_iff (fault : ArithmeticFault) : v.byteCount = .error fault ↔
    fault = .multiplyOverflow ∧ 2 ^ 64 ≤ v.elementType.byteCount * max v.dim.toNat 1
  elementType : DataType.ofEncodedElement v.encodedType = pure v.elementType

theorem laidOut (v : Variable) : v.LaidOut := by
  obtain ⟨a, hgreatest, ha, hbytes⟩ := v.exists_alignment
  exact
    { powerOfTwo := by
        rw [← hbytes]
        exact Alignment.isPowerOfTwo_bytes ha
      bounds := by
        rw [← hbytes]
        exact ⟨Nat.pos_of_isPowerOfTwo (Alignment.isPowerOfTwo_bytes ha), a.bytes_le⟩
      alignment := by
        refine ⟨a, Alignment.ofBytes?_eq_some_iff.2 ⟨ha, hbytes⟩, hgreatest, ?_⟩
        exact DataType.allowsAlignment_iff.2 (hgreatest.2 (.inl rfl))
      tooWeak := by
        intro b hle hne
        rw [Bool.eq_false_iff]
        intro hallows
        exact hne (Alignment.le_antisymm hle (DataType.allowsAlignment_iff.1 hallows))
      fits := by
        intro hlt
        obtain ⟨n, hn, hcount⟩ := exists_byteCount hlt
        refine ⟨n, hcount, hn, ?_⟩
        rw [hn]
        exact v.bytes_naturalAlignment_dvd_exactSize
      overflows_iff := fun fault => byteCount_eq_error_iff
      elementType := DataType.ofEncodedElement_encoded v.elementType v.isArray }

end Variable

end HsaModule
