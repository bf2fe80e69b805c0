import HsaModule.Item.Operand
import HsaModule.Proofs.Outcome

namespace HsaModule

def Segment.flatSized : List Segment := [.flat, .global, .readonly, .kernarg]

theorem Segment.isFlatSized_iff {s : Segment} : s.isFlatSized ↔ s ∈ flatSized := by
  cases s <;> decide

theorem RegisterKind.bits_ne_zero (k : RegisterKind) : k.bits ≠ 0 := by
  cases k <;> decide

namespace MachineModel

theorem addressBitsInto_of_mem (m : MachineModel) {s : Segment} (hs : s ∈ Segment.flatSized) :
    m.addressBitsInto (some s) = m.flatAddressBits :=
  if_pos (Segment.isFlatSized_iff.2 hs)

theorem addressBitsInto_of_notMem (m : MachineModel) {s : Segment}
    (hs : s ∉ Segment.flatSized) : m.addressBitsInto (some s) = 32 :=
  if_neg (mt Segment.isFlatSized_iff.1 hs)

theorem addressBitsInto_small (segment : Option Segment) : small.addressBitsInto segment = 32 :=
  ite_self 32

theorem addressBitsInto_ne_zero (m : MachineModel) (s : Segment) :
    m.addressBitsInto (some s) ≠ 0 := by
  by_cases hs : s ∈ Segment.flatSized
  · rw [addressBitsInto_of_mem m hs]
    cases m <;> decide
  · rw [addressBitsInto_of_notMem m hs]
    decide

theorem addressBitsInto_ne_iff {s : Segment} :
    small.addressBitsInto (some s) ≠ large.addressBitsInto (some s) ↔ s ∈ Segment.flatSized := by
  by_cases hs : s ∈ Segment.flatSized
  · rw [addressBitsInto_of_mem _ hs, addressBitsInto_of_mem _ hs]
    exact iff_of_true (by decide) hs
  · rw [addressBitsInto_of_notMem _ hs, addressBitsInto_of_notMem _ hs]
    exact iff_of_false (fun h => h rfl) hs

end MachineModel

namespace Directive

inductive LivesIn : Directive → Segment → Prop
  | var (v : Variable) : LivesIn (.var v) v.segment
  | fbarrier (b : Fbarrier) : LivesIn (.fbarrier b) .group

theorem segment_eq_ok_iff {d : Directive} {s : Segment} : d.segment = .ok s ↔ d.LivesIn s := by
  constructor
  · intro h
    cases d with
    | var v =>
        obtain rfl := Except.ok.inj h
        exact .var v
    | fbarrier b =>
        obtain rfl := Except.ok.inj h
        exact .fbarrier b
    | _ => cases h
  · rintro (v | b) <;> rfl

theorem segment_eq_error_iff {d : Directive} {v : ContractViolation} :
    d.segment = .error v ↔
      (∀ s, ¬ d.LivesIn s) ∧ v = .unsupportedDirective .segment d.kind := by
  constructor
  · intro h
    refine ⟨?_, ?_⟩
    · intro s hs
      rw [segment_eq_ok_iff.2 hs] at h
      cases h
    · cases d <;> cases h <;> rfl
  · rintro ⟨hnowhere, rfl⟩
    cases d with
    | var v => exact absurd (.var v) (hnowhere _)
    | fbarrier b => exact absurd (.fbarrier b) (hnowhere _)
    | _ => rfl

theorem forall_not_livesIn_iff {d : Directive} :
    (∀ s, ¬ d.LivesIn s) ↔ (∀ v, d ≠ .var v) ∧ ∀ b, d ≠ .fbarrier b := by
  constructor
  · intro hnowhere
    refine ⟨?_, ?_⟩
    · rintro v rfl
      exact hnowhere _ (.var v)
    · rintro b rfl
      exact hnowhere _ (.fbarrier b)
  · rintro ⟨hvar, hbarrier⟩ s (v | b)
    · exact hvar v rfl
    · exact hbarrier b rfl

end Directive

namespace Address

variable {a : Address} {m : MachineModel}

/-- What the width of an address comes from: a register, the segment of its symbol, or nothing. -/
inductive Measured (m : MachineModel) (a : Address) : Except ContractViolation Nat → Prop
  | register {r : Register} (hregister : a.register = some r) : Measured m a (.ok r.bits)
  | place {d : Directive} {s : Segment} (hregister : a.register = none)
      (hsymbol : a.symbol = some d) (hlives : d.LivesIn s) :
      Measured m a (.ok (m.addressBitsInto (some s)))
  | nowhere {d : Directive} (hregister : a.register = none) (hsymbol : a.symbol = some d)
      (hnowhere : ∀ s, ¬ d.LivesIn s) :
      Measured m a (.error (.unsupportedDirective .segment d.kind))
  | unknown (hregister : a.register = none) (hsymbol : a.symbol = none) : Measured m a (.ok 0)

theorem bits_of_symbol {d : Directive} (hregister : a.register = none)
    (hsymbol : a.symbol = some d) :
    a.bits m = d.segment.map fun s => m.addressBitsInto (some s) := by
  rw [bits, hregister, hsymbol]

theorem measured_bits (m : MachineModel) (a : Address) : Measured m a (a.bits m) := by
  cases hregister : a.register with
  | some r =>
      rw [bits, hregister]
      exact .register hregister
  | none =>
      cases hsymbol : a.symbol with
      | none =>
          rw [bits, hregister, hsymbol]
          exact .unknown hregister hsymbol
      | some d =>
          rw [bits_of_symbol hregister hsymbol]
          cases hsegment : d.segment with
          | ok s => exact .place hregister hsymbol (Directive.segment_eq_ok_iff.1 hsegment)
          | error v =>
              obtain ⟨hnowhere, rfl⟩ := Directive.segment_eq_error_iff.1 hsegment
              exact .nowhere hregister hsymbol hnowhere

theorem Measured.bits_eq {x : Except ContractViolation Nat} (h : Measured m a x) :
    a.bits m = x := by
  cases h with
  | register hregister => rw [bits, hregister]
  | place hregister hsymbol hlives =>
      rw [bits_of_symbol hregister hsymbol, Directive.segment_eq_ok_iff.2 hlives]
      rfl
  | nowhere hregister hsymbol hnowhere =>
      rw [bits_of_symbol hregister hsymbol, Directive.segment_eq_error_iff.2 ⟨hnowhere, rfl⟩]
      rfl
  | unknown hregister hsymbol => rw [bits, hregister, hsymbol]

theorem bits_eq_iff {x : Except ContractViolation Nat} : a.bits m = x ↔ Measured m a x := by
  constructor
  · rintro rfl
    exact measured_bits m a
  · exact Measured.bits_eq

theorem bits_eq_error_iff {v : ContractViolation} :
    a.bits m = .error v ↔
      a.register = none ∧ ∃ d, a.symbol = some d ∧ (∀ s, ¬ d.LivesIn s) ∧
        v = .unsupportedDirective .segment d.kind := by
  rw [bits_eq_iff]
  constructor
  · intro h
    cases h with
    | nowhere hregister hsymbol hnowhere => exact ⟨hregister, _, hsymbol, hnowhere, rfl⟩
  · rintro ⟨hregister, d, hsymbol, hnowhere, rfl⟩
    exact .nowhere hregister hsymbol hnowhere

theorem bits_eq_zero_iff : a.bits m = .ok 0 ↔ a.register = none ∧ a.symbol = none := by
  rw [bits_eq_iff]
  constructor
  · intro h
    -- whatever there is to start from, it is not zero bits wide
    generalize hzero : Except.ok 0 = x at h
    cases h with
    | register => exact absurd (Except.ok.inj hzero).symm (RegisterKind.bits_ne_zero _)
    | place => exact absurd (Except.ok.inj hzero).symm (m.addressBitsInto_ne_zero _)
    | nowhere => cases hzero
    | unknown hregister hsymbol => exact ⟨hregister, hsymbol⟩
  · rintro ⟨hregister, hsymbol⟩
    exact .unknown hregister hsymbol

theorem small_ne_large_iff :
    a.bits .small ≠ a.bits .large ↔
      a.register = none ∧ ∃ v, a.symbol = some (.var v) ∧ v.segment ∈ Segment.flatSized := by
  constructor
  · intro hne
    have h := measured_bits .small a
    generalize a.bits .small = x at h hne
    cases h with
    | register hregister => exact absurd (Measured.register hregister).bits_eq.symm hne
    | nowhere hregister hsymbol hnowhere =>
        exact absurd (Measured.nowhere hregister hsymbol hnowhere).bits_eq.symm hne
    | unknown hregister hsymbol =>
        exact absurd (Measured.unknown hregister hsymbol).bits_eq.symm hne
    | place hregister hsymbol hlives =>
        rw [(Measured.place hregister hsymbol hlives).bits_eq] at hne
        have hs := MachineModel.addressBitsInto_ne_iff.1 fun h => hne (congrArg _ h)
        cases hlives with
        | var v => exact ⟨hregister, v, hsymbol, hs⟩
        | fbarrier b => exact absurd hs (by decide)
  · rintro ⟨hregister, v, hsymbol, hs⟩ h
    rw [(Measured.place hregister hsymbol (.var v)).bits_eq,
      (Measured.place hregister hsymbol (.var v)).bits_eq] at h
    exact MachineModel.addressBitsInto_ne_iff.2 hs (Except.ok.inj h)

theorem bits_of_flatSized {v : Variable} (hregister : a.register = none)
    (hsymbol : a.symbol = some (.var v)) (hs : v.segment ∈ Segment.flatSized) :
    a.bits m = .ok m.flatAddressBits := by
  rw [(Measured.place hregister hsymbol (.var v)).bits_eq,
    MachineModel.addressBitsInto_of_mem m hs]

theorem bits_small {n : Nat} (hregister : a.register = none) (h : a.bits .small = .ok n) :
    n = 0 ∨ n = 32 := by
  rw [bits_eq_iff] at h
  cases h with
  | register hsome =>
      rw [hregister] at hsome
      cases hsome
  | place => exact .inr (MachineModel.addressBitsInto_small _)
  | unknown => exact .inl rfl

structure WidthDetermined (a : Address) : Prop where
  error_iff (m : MachineModel) (v : ContractViolation) : a.bits m = .error v ↔
    a.register = none ∧ ∃ d, a.symbol = some d ∧
      ((∀ x, d ≠ .var x) ∧ ∀ b, d ≠ .fbarrier b) ∧ v = .unsupportedDirective .segment d.kind
  register {r : Register} (m : MachineModel) : a.register = some r → a.bits m = .ok r.bits
  zero_iff (m : MachineModel) : a.bits m = .ok 0 ↔ a.register = none ∧ a.symbol = none
  small_ne_large_iff : a.bits .small ≠ a.bits .large ↔
    a.register = none ∧ ∃ v, a.symbol = some (.var v) ∧
      (v.segment = .flat ∨ v.segment = .global ∨ v.segment = .readonly ∨ v.segment = .kernarg)
  small {n : Nat} : a.register = none → a.bits .small = .ok n → n = 0 ∨ n = 32
  small_ne_large : a.bits .small ≠ a.bits .large →
    a.bits .small = .ok 32 ∧ a.bits .large = .ok 64
  offset (m : MachineModel) (n : UInt64) : bits { a with offset := n } m = a.bits m

theorem widthDetermined (a : Address) : a.WidthDetermined where
  error_iff _ _ := by
    simp only [bits_eq_error_iff, Directive.forall_not_livesIn_iff]
  register _ hregister := (Measured.register hregister).bits_eq
  zero_iff _ := bits_eq_zero_iff
  small_ne_large_iff := by
    rw [Address.small_ne_large_iff]
    simp only [Segment.flatSized, List.mem_cons, List.not_mem_nil, or_false]
  small hregister h := bits_small hregister h
  small_ne_large hne := by
    obtain ⟨hregister, v, hsymbol, hs⟩ := Address.small_ne_large_iff.1 hne
    exact ⟨bits_of_flatSized hregister hsymbol hs, bits_of_flatSized hregister hsymbol hs⟩
  offset m n := by
    rw [bits, bits]

end Address

end HsaModule
