import HsaModule.LaunchControl.Check
import HsaModule.Proofs.Log.Lookup
import HsaModule.Proofs.Log.Warning

/-!
Lines of refusals. Each check ends as it passes, with a refusal that it has logged, or because the
module is malformed; a check that goes on after another one ends in the same ways. So a refused
value leaves one line, with the reason at its end, and nothing else does.
-/

namespace HsaModule

def Notice.Refuses (n : Notice) (reason : Reason) : Prop :=
  n.level = .debug ∧ ∃ front, n.text = front ++ "rejected: " ++ reason.text

theorem Notice.refuses_rejectedProperty (p : Property) (value : UInt32) (reason : Reason) :
    (rejectedProperty p value reason).Refuses reason := by
  refine ⟨rfl, p.label ++ " = " ++ toString value.toNat ++ " ", ?_⟩
  change _ ++ (" " ++ "rejected: ") ++ reason.text = _
  simp only [String.append_assoc]

theorem Notice.refuses_rejectedOperand (c : LaunchControl) (index : Nat) (reason : Reason) :
    (rejectedOperand c index reason).Refuses reason := by
  refine ⟨rfl, c.label ++ " operand " ++ toString index ++ " ", ?_⟩
  change _ ++ (" " ++ "rejected: ") ++ reason.text = _
  simp only [String.append_assoc]

/-- How a check ends. -/
inductive Judged : Logged Error Unit → Prop
  | passed : Judged (pure ())
  | refused {n : Notice} {reason : Reason} (hn : n.Refuses reason) :
      Judged (.refuse n (.invalid reason))
  | unknown (family : String) (value : Nat) :
      Judged (.refuse (.unknownCode family value) (Error.unknownCode family value))
  | malformed (v : ContractViolation) : Judged (.fail (.contract v))

namespace Judged

variable {x : Logged Error Unit}

theorem bind {f : Unit → Logged Error Unit} (h : Judged x) (hf : Judged (f ())) :
    Judged (x >>= f) := by
  cases h with
  | passed => exact hf
  | refused hn => exact .refused hn
  | unknown family value => exact .unknown family value
  | malformed v => exact .malformed v

theorem bind_decoded {α : Type} {wide : Prop} {x : Logged ContractViolation α}
    {f : α → Logged Error Unit} (h : Decoded wide x) (hf : ∀ a, Judged (f a)) :
    Judged (x.mapError .contract >>= f) := by
  cases h with
  | known hfits a => exact hf a
  | unknown hfits family value => exact .unknown family value
  | tooWide hwide family value => exact .malformed (.unknownCode family value)

theorem bind_ofExcept {α : Type} (x : Except ContractViolation α) {f : α → Logged Error Unit}
    (hf : ∀ a, Judged (f a)) : Judged (Logged.ofExcept (x.mapError .contract) >>= f) := by
  cases x with
  | error v => exact .malformed v
  | ok a => exact hf a

end Judged

theorem Property.judged_judge (p : Property) (value : UInt32) (objection : Option Reason) :
    Judged (p.judge value objection) := by
  cases objection with
  | none => exact .passed
  | some reason => exact .refused (Notice.refuses_rejectedProperty p value reason)

theorem Question.judged_judge (q : Question) (objection : Option Reason) :
    Judged (q.judge objection) := by
  cases q with
  | property p value => exact p.judged_judge value objection
  | modifier p value legal => exact p.judged_judge value objection
  | instruction i p => exact p.judged_judge (i.valueOr p 0) objection

theorem Question.judged_ask (q : Question) (t : Target) : Judged (q.ask t) := by
  rw [ask_eq]
  split
  · exact .passed
  · exact .bind_decoded q.decoded_objection fun o => q.judged_judge (o t)

namespace LaunchControl

variable (c : LaunchControl)

theorem judged_judge (index : Nat) (objection : Option Reason) :
    Judged (c.judge index objection) := by
  cases objection with
  | none => exact .passed
  | some reason => exact .refused (Notice.refuses_rejectedOperand c index reason)

theorem judged_checkBounds (index : Nat) (value : UInt64) : Judged (c.checkBounds index value) :=
  c.judged_judge index (c.boundsObjection? value)

theorem judged_checkOperand (index : Nat) (o : Operand) : Judged (c.checkOperand index o) := by
  cases o with
  | waveSize => exact c.judged_judge index _
  | constantBytes k =>
      rw [checkOperand]
      split
      · exact .bind_ofExcept k.value fun value => c.judged_checkBounds index value
      · exact c.judged_judge index _
  | _ => exact c.judged_judge index (some .operandNotImmediate)

theorem judged_checkFrom (index : Nat) (operands : List Operand) :
    Judged (c.checkFrom index operands) := by
  -- the rest is checked only after an operand that passes, and such an operand leaves no line
  induction operands generalizing index with
  | nil => exact .passed
  | cons o rest ih => exact (c.judged_checkOperand index o).bind (ih (index + 1))

theorem judged_check (operands : List Operand) : Judged (c.check operands) := by
  rw [check]
  split
  · exact c.judged_checkFrom 0 operands
  · exact c.judged_judge operands.length _

end LaunchControl

/-- A value is refused exactly if one line is logged that ends in the reason, and there are no
lines of other refusals. -/
structure Logged.RefusalLogged (x : Logged Error Unit) : Prop where
  refused_iff (reason : Reason) : x.result = .error (.invalid reason) ↔
    ∃ front, x.lines .debug = [front ++ "rejected: " ++ reason.text]
  quiet : (∀ reason, x.result ≠ .error (.invalid reason)) → x.lines .debug = []

theorem Logged.refusalLogged_of_quiet {x : Logged Error Unit}
    (hresult : ∀ reason, x.result ≠ .error (.invalid reason)) (hlines : x.lines .debug = []) :
    x.RefusalLogged where
  refused_iff reason := by
    rw [hlines]
    refine iff_of_false (hresult reason) ?_
    rintro ⟨front, hline⟩
    cases hline
  quiet _ := hlines

theorem Logged.refusalLogged_refuse {n : Notice} {reason : Reason} (hn : n.Refuses reason) :
    (refuse n (.invalid reason) : Logged Error Unit).RefusalLogged where
  refused_iff reason' := by
    obtain ⟨hlevel, front, htext⟩ := hn
    rw [lines_refuse hlevel, htext]
    constructor
    · rintro ⟨⟩
      exact ⟨front, rfl⟩
    · rintro ⟨front', hline⟩
      rw [Reason.eq_of_append_text_eq (List.singleton_inj.1 hline)]
      rfl
  quiet h := absurd rfl (h reason)

theorem Judged.refusalLogged {x : Logged Error Unit} (h : Judged x) : x.RefusalLogged := by
  cases h with
  | passed => exact Logged.refusalLogged_of_quiet nofun rfl
  | refused hn => exact Logged.refusalLogged_refuse hn
  | unknown family value => exact Logged.refusalLogged_of_quiet nofun rfl
  | malformed v => exact Logged.refusalLogged_of_quiet nofun rfl

inductive Check
  | question (q : Question) (t : Target)
  | bounds (c : LaunchControl) (index : Nat) (value : UInt64)
  | control (c : LaunchControl) (operands : List Operand)

def Check.run : Check → Logged Error Unit
  | question q t => q.ask t
  | bounds c index value => c.checkBounds index value
  | control c operands => c.check operands

theorem Check.judged_run (check : Check) : Judged check.run := by
  cases check with
  | question q t => exact q.judged_ask t
  | bounds c index value => exact c.judged_checkBounds index value
  | control c operands => exact c.judged_check operands

/-- Checks log what they refuse, and lookups the sections that they find. -/
theorem outcomes_logged (check : Check) (m : Binary.Module) :
    check.run.RefusalLogged ∧ m.LookupsLogged :=
  ⟨check.judged_run.refusalLogged, m.lookupsLogged⟩

end HsaModule
