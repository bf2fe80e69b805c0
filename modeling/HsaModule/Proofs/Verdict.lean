import HsaModule.LaunchControl.Check
import HsaModule.Legality

namespace HsaModule

def Reason.verdict : Option Reason → Except Error Unit
  | some reason => .error (.invalid reason)
  | none => .ok ()

theorem Reason.verdict_eq_ok_iff {objection : Option Reason} :
    verdict objection = .ok () ↔ objection = none := by
  cases objection with
  | none => simp [verdict]
  | some reason => simp [verdict]

theorem Reason.verdict_eq_error_iff {objection : Option Reason} {e : Error} :
    verdict objection = .error e ↔ ∃ reason, objection = some reason ∧ e = .invalid reason := by
  cases objection with
  | none => simp [verdict]
  | some reason => simp [verdict, eq_comm]

@[simp] theorem Property.result_judge (p : Property) (value : UInt32)
    (objection : Option Reason) :
    (p.judge value objection).result = Reason.verdict objection := by
  cases objection with
  | none => rfl
  | some reason => rfl

@[simp] theorem LaunchControl.result_judge (c : LaunchControl) (index : Nat)
    (objection : Option Reason) :
    (c.judge index objection).result = Reason.verdict objection := by
  cases objection with
  | none => rfl
  | some reason => rfl

end HsaModule
