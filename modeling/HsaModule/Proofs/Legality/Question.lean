import HsaModule.Proofs.Coded.Value
import HsaModule.Proofs.Legality.Objection
import HsaModule.Proofs.Verdict

/-!
The three checks of a target, as questions of one form. The base profile reads a value first, in a
way that is the same for all targets, and then objects to what it has read; the full profile does
not even read it.
-/

namespace HsaModule

theorem Logged.bind_congr {ε α β : Type} {x : Logged ε α} {f g : α → Logged ε β}
    (h : ∀ a, x.result = .ok a → f a = g a) : x >>= f = x >>= g := by
  cases hx : x.result with
  | error e => rw [bind_of_error hx, bind_of_error hx]
  | ok a => rw [bind_of_ok hx, bind_of_ok hx, h a hx]

theorem Logged.mapError_pure_bind {ε ε' α β γ : Type} (x : Logged ε α) (f : α → β) (g : ε → ε')
    (h : β → Logged ε' γ) :
    ((x >>= fun a => pure (f a)).mapError g >>= h) = x.mapError g >>= fun a => h (f a) := by
  cases hx : x.result with
  | error e =>
      have hx' : (x.mapError g).result = .error (g e) := by
        rw [result_mapError, hx]
        rfl
      rw [bind_of_error hx, bind_of_error hx']
      rfl
  | ok a =>
      have hread : (x >>= fun a => pure (f a)) = { result := .ok (f a), notices := x.notices } := by
        rw [bind_of_ok hx, notices_pure, List.append_nil]
        rfl
      have hx' : (x.mapError g).result = .ok a := by
        rw [result_mapError, hx]
        rfl
      rw [hread, bind_of_ok hx']
      rfl

namespace Property

def objection (p : Property) (value : UInt32) :
    Logged ContractViolation (Target → Option Reason) :=
  if p.isType then do
    let type ← Coded.decodeValue? DataType value
    return fun t => type.bind t.typeObjection?
  else if p = .imageSegmentMemoryScope then do
    let scope ← Coded.decodeValue? MemoryScope value
    return fun t => scope.bind t.scopeObjection?
  else pure fun _ => none

def modifierObjection (p : Property) (value : UInt32) (legal : List UInt32) :
    Logged ContractViolation (Target → Option Reason) :=
  match p with
  | .ftz =>
      pure fun _ => if value = 0 ∧ 1 < legal.length then some .flushRequired else none
  | .round => do
      let mode ← Coded.decodeValue Rounding value
      return fun _ => mode.objection?
  | _ => pure fun _ => none

end Property

/-- A question about a value of a property: what it says as such, as a modifier, or as it stands
on an instruction. -/
inductive Question
  | property (p : Property) (value : UInt32)
  | modifier (p : Property) (value : UInt32) (legal : List UInt32)
  | instruction (i : Instruction) (p : Property)

namespace Question

def ask (t : Target) : Question → Logged Error Unit
  | property p value => t.checkProperty p value
  | modifier p value legal => t.checkModifier p value legal
  | instruction i p => t.checkInstruction i p

def objection : Question → Logged ContractViolation (Target → Option Reason)
  | property p value => p.objection value
  | modifier p value legal => p.modifierObjection value legal
  | instruction i p => p.objection (i.valueOr p 0)

def judge : Question → Option Reason → Logged Error Unit
  | property p value | modifier p value _ => p.judge value
  | instruction i p => p.judge (i.valueOr p 0)

theorem checkProperty_eq (t : Target) (p : Property) (value : UInt32) :
    t.checkProperty p value =
      if t.profile = .full then pure ()
      else (p.objection value).mapError .contract >>= fun o => p.judge value (o t) := by
  rw [Target.checkProperty, Property.objection]
  split
  case isTrue => rfl
  split
  case isTrue => rw [Logged.mapError_pure_bind]
  split
  case isTrue => rw [Logged.mapError_pure_bind]
  rfl

theorem checkInstruction_eq (t : Target) (i : Instruction) (p : Property) :
    t.checkInstruction i p = t.checkProperty p (i.valueOr p 0) := by
  rw [Target.checkInstruction]
  split
  case isTrue => rfl
  case isFalse hother =>
      obtain ⟨hscope, htype⟩ := not_or.1 hother
      rw [Target.checkProperty, if_neg htype, if_neg hscope, ite_self]

theorem ask_eq (q : Question) (t : Target) :
    q.ask t =
      if t.profile = .full then pure ()
      else q.objection.mapError .contract >>= fun o => q.judge (o t) := by
  cases q with
  | property p value => exact checkProperty_eq t p value
  | modifier p value legal =>
      change t.checkModifier p value legal = _
      unfold Target.checkModifier
      split
      case isTrue => rfl
      cases p with
      | round =>
          rw [objection, Property.modifierObjection, Logged.mapError_pure_bind]
          rfl
      | _ => rfl
  | instruction i p =>
      change t.checkInstruction i p = _
      rw [checkInstruction_eq]
      exact checkProperty_eq t p (i.valueOr p 0)

@[simp] theorem result_judge (q : Question) (reason : Option Reason) :
    (q.judge reason).result = Reason.verdict reason := by
  cases q with
  | property p value => exact p.result_judge value reason
  | modifier p value legal => exact p.result_judge value reason
  | instruction i p => exact p.result_judge (i.valueOr p 0) reason

theorem result_ask (q : Question) (t : Target) :
    (q.ask t).result =
      if t.profile = .full then .ok ()
      else (q.objection.result.mapError .contract).bind fun o => Reason.verdict (o t) := by
  rw [ask_eq]
  split
  · rfl
  · simp only [Logged.result_bind, Logged.result_mapError, result_judge]

theorem result_ask_of_base (q : Question) {t : Target} (ht : t.profile = .base) :
    (q.ask t).result =
      (q.objection.result.mapError .contract).bind fun o => Reason.verdict (o t) := by
  have hbase : t.profile ≠ .full := by simp [ht]
  rw [result_ask, if_neg hbase]

theorem ask_eq_ok_iff {q : Question} {t : Target} :
    (q.ask t).result = .ok () ↔
      t.profile = .full ∨ ∃ o, q.objection.result = .ok o ∧ o t = none := by
  rw [result_ask]
  split
  case isTrue hfull => simp [hfull]
  case isFalse hbase =>
      simp only [except_bind_eq_ok_iff, except_mapError_eq_ok_iff, Reason.verdict_eq_ok_iff, hbase,
        false_or]

theorem ask_eq_contract_iff {q : Question} {t : Target} {v : ContractViolation}
    (ht : t.profile = .base) :
    (q.ask t).result = .error (.contract v) ↔ q.objection.result = .error v := by
  rw [result_ask_of_base q ht]
  simp [except_bind_eq_error_iff, except_mapError_eq_error_iff, Reason.verdict_eq_error_iff]

theorem steady_propertyObjection {p : Property} {value : UInt32} {o : Target → Option Reason}
    (h : (p.objection value).result = .ok o) : Target.Steady o := by
  rw [Property.objection] at h
  split at h
  case isTrue =>
      rw [Logged.result_bind_pure, except_map_eq_ok_iff] at h
      obtain ⟨type, -, rfl⟩ := h
      exact .bind Target.steady_typeObjection? type
  split at h
  case isTrue =>
      rw [Logged.result_bind_pure, except_map_eq_ok_iff] at h
      obtain ⟨scope, -, rfl⟩ := h
      exact .bind Target.steady_scopeObjection? scope
  obtain rfl := Except.ok.inj h
  exact Target.steady_const none

theorem steady_objection {q : Question} {o : Target → Option Reason}
    (h : q.objection.result = .ok o) : Target.Steady o := by
  cases q with
  | property p value => exact steady_propertyObjection h
  | instruction i p => exact steady_propertyObjection h
  | modifier p value legal =>
      cases p with
      | ftz =>
          obtain rfl := Except.ok.inj h
          exact Target.steady_const _
      | round =>
          rw [objection, Property.modifierObjection, Logged.result_bind_pure,
            except_map_eq_ok_iff] at h
          obtain ⟨mode, -, rfl⟩ := h
          exact Target.steady_const mode.objection?
      | _ =>
          obtain rfl := Except.ok.inj h
          exact Target.steady_const none

end Question

end HsaModule
