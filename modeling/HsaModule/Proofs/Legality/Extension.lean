import HsaModule.Proofs.Legality.Question
import Mathlib.Data.List.Basic

namespace HsaModule

def Question.Passes (q : Question) (t : Target) : Prop := (q.ask t).result = .ok ()

namespace Extensions

theorem ext_has {e f : Extensions} (h : ∀ n, e.Has n ↔ f.Has n) : e = f := by
  cases e with
  | mk a =>
      cases f with
      | mk b =>
          have hab : a = b := by
            apply UInt32.toNat_inj.1
            apply Nat.eq_of_testBit_eq
            intro n
            exact Bool.eq_iff_iff.2 (h n)
          rw [hab]

theorem has_union_iff {e f : Extensions} {n : Nat} :
    (e.union f).Has n ↔ e.Has n ∨ f.Has n := by
  rw [Has, union, UInt32.toNat_or, Nat.testBit_or, Bool.or_eq_true]
  rfl

end Extensions

namespace Target

def run (t : Target) (steps : List Extensions) : Target := steps.foldl extend t

theorem run_cons (t : Target) (e : Extensions) (steps : List Extensions) :
    t.run (e :: steps) = (t.extend e).run steps := rfl

theorem run_append (t : Target) (front back : List Extensions) :
    t.run (front ++ back) = (t.run front).run back := List.foldl_append

theorem model_run (t : Target) (steps : List Extensions) : (t.run steps).model = t.model := by
  induction steps generalizing t with
  | nil => rfl
  | cons e steps ih => exact ih (t.extend e)

theorem profile_run (t : Target) (steps : List Extensions) :
    (t.run steps).profile = t.profile := by
  induction steps generalizing t with
  | nil => rfl
  | cons e steps ih => exact ih (t.extend e)

theorem has_run_iff (t : Target) (steps : List Extensions) (n : Nat) :
    (t.run steps).extensions.Has n ↔ t.extensions.Has n ∨ ∃ e ∈ steps, e.Has n := by
  induction steps generalizing t with
  | nil => simp [run]
  | cons e steps ih =>
      rw [run_cons, ih, extend, Extensions.has_union_iff, List.exists_mem_cons_iff, or_assoc]

theorem hasImage_extend {t : Target} (e : Extensions) (h : t.hasImage) :
    (t.extend e).hasImage := by
  rw [hasImage_iff] at h ⊢
  exact Extensions.has_union_iff.2 (.inl h)

theorem eq_of_has {t t' : Target} (hmodel : t.model = t'.model) (hprofile : t.profile = t'.profile)
    (hbits : ∀ n, t.extensions.Has n ↔ t'.extensions.Has n) : t = t' := by
  cases t with
  | mk model profile extensions =>
      cases t' with
      | mk model' profile' extensions' =>
          obtain rfl : model = model' := hmodel
          obtain rfl : profile = profile' := hprofile
          obtain rfl : extensions = extensions' := Extensions.ext_has hbits
          rfl

theorem passes_extend {t : Target} {q : Question} (e : Extensions) (h : q.Passes t) :
    q.Passes (t.extend e) := by
  rw [Question.Passes, Question.ask_eq_ok_iff] at h ⊢
  rcases h with hfull | ⟨o, ho, hnone⟩
  · exact .inl hfull
  · have hmodel : t.model = (t.extend e).model := rfl
    have hsteady := Question.steady_objection ho
    exact .inr ⟨o, ho, hsteady.eq_none hmodel (hasImage_extend e) hnone⟩

theorem passes_run {t : Target} {q : Question} (steps : List Extensions) (h : q.Passes t) :
    q.Passes (t.run steps) := by
  induction steps generalizing t with
  | nil => exact h
  | cons e steps ih => exact ih (passes_extend e h)

/-- What a run that enables extensions changes: bits are added, all of them and in whatever order,
and what passes at some point of the run passes at every later one. -/
structure OnlyEnables (t : Target) (steps : List Extensions) : Prop where
  model : (t.run steps).model = t.model
  profile : (t.run steps).profile = t.profile
  bits (n : Nat) :
    (t.run steps).extensions.Has n ↔ t.extensions.Has n ∨ ∃ e ∈ steps, e.Has n
  order (steps' : List Extensions) : (∀ e, e ∈ steps' ↔ e ∈ steps) → t.run steps' = t.run steps
  passes (q : Question) (m n : Nat) : m ≤ n →
    q.Passes (t.run (steps.take m)) → q.Passes (t.run (steps.take n))

theorem onlyEnables_run (t : Target) (steps : List Extensions) : t.OnlyEnables steps where
  model := model_run t steps
  profile := profile_run t steps
  bits := has_run_iff t steps
  order steps' hsteps := by
    apply eq_of_has
    · rw [model_run, model_run]
    · rw [profile_run, profile_run]
    · intro n
      simp only [has_run_iff, hsteps]
  passes q m n hle hpass := by
    have hsplit : steps.take n = steps.take m ++ (steps.drop m).take (n - m) := by
      rw [← List.take_add, Nat.add_sub_cancel' hle]
    rw [hsplit, run_append]
    exact passes_run _ hpass

end Target

/-- What targets share of their answers: the full profile lets pass what the base profile does,
extensions beside images do not matter, and base targets agree on what is malformed. -/
structure Question.Uniform (q : Question) : Prop where
  full (t t' : Target) : t.profile = .base → t'.profile = .full → t.model = t'.model →
    q.Passes t → q.Passes t'
  image (t t' : Target) : t.model = t'.model → t.profile = t'.profile →
    (t.extensions.Has 0 ↔ t'.extensions.Has 0) → q.ask t = q.ask t'
  contract (t t' : Target) (v : ContractViolation) : t.profile = .base → t'.profile = .base →
    ((q.ask t).result = .error (.contract v) ↔ (q.ask t').result = .error (.contract v))

theorem Question.uniform (q : Question) : q.Uniform where
  full t t' _ hfull _ _ := ask_eq_ok_iff.2 (.inl hfull)
  image t t' hmodel hprofile hbits := by
    have himage : t.hasImage = t'.hasImage := by
      rw [Bool.eq_iff_iff, Target.hasImage_iff, Target.hasImage_iff, hbits]
    rw [ask_eq, ask_eq, hprofile]
    congr 1
    apply Logged.bind_congr
    intro o ho
    have ho' := except_mapError_eq_ok_iff.1 ho
    rw [(steady_objection ho').congr hmodel himage]
  contract t t' v ht ht' := by
    rw [ask_eq_contract_iff ht, ask_eq_contract_iff ht']

/-- Enabling extensions never takes a pass back, however it is done; and two targets differ in
their answers only as far as model, profile and images are concerned. -/
theorem Target.enabling_keeps_passes (t : Target) (steps : List Extensions) (q : Question) :
    t.OnlyEnables steps ∧ q.Uniform :=
  ⟨t.onlyEnables_run steps, q.uniform⟩

theorem enabling_keeps_passes_readOnlyImage :
    let t : Target := { model := .small, profile := .base }
    let steps : List Extensions := [⟨6⟩, .image, ⟨0x80000000⟩]
    let q : Question := .property .imageType 19
    ¬ q.Passes (t.run (steps.take 1)) ∧ q.Passes (t.run (steps.take 2)) ∧ 2 ≤ 3 ∧
      q.Passes (t.run (steps.take 3)) := by
  intro t steps q
  have hpass : q.Passes (t.run (steps.take 2)) := by
    rw [Question.Passes]
    decide +kernel
  refine ⟨?_, hpass, by decide, ?_⟩
  · rw [Question.Passes]
    decide +kernel
  · exact (Target.enabling_keeps_passes t steps q).1.passes q 2 3 (by decide) hpass

end HsaModule
