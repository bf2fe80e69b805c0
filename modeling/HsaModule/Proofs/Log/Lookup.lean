import HsaModule.Proofs.Binary.Lookup
import HsaModule.Proofs.Log.Line

namespace HsaModule

/-- Queries that are made one after the other leave their lines one after the other, where each
query has at most the line that goes with its place and its result. -/
theorem Logged.flatMap_log_eq {ε α : Type} (line? : Nat → Except ε α → Option (Level × String))
    {queries : List (Logged ε α)} {start : Nat}
    (h : ∀ i x, queries[i]? = some x → x.log = (line? (start + i) x.result).toList) :
    queries.flatMap log =
      (queries.zipIdx start).filterMap fun item => line? item.2 item.1.result := by
  induction queries generalizing start with
  | nil => rfl
  | cons x rest ih =>
      have hfirst : x.log = (line? start x.result).toList := h 0 x rfl
      have hrest := @ih (start + 1) fun i y hy => by
        rw [Nat.add_right_comm]
        exact h (i + 1) y hy
      rw [List.flatMap_cons, hfirst, hrest, List.zipIdx_cons, List.filterMap_cons]
      cases line? start x.result with
      | none => rfl
      | some line => rfl

namespace Binary.Module

def lookupLine? (index : UInt32) : Except Error Section → Option (Level × String)
  | .ok s => some
      (.trace, "section " ++ toString index.toNat ++ " at offset " ++ hexText s.offset.toNat)
  | .error _ => none

theorem log_sectionAt (m : Module) (index : UInt32) :
    (m.sectionAt index).log = (lookupLine? index (m.sectionAt index).result).toList := by
  rw [sectionAt]
  split
  case isFalse => rfl
  case isTrue =>
      cases hentry : m.entry index with
      | error e => rfl
      | ok offset =>
          change (ite _ _ _ : Logged Error Section).log =
            (lookupLine? index (ite _ _ _ : Logged Error Section).result).toList
          split
          · rfl
          · rfl

theorem firstSections_eq_take (m : Module) (n : Nat) :
    m.firstSections n = m.sections.take n := by
  rw [firstSections, sections, firstSections, Nat.min_self, ← List.map_take, List.take_range]

theorem eq_sectionAt_of_getElem? {m : Module} {i : Nat} {x : Logged Error Section}
    (h : m.sections[i]? = some x) : x = m.sectionAt (UInt32.ofNat i) := by
  obtain ⟨hi, -⟩ := List.getElem?_eq_some_iff.1 h
  rw [length_sections] at hi
  rw [getElem?_sections hi] at h
  exact (Option.some.inj h).symm

structure LookupsLogged (m : Module) : Prop where
  found {index : UInt32} {s : Section} : (m.sectionAt index).result = .ok s →
    (m.sectionAt index).log =
      [(.trace, "section " ++ toString index.toNat ++ " at offset " ++ hexText s.offset.toNat)]
  notFound {index : UInt32} {e : Error} : (m.sectionAt index).result = .error e →
    (m.sectionAt index).log = []
  first (n : Nat) : m.firstSections n = m.sections.take n
  walk (n : Nat) : (m.firstSections n).flatMap Logged.log =
    (m.firstSections n).zipIdx.filterMap fun item =>
      lookupLine? (UInt32.ofNat item.2) item.1.result

theorem lookupsLogged (m : Module) : m.LookupsLogged where
  found h := by
    rw [log_sectionAt, h]
    rfl
  notFound h := by
    rw [log_sectionAt, h]
    rfl
  first := m.firstSections_eq_take
  walk n := by
    rw [firstSections_eq_take]
    apply Logged.flatMap_log_eq fun i => lookupLine? (UInt32.ofNat i)
    intro i x hx
    rw [List.getElem?_take] at hx
    split at hx
    case isFalse => cases hx
    case isTrue =>
        obtain rfl := eq_sectionAt_of_getElem? hx
        rw [Nat.zero_add]
        exact log_sectionAt m (UInt32.ofNat i)

end Binary.Module

end HsaModule
