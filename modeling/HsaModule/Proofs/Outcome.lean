namespace HsaModule

variable {ε ε' α β γ : Type}

theorem except_bind_eq_ok_iff {x : Except ε α} {f : α → Except ε β} {b : β} :
    x.bind f = .ok b ↔ ∃ a, x = .ok a ∧ f a = .ok b := by
  cases x with
  | error e => simp [Except.bind]
  | ok a => simp [Except.bind]

theorem except_bind_eq_error_iff {x : Except ε α} {f : α → Except ε β} {e : ε} :
    x.bind f = .error e ↔ x = .error e ∨ ∃ a, x = .ok a ∧ f a = .error e := by
  cases x with
  | error e' => simp [Except.bind]
  | ok a => simp [Except.bind]

theorem foldlM_cons_eq_ok_iff {f : β → α → Except ε β} {a : α} {l : List α} {b c : β} :
    (a :: l).foldlM f b = .ok c ↔ ∃ next, f b a = .ok next ∧ l.foldlM f next = .ok c := by
  rw [List.foldlM_cons]
  exact except_bind_eq_ok_iff

theorem foldlM_append_of_ok {f : β → α → Except ε β} {l : List α} {b c : β}
    (h : l.foldlM f b = .ok c) (l' : List α) : (l ++ l').foldlM f b = l'.foldlM f c := by
  rw [List.foldlM_append, h]
  rfl

theorem foldlM_append_of_error {f : β → α → Except ε β} {l : List α} {b : β} {e : ε}
    (h : l.foldlM f b = .error e) (l' : List α) : (l ++ l').foldlM f b = .error e := by
  rw [List.foldlM_append, h]
  rfl

theorem except_map_eq_ok_iff {x : Except ε α} {f : α → β} {b : β} :
    x.map f = .ok b ↔ ∃ a, x = .ok a ∧ f a = b := by
  cases x with
  | error e => simp [Except.map]
  | ok a => simp [Except.map]

theorem except_map_eq_error_iff {x : Except ε α} {f : α → β} {e : ε} :
    x.map f = .error e ↔ x = .error e := by
  cases x with
  | error e' => simp [Except.map]
  | ok a => simp [Except.map]

theorem except_mapError_eq_ok_iff {x : Except ε α} {f : ε → ε'} {a : α} :
    x.mapError f = .ok a ↔ x = .ok a := by
  cases x with
  | error e => exact iff_of_false nofun nofun
  | ok b =>
      change Except.ok b = Except.ok a ↔ _
      rw [Except.ok.injEq, Except.ok.injEq]

theorem except_mapError_eq_error_iff {x : Except ε α} {f : ε → ε'} {e' : ε'} :
    x.mapError f = .error e' ↔ ∃ e, x = .error e ∧ f e = e' := by
  cases x with
  | error e =>
      change Except.error (f e) = Except.error e' ↔ _
      simp
  | ok b => exact iff_of_false nofun nofun

theorem except_mapError_map_bind {x : Except ε α} {f : α → β} {g : ε → ε'}
    {h : β → Except ε' γ} :
    ((x.map f).mapError g).bind h = (x.mapError g).bind fun a => h (f a) := by
  cases x with
  | error e => rfl
  | ok a => rfl

inductive FirstFailure : List (Except ε α) → ε → Prop
  | head {e : ε} {rest : List (Except ε α)} : FirstFailure (.error e :: rest) e
  | tail {a : α} {e : ε} {rest : List (Except ε α)} (hrest : FirstFailure rest e) :
      FirstFailure (.ok a :: rest) e

theorem FirstFailure.mem {l : List (Except ε α)} {e : ε} (h : FirstFailure l e) : .error e ∈ l := by
  induction h with
  | head => exact List.mem_cons_self
  | tail _ ih => exact List.mem_cons_of_mem _ ih

theorem mapM_id_eq_error_iff {l : List (Except ε α)} {e : ε} :
    l.mapM id = .error e ↔ FirstFailure l e := by
  induction l with
  | nil =>
      constructor
      · intro h
        cases h
      · intro h
        cases h
  | cons x l ih =>
      rw [List.mapM_cons]
      cases x with
      | error e' =>
          constructor
          · intro h
            obtain rfl := Except.error.inj h
            exact .head
          · intro h
            cases h with
            | head => rfl
      | ok a =>
          have hrest : FirstFailure (.ok a :: l) e ↔ FirstFailure l e := by
            constructor
            · intro h
              cases h with
              | tail hrest => exact hrest
            · exact .tail
          rw [hrest, ← ih]
          exact except_map_eq_error_iff

theorem eq_map_ok_of_mapM_id {l : List (Except ε α)} {as : List α} (h : l.mapM id = .ok as) :
    l = as.map .ok := by
  induction l generalizing as with
  | nil =>
      obtain rfl := Except.ok.inj h
      rfl
  | cons x l ih =>
      rw [List.mapM_cons] at h
      obtain ⟨a, hx, hrest⟩ := except_bind_eq_ok_iff.1 h
      obtain ⟨as', has', rfl⟩ := except_map_eq_ok_iff.1 hrest
      rw [ih has', List.map_cons, ← hx]
      rfl

theorem except_toOption_eq_some_iff {x : Except ε α} {a : α} :
    x.toOption = some a ↔ x = .ok a := by
  cases x with
  | error e => simp [Except.toOption]
  | ok b => simp [Except.toOption]

end HsaModule
