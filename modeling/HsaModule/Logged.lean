import HsaModule.Notice

/-!
Queries that issue notices. A query ends in a value or an error and keeps every notice issued on
the way, in order; an error ends it, so nothing after the error is noticed.
-/

namespace HsaModule

structure Logged (ε α : Type) where
  result : Except ε α
  notices : List Notice := []

namespace Logged

variable {ε ε' α β : Type}

def bind (x : Logged ε α) (f : α → Logged ε β) : Logged ε β :=
  match x.result with
  | .ok a => { result := (f a).result, notices := x.notices ++ (f a).notices }
  | .error e => { result := .error e, notices := x.notices }

instance : Monad (Logged ε) where
  pure a := { result := .ok a }
  bind := bind

def fail (e : ε) : Logged ε α := { result := .error e }

def refuse (n : Notice) (e : ε) : Logged ε α := { result := .error e, notices := [n] }

def notice (n : Notice) : Logged ε Unit := { result := .ok (), notices := [n] }

def ofExcept (x : Except ε α) : Logged ε α := { result := x }

def mapError (f : ε → ε') (x : Logged ε α) : Logged ε' α :=
  { result := x.result.mapError f, notices := x.notices }

/-- Goes on whatever the outcome, which becomes the value. -/
def attempt (x : Logged ε α) : Logged ε' (Except ε α) :=
  { result := .ok x.result, notices := x.notices }

@[simp] theorem result_pure (a : α) : (pure a : Logged ε α).result = .ok a := rfl

@[simp] theorem notices_pure (a : α) : (pure a : Logged ε α).notices = [] := rfl

@[simp] theorem result_fail (e : ε) : (fail e : Logged ε α).result = .error e := rfl

@[simp] theorem notices_fail (e : ε) : (fail e : Logged ε α).notices = [] := rfl

@[simp] theorem result_refuse (n : Notice) (e : ε) :
    (refuse n e : Logged ε α).result = .error e := rfl

@[simp] theorem notices_refuse (n : Notice) (e : ε) :
    (refuse n e : Logged ε α).notices = [n] := rfl

@[simp] theorem result_mapError (f : ε → ε') (x : Logged ε α) :
    (x.mapError f).result = x.result.mapError f := rfl

@[simp] theorem notices_mapError (f : ε → ε') (x : Logged ε α) :
    (x.mapError f).notices = x.notices := rfl

theorem bind_of_ok {x : Logged ε α} {a : α} (h : x.result = .ok a) (f : α → Logged ε β) :
    x >>= f = { result := (f a).result, notices := x.notices ++ (f a).notices } := by
  show bind x f = _
  rw [bind, h]

theorem bind_of_error {x : Logged ε α} {e : ε} (h : x.result = .error e)
    (f : α → Logged ε β) : x >>= f = { result := .error e, notices := x.notices } := by
  show bind x f = _
  rw [bind, h]

@[simp] theorem result_bind (x : Logged ε α) (f : α → Logged ε β) :
    (x >>= f).result = x.result.bind fun a => (f a).result := by
  cases h : x.result with
  | ok a => rw [bind_of_ok h]; rfl
  | error e => rw [bind_of_error h]; rfl

end Logged

end HsaModule
