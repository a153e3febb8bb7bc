import Mathlib.Tactic.Common

/-! # Computations with a log and a crash

`Logged ω ε α` is a computation that emits observations of type `ω` and ends
either in a value or in a crash. The log survives the crash: what was emitted
before it has happened.
-/

namespace Support

/-- A computation that makes observations on its way and ends in a value or an error. -/
structure Logged (ω ε α : Type) where
  log : List ω
  res : Except ε α

namespace Logged

variable {ω ε α β : Type}

def bind (x : Logged ω ε α) (f : α → Logged ω ε β) : Logged ω ε β :=
  match x.res with
  | .ok a => ⟨x.log ++ (f a).log, (f a).res⟩
  | .error e => ⟨x.log, .error e⟩

instance : Monad (Logged ω ε) where
  pure a := ⟨[], .ok a⟩
  bind := bind

/-- Emit one observation. -/
def emit (w : ω) : Logged ω ε Unit := ⟨[w], .ok ()⟩

/-- A computation without observations. -/
def lift (x : Except ε α) : Logged ω ε α := ⟨[], x⟩

instance : MonadLift (Except ε) (Logged ω ε) := ⟨lift⟩

@[simp] theorem pure_log (a : α) : (pure a : Logged ω ε α).log = [] := rfl

@[simp] theorem pure_res (a : α) : (pure a : Logged ω ε α).res = .ok a := rfl

@[simp] theorem lift_res (x : Except ε α) : (lift x : Logged ω ε α).res = x := rfl

@[simp] theorem emit_log (w : ω) : (emit w : Logged ω ε Unit).log = [w] := rfl

theorem bind_ok {x : Logged ω ε α} {a : α} (h : x.res = .ok a) (f : α → Logged ω ε β) :
    (x >>= f) = ⟨x.log ++ (f a).log, (f a).res⟩ := by
  change bind x f = _
  simp only [bind, h]

theorem bind_error {x : Logged ω ε α} {e : ε} (h : x.res = .error e) (f : α → Logged ω ε β) :
    (x >>= f) = ⟨x.log, .error e⟩ := by
  change bind x f = _
  simp only [bind, h]

@[simp] theorem lift_ok_bind (a : α) (f : α → Logged ω ε β) :
    ((lift (.ok a) : Logged ω ε α) >>= f) = f a := by
  rw [bind_ok (lift_res _)]
  rfl

@[simp] theorem pure_bind (a : α) (f : α → Logged ω ε β) : ((pure a : Logged ω ε α) >>= f) = f a := by
  rw [bind_ok (pure_res a)]
  rfl

theorem bind_assoc {γ : Type} (x : Logged ω ε α) (f : α → Logged ω ε β) (g : β → Logged ω ε γ) :
    (x >>= f >>= g) = (x >>= fun a => f a >>= g) := by
  cases hx : x.res with
  | error e =>
      have stopped : (x >>= f).res = .error e := by rw [bind_error hx]
      rw [bind_error stopped, bind_error hx, bind_error hx]
  | ok a =>
      rw [bind_ok hx fun a => f a >>= g]
      cases hf : (f a).res with
      | error e =>
          have stopped : (x >>= f).res = .error e := by rw [bind_ok hx, hf]
          rw [bind_error stopped, bind_error hf, bind_ok hx]
      | ok b =>
          have carried : (x >>= f).res = .ok b := by rw [bind_ok hx, hf]
          rw [bind_ok carried, bind_ok hf, bind_ok hx, List.append_assoc]

@[simp] theorem bind_pure_log (x : Logged ω ε α) (f : α → β) : (x >>= fun a => pure (f a)).log = x.log := by
  cases hx : x.res with
  | error e => rw [bind_error hx]
  | ok a => rw [bind_ok hx, pure_log, List.append_nil]

theorem mem_log_bind {x : Logged ω ε α} {f : α → Logged ω ε β} {w : ω} (h : w ∈ (x >>= f).log) :
    w ∈ x.log ∨ ∃ a, x.res = .ok a ∧ w ∈ (f a).log := by
  cases hx : x.res with
  | error e =>
      rw [bind_error hx] at h
      exact .inl h
  | ok a =>
      rw [bind_ok hx] at h
      rcases List.mem_append.mp h with first | second
      · exact .inl first
      · exact .inr ⟨a, rfl, second⟩

/-- A bind that ends in a value ran both parts to a value. -/
theorem res_bind_eq_ok {x : Logged ω ε α} {f : α → Logged ω ε β} {b : β}
    (h : (x >>= f).res = .ok b) : ∃ a, x.res = .ok a ∧ (f a).res = .ok b := by
  cases hx : x.res with
  | error e =>
      rw [bind_error hx] at h
      cases h
  | ok a =>
      rw [bind_ok hx] at h
      exact ⟨a, rfl, h⟩

/-- Every observation is of this kind. -/
def Every (p : ω → Prop) (x : Logged ω ε α) : Prop := ∀ w ∈ x.log, p w

section Every

variable {p : ω → Prop}

theorem Every.of_nil {x : Logged ω ε α} (silent : x.log = []) : Every p x := by
  intro w inside
  rw [silent] at inside
  cases inside

theorem Every.pure (a : α) : Every p (pure a : Logged ω ε α) := .of_nil rfl

theorem Every.lift (x : Except ε α) : Every p (lift x : Logged ω ε α) := .of_nil rfl

theorem Every.emit {w : ω} (holds : p w) : Every p (emit w : Logged ω ε Unit) := by
  intro w' inside
  rw [List.mem_singleton.mp inside]
  exact holds

theorem Every.bind {x : Logged ω ε α} {f : α → Logged ω ε β} (first : Every p x)
    (rest : ∀ a, x.res = .ok a → Every p (f a)) : Every p (x >>= f) := by
  intro w inside
  rcases mem_log_bind inside with here | ⟨a, res, later⟩
  · exact first w here
  · exact rest a res w later

end Every

theorem mem_log_left {x : Logged ω ε α} {w : ω} (inside : w ∈ x.log) (f : α → Logged ω ε β) : w ∈ (x >>= f).log := by
  cases hx : x.res with
  | error e => rwa [bind_error hx]
  | ok a =>
      rw [bind_ok hx]
      exact List.mem_append_left _ inside

section Translate

variable {ω' : Type} (f : ω → Option ω')

/-- The same computation seen through a translation of its observations. -/
def filterMap (x : Logged ω ε α) : Logged ω' ε α := ⟨x.log.filterMap f, x.res⟩

theorem filterMap_bind (x : Logged ω ε α) (k : α → Logged ω ε β) :
    (x >>= k).filterMap f = (x.filterMap f >>= fun a => (k a).filterMap f) := by
  cases hx : x.res with
  | error e =>
      have seen : (x.filterMap f).res = .error e := hx
      rw [bind_error hx, bind_error seen]
      rfl
  | ok a =>
      have seen : (x.filterMap f).res = .ok a := hx
      rw [bind_ok hx, bind_ok seen]
      simp only [filterMap, List.filterMap_append]

@[simp] theorem filterMap_pure (a : α) : (pure a : Logged ω ε α).filterMap f = pure a := rfl

@[simp] theorem filterMap_lift (x : Except ε α) : (lift x : Logged ω ε α).filterMap f = lift x := rfl

/-- An observation that is not translated leaves no trace. -/
theorem filterMap_emit_bind {w : ω} (silent : f w = none) (k : Unit → Logged ω ε β) :
    (emit w >>= k).filterMap f = (k ()).filterMap f := by
  rw [bind_ok rfl]
  simp [filterMap, silent]

theorem filterMap_emit {w : ω} {v : ω'} (seen : f w = some v) :
    (emit w : Logged ω ε Unit).filterMap f = emit v := by
  simp [filterMap, emit, seen]

end Translate

end Logged

theorem ok_of_toOption {ε α : Type} {x : Except ε α} {a : α} (h : x.toOption = some a) : x = .ok a := by
  cases x with
  | error e => cases h
  | ok b =>
      cases h
      rfl

/-- The same inversion for computations without a log. -/
theorem except_bind_eq_ok {ε α β : Type} {x : Except ε α} {f : α → Except ε β} {b : β}
    (h : (x >>= f) = .ok b) : ∃ a, x = .ok a ∧ f a = .ok b := by
  cases x with
  | error e => cases h
  | ok a => exact ⟨a, rfl, h⟩

theorem except_bind_eq_error {ε α β : Type} {x : Except ε α} {f : α → Except ε β} {e : ε}
    (h : (x >>= f) = .error e) : x = .error e ∨ ∃ a, x = .ok a ∧ f a = .error e := by
  cases x with
  | error d =>
      cases h
      exact .inl rfl
  | ok a => exact .inr ⟨a, rfl, h⟩

end Support
