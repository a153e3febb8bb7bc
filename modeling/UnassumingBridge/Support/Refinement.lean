import UnassumingBridge.Support.Machine
import Mathlib.Data.List.Forall2

/-! # Refinement of machines

A guarded machine refines another one when a relation of their states is kept: the
machine executes what it may, and each of its steps is one step of the other machine
that gives an answer of the same meaning.
-/

namespace Support

variable {σ ε ρ φ α β γ ψ : Type}

/-- How steps of one machine are read as steps of another. -/
structure Reading (σ ε ρ α β γ : Type) where
  /-- The states that mean the same. -/
  same : σ → α → Prop
  event : σ → ε → β
  answer : ρ → γ → Prop

/-- A machine does what an abstract one does, as long as its events meet the guard. -/
structure Refines (M : Machine σ ε ρ φ) (C : σ → ε → Prop) (A : Machine α β γ ψ)
    (read : Reading σ ε ρ α β γ) : Prop where
  start : ∀ s, M.Init s → ∃ a, A.Init a ∧ read.same s a
  step : ∀ tr s a e, Run M C tr s → read.same s a → M.Enabled s e → C s e → A.Enabled a (read.event s e) ∧
    ∃ s' r a' c, M.exec s e = .ok (s', r) ∧ A.exec a (read.event s e) = .ok (a', c) ∧
      read.answer r c ∧ read.same s' a'

/-- The second transition is what the first one means. -/
structure Reading.Matches (read : Reading σ ε ρ α β γ) (t : Transition σ ε ρ) (u : Transition α β γ) : Prop where
  pre : read.same t.pre u.pre
  event : u.event = read.event t.pre t.event
  answer : read.answer t.ret u.ret
  post : read.same t.post u.post

namespace Refines

variable {M : Machine σ ε ρ φ} {C : σ → ε → Prop} {A : Machine α β γ ψ} {read : Reading σ ε ρ α β γ}

/-- Every guarded run is a run of the other machine, transition by transition. -/
theorem run (refines : Refines M C A read) {tr s} (run : Run M C tr s) :
    ∃ tr' a, Run A (fun _ _ => True) tr' a ∧ read.same s a ∧ List.Forall₂ read.Matches tr tr' := by
  induction run with
  | init start =>
      obtain ⟨a, begins, same⟩ := refines.start _ start
      exact ⟨[], a, .init begins, same, .nil⟩
  | @step tr s e s' r before enabled guard executed ih =>
      obtain ⟨tr', a, other, same, alike⟩ := ih
      obtain ⟨enabled', t, r', a', c, done, done', answer, same'⟩ := refines.step tr s a e before same enabled guard
      cases executed.symm.trans done
      exact ⟨_, a', .step other enabled' trivial done', same', .cons ⟨same, rfl, answer, same'⟩ alike⟩

/-- A guarded run can always go on. -/
theorem never_stuck (refines : Refines M C A read) {tr s} (run : Run M C tr s) {e : ε} (enabled : M.Enabled s e)
    (guard : C s e) : ∃ s' r, M.exec s e = .ok (s', r) := by
  obtain ⟨_, a, _, same, _⟩ := refines.run run
  obtain ⟨_, s', r, _, _, done, _⟩ := refines.step tr s a e run same enabled guard
  exact ⟨s', r, done⟩

end Refines
end Support
