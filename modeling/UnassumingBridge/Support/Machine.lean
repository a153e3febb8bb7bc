import Mathlib.Tactic.Common

/-! # Guarded runs of a machine that can crash

A machine takes events from outside. An event is enabled or not, and executing
it ends in a new state and a returned value, or in a crash after which nothing
more is said. A run records its transitions, newest first, so that what a state
means can refer to how it was reached. The guard `C` limits the steps that a
run takes; `Reachable` puts no limit on them.
-/

namespace Support

/-- A state machine: its initial states, the events that can happen, and what they do. -/
structure Machine (σ ε ρ φ : Type) where
  Init : σ → Prop
  Enabled : σ → ε → Prop
  exec : σ → ε → Except φ (σ × ρ)

/-- One executed event. -/
structure Transition (σ ε ρ : Type) where
  pre : σ
  event : ε
  ret : ρ
  post : σ

variable {σ ε ρ φ : Type}

/-- Runs all of whose steps meet the guard, with their transitions newest first. -/
inductive Run (M : Machine σ ε ρ φ) (C : σ → ε → Prop) : List (Transition σ ε ρ) → σ → Prop where
  | init {s} : M.Init s → Run M C [] s
  | step {tr s e s' r} : Run M C tr s → M.Enabled s e → C s e → M.exec s e = .ok (s', r) →
      Run M C (⟨s, e, r, s'⟩ :: tr) s'

/-- The states that some run reaches, whatever its steps. -/
def Reachable (M : Machine σ ε ρ φ) (s : σ) : Prop := ∃ tr, Run M (fun _ _ => True) tr s

namespace Run

variable {M : Machine σ ε ρ φ} {C D : σ → ε → Prop}

theorem mono (weaker : ∀ s e, C s e → D s e) {tr s} (run : Run M C tr s) : Run M D tr s := by
  induction run with
  | init h => exact .init h
  | step _ enabled guard executed ih => exact .step ih enabled (weaker _ _ guard) executed

theorem reachable {tr s} (run : Run M C tr s) : Reachable M s :=
  ⟨tr, run.mono fun _ _ _ => trivial⟩

/-- A property of histories and states that holds initially and is kept by every
    guarded step holds at the end of every guarded run. The step may use what is
    already known of guarded runs. -/
theorem invariant {I : List (Transition σ ε ρ) → σ → Prop}
    (start : ∀ s, M.Init s → I [] s)
    (keep : ∀ tr s e s' r, Run M C tr s → I tr s → M.Enabled s e → C s e → M.exec s e = .ok (s', r) →
      I (⟨s, e, r, s'⟩ :: tr) s')
    {tr s} (run : Run M C tr s) : I tr s := by
  induction run with
  | init h => exact start _ h
  | step before enabled guard executed ih => exact keep _ _ _ _ _ before ih enabled guard executed

/-- The last transition of a run starts in the state reached by the run before it. -/
theorem uncons {t tr s} (run : Run M C (t :: tr) s) :
    Run M C tr t.pre ∧ M.Enabled t.pre t.event ∧ C t.pre t.event ∧
      M.exec t.pre t.event = .ok (t.post, t.ret) ∧ s = t.post := by
  cases run with
  | step before enabled guard executed => exact ⟨before, enabled, guard, executed, rfl⟩

theorem upTo {t before tr s} (run : Run M C tr s) (part : (t :: before) <:+ tr) : Run M C (t :: before) t.post := by
  induction run with
  | init => simp at part
  | step earlier enabled guard executed ih =>
      rcases List.suffix_cons_iff.mp part with whole | inside
      · cases whole
        exact .step earlier enabled guard executed
      · exact ih inside

theorem guarded {tr s} (run : Run M C tr s) (meets : ∀ t ∈ tr, D t.pre t.event) : Run M D tr s := by
  induction run with
  | init start => exact .init start
  | step earlier enabled guard executed ih =>
      refine .step (ih fun t inside => meets t (List.mem_cons_of_mem _ inside)) enabled ?_ executed
      exact meets _ List.mem_cons_self

end Run

theorem Reachable.invariant {M : Machine σ ε ρ φ} {I : σ → Prop}
    (start : ∀ s, M.Init s → I s)
    (keep : ∀ s e s' r, I s → M.Enabled s e → M.exec s e = .ok (s', r) → I s')
    {s} (reached : Reachable M s) : I s := by
  obtain ⟨tr, run⟩ := reached
  exact run.invariant (I := fun _ s => I s) start fun _ s e s' r _ h enabled _ => keep s e s' r h enabled

namespace Machine

variable (M : Machine σ ε ρ φ) (C : σ → ε → Prop)
  [∀ s e, Decidable (M.Enabled s e)] [∀ s e, Decidable (C s e)]

/-- Play a list of events, oldest first; `none` when one is not enabled, breaks
    the guard or crashes. -/
def play : List ε → List (Transition σ ε ρ) × σ → Option (List (Transition σ ε ρ) × σ)
  | [], at_ => some at_
  | e :: es, (tr, s) =>
      if M.Enabled s e ∧ C s e then
        match M.exec s e with
        | .ok (s', r) => play es (⟨s, e, r, s'⟩ :: tr, s')
        | .error _ => none
      else none

variable {M C}

theorem run_of_play {es tr s tr' s'} (run : Run M C tr s)
    (played : M.play C es (tr, s) = some (tr', s')) : Run M C tr' s' := by
  induction es generalizing tr s with
  | nil =>
      simp only [play, Option.some.injEq, Prod.mk.injEq] at played
      obtain ⟨rfl, rfl⟩ := played
      exact run
  | cons e es ih =>
      simp only [play] at played
      split at played
      · rename_i allowed
        split at played
        · rename_i next r executed
          exact ih (.step run allowed.1 allowed.2 executed) played
        · cases played
      · cases played

/-- A test passed by the outcome of a play is passed at the end of a run. -/
theorem exists_run_of_play (es : List ε) {s} (start : M.Init s) (test : List (Transition σ ε ρ) → σ → Bool)
    (passed : (M.play C es ([], s)).any (fun out => test out.1 out.2) = true) :
    ∃ tr s', Run M C tr s' ∧ test tr s' = true := by
  obtain ⟨⟨tr, s'⟩, played, tested⟩ := (Option.any_eq_true ..).mp passed
  exact ⟨tr, s', run_of_play (.init start) played, tested⟩

end Machine
end Support
