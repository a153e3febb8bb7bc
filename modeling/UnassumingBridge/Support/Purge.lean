import UnassumingBridge.Support.Machine
import Mathlib.Data.List.Forall2

/-! # Two runs, one with events removed

`outputs` runs a list of events until the machine crashes and says what each of
them returned. Removing the events that some classification picks leaves the
outputs of the others alone when an unwinding relation holds between the states
of the two runs.
-/

namespace Support

section Pick

variable {α β : Type}

/-- The entries of a list that a mask marks. -/
def pick : List Bool → List α → List α
  | true :: mask, a :: l => a :: pick mask l
  | false :: mask, _ :: l => pick mask l
  | _, _ => []

theorem pick_replicate (a : β) (mask : List Bool) (l : List α) :
    pick mask (List.replicate l.length a) = List.replicate (pick mask l).length a := by
  induction mask generalizing l with
  | nil => cases l <;> rfl
  | cons b mask ih =>
      cases l with
      | nil => cases b <;> rfl
      | cons c l =>
          cases b with
          | true => simpa [pick, List.replicate_succ] using ih l
          | false => simpa [pick, List.replicate_succ] using ih l

end Pick

variable {σ ε ρ φ : Type}

namespace Machine

variable (M : Machine σ ε ρ φ)

/-- The state after an event; a crash leaves the state as it was. -/
def next (s : σ) (e : ε) : σ :=
  match M.exec s e with
  | .ok (s', _) => s'
  | .error _ => s

/-- What the events of a list return: nothing from the first crash on. -/
def outputs : σ → List ε → List (Option ρ)
  | _, [] => []
  | s, e :: es =>
      match M.exec s e with
      | .ok (s', r) => some r :: outputs s' es
      | .error _ => none :: List.replicate es.length none

/-- The state after the events of a list, or before the one that crashes. -/
def after : σ → List ε → σ
  | s, [] => s
  | s, e :: es =>
      match M.exec s e with
      | .ok (s', _) => after s' es
      | .error _ => s

/-- Which events of a list stay when those that `drop` picks are removed. -/
def kept (drop : σ → ε → Bool) : σ → List ε → List Bool
  | _, [] => []
  | s, e :: es => (!drop s e) :: kept drop (M.next s e) es

/-- Every event that is executed meets the guard where it is executed. -/
def Along (C : σ → ε → Prop) : σ → List ε → Prop
  | _, [] => True
  | s, e :: es =>
      C s e ∧
        match M.exec s e with
        | .ok (s', _) => Along C s' es
        | .error _ => True

instance decidableAlong (C : σ → ε → Prop) [∀ s e, Decidable (C s e)] :
    ∀ (es : List ε) (s : σ), Decidable (M.Along C s es)
  | [], _ => .isTrue trivial
  | e :: es, s =>
      let rest : (out : Except φ (σ × ρ)) → Decidable (match out with
          | .ok (s', _) => M.Along C s' es
          | .error _ => True)
        | .ok (s', _) => decidableAlong C es s'
        | .error _ => .isTrue trivial
      @instDecidableAnd _ _ _ (rest (M.exec s e))

/-- A removed event that meets the guard does not crash and changes nothing that the
    relation looks at; events that are alike do the same in related states. -/
structure Unwinding (drop : σ → ε → Bool) (like : ε → ε → Prop) (C : σ → ε → Prop) (R : σ → σ → Prop) :
    Prop where
  dropped s s' e : R s s' → drop s e = true → C s e → ∃ s₁ r, M.exec s e = .ok (s₁, r) ∧ R s₁ s'
  same s s' e e' : R s s' → drop s e = false → like e e' →
    (∃ s₁ s₁' r, M.exec s e = .ok (s₁, r) ∧ M.exec s' e' = .ok (s₁', r) ∧ R s₁ s₁') ∨
    ∃ f f', M.exec s e = .error f ∧ M.exec s' e' = .error f'

variable {M} {drop : σ → ε → Bool} {like : ε → ε → Prop} {C : σ → ε → Prop} {R : σ → σ → Prop}

theorem along_trivial (s : σ) (es : List ε) : M.Along (fun _ _ => True) s es := by
  induction es generalizing s with
  | nil => trivial
  | cons e es ih =>
      refine ⟨trivial, ?_⟩
      cases M.exec s e with
      | error f => trivial
      | ok out => exact ih out.1

/-- Without the removed events the others return what they returned with them. -/
theorem Unwinding.outputs (U : M.Unwinding drop like C R) {s s' : σ} {es es' : List ε} (related : R s s')
    (along : M.Along C s es) (purged : List.Forall₂ like (pick (M.kept drop s es) es) es') :
    M.outputs s' es' = pick (M.kept drop s es) (M.outputs s es) := by
  induction es generalizing s s' es' with
  | nil =>
      cases purged
      rfl
  | cons e es ih =>
      obtain ⟨guard, later⟩ := along
      cases removed : drop s e with
      | true =>
          obtain ⟨s₁, r, done, still⟩ := U.dropped s s' e related removed guard
          have next : M.next s e = s₁ := by simp only [Machine.next, done]
          simp only [done] at later
          simp only [kept, removed, next, pick, Bool.not_true] at purged
          simp only [Machine.outputs, kept, removed, next, pick, Bool.not_true, done]
          exact ih still later purged
      | false =>
          simp only [kept, removed, pick, Bool.not_false] at purged
          cases purged with
          | @cons _ e' _ rest alike others =>
              rcases U.same s s' e e' related removed alike with
                ⟨s₁, s₁', r, done, done', still⟩ | ⟨f, f', failed, failed'⟩
              · have next : M.next s e = s₁ := by simp only [Machine.next, done]
                simp only [done] at later
                rw [next] at others
                simp only [Machine.outputs, kept, removed, next, pick, Bool.not_false, done, done']
                exact congrArg (some r :: ·) (ih still later others)
              · simp only [Machine.outputs, kept, removed, pick, Bool.not_false, failed, failed', pick_replicate]
                rw [others.length_eq]

/-- Without the removed events the run ends in a related state. -/
theorem Unwinding.after (U : M.Unwinding drop like C R) {s s' : σ} {es es' : List ε} (related : R s s')
    (along : M.Along C s es) (purged : List.Forall₂ like (pick (M.kept drop s es) es) es') :
    R (M.after s es) (M.after s' es') := by
  induction es generalizing s s' es' with
  | nil =>
      cases purged
      exact related
  | cons e es ih =>
      obtain ⟨guard, later⟩ := along
      cases removed : drop s e with
      | true =>
          obtain ⟨s₁, r, done, still⟩ := U.dropped s s' e related removed guard
          have next : M.next s e = s₁ := by simp only [Machine.next, done]
          simp only [done] at later
          simp only [kept, removed, next, pick, Bool.not_true] at purged
          simp only [Machine.after, done]
          exact ih still later purged
      | false =>
          simp only [kept, removed, pick, Bool.not_false] at purged
          cases purged with
          | @cons _ e' _ rest alike others =>
              rcases U.same s s' e e' related removed alike with
                ⟨s₁, s₁', r, done, done', still⟩ | ⟨f, f', failed, failed'⟩
              · have next : M.next s e = s₁ := by simp only [Machine.next, done]
                simp only [done] at later
                rw [next] at others
                simp only [Machine.after, done, done']
                exact ih still later others
              · simp only [Machine.after, failed, failed']
                exact related

end Machine
end Support
