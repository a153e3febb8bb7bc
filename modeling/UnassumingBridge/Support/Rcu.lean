import Mathlib.Data.List.Forall2

/-! # Readers and grace periods

Resources are published, later retired, and reclaimed by a callback that waits for the
readers from before. A reader takes up published resources only, so what it uses is
published still, or retired by a callback that waits for the reader.
-/

namespace Support.Rcu

variable {κ : Type}

/-- What the reader uses is there until the reader is done. -/
def Covers (published retired : κ → Prop) (uses awaited : κ → Prop) : Prop :=
  ∀ k, uses k → published k ∨ (retired k ∧ awaited k)

namespace Covers

variable {published published' retired retired' uses uses' awaited awaited' : κ → Prop}

theorem enter (fresh : ∀ k, uses k → published k) : Covers published retired uses awaited :=
  fun k used => .inl (fresh k used)

theorem fewer (covers : Covers published retired uses awaited) (less : ∀ k, uses' k → uses k) :
    Covers published retired uses' awaited :=
  fun k used => covers k (less k used)

/-- Resources are published, retired and reclaimed; what is retired now waits for the reader,
    and what is reclaimed has not waited for it. -/
theorem keep (covers : Covers published retired uses awaited)
    (stays : ∀ k, published k → published' k ∨ (retired' k ∧ awaited' k))
    (waits : ∀ k, retired k → awaited k → published' k ∨ (retired' k ∧ awaited' k)) :
    Covers published' retired' uses awaited' := by
  intro k used
  rcases covers k used with here | ⟨gone, behind⟩
  · exact stays k here
  · exact waits k gone behind

/-- A reader does not use what is neither published nor held back for it. -/
theorem unused (covers : Covers published retired uses awaited) {k : κ} (gone : ¬ published k)
    (elapsed : ¬ (retired k ∧ awaited k)) : ¬ uses k := by
  intro used
  rcases covers k used with here | behind
  · exact gone here
  · exact elapsed behind

end Covers

section Lists

variable {α β : Type} {R S : α → β → Prop} {items : List α} {readers : List β}

theorem forall₂_enter (each : List.Forall₂ R items readers) {a : α} {b : β} (new : R a b) :
    List.Forall₂ R (items ++ [a]) (readers ++ [b]) := by
  induction each with
  | nil => exact .cons new .nil
  | cons here _ ih => exact .cons here ih

theorem forall₂_leave (each : List.Forall₂ R items readers) (i : Nat) :
    List.Forall₂ R (items.eraseIdx i) (readers.eraseIdx i) := by
  induction each generalizing i with
  | nil => exact .nil
  | cons here rest ih =>
      cases i with
      | zero => exact rest
      | succ i => exact .cons here (ih i)

theorem forall₂_advance (each : List.Forall₂ R items readers) {i : Nat} {a a' : α} (here : items[i]? = some a)
    (step : ∀ b, R a b → R a' b) : List.Forall₂ R (items.set i a') readers := by
  induction each generalizing i with
  | nil => cases here
  | cons first rest ih =>
      cases i with
      | zero =>
          cases here
          exact .cons (step _ first) rest
      | succ i => exact .cons first (ih here)

/-- Something happens to the resources behind all readers. -/
theorem forall₂_around (each : List.Forall₂ R items readers) (f : β → β)
    (step : ∀ a, ∀ b ∈ readers, R a b → S a (f b)) : List.Forall₂ S items (readers.map f) := by
  induction each with
  | nil => exact .nil
  | cons here rest ih =>
      apply List.Forall₂.cons
      · exact step _ _ List.mem_cons_self here
      · exact ih fun a b inside => step a b (List.mem_cons_of_mem _ inside)

end Lists
end Support.Rcu
