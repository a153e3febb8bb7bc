import Mathlib.Logic.Function.Basic
import Mathlib.Order.Basic

/-! # Tables of what was last seen

A table says for each key where it was last seen and when; what it says counts
for a time. A key that does not count any more may be dropped at any moment or
not at all: `Tracks` holds either way, and whoever asks cannot tell.
-/

namespace Support

/-- Something was seen at a place at some time. -/
structure Sighting (κ π : Type) where
  key : κ
  place : π
  time : Nat

namespace LastSeen

variable {κ π : Type} [DecidableEq κ] {timeout now : Nat}

/-- Where and when a key was seen last, from the sightings newest first. -/
def latest (history : List (Sighting κ π)) (k : κ) : Option (π × Nat) :=
  (history.find? (·.key = k)).map fun seen => (seen.place, seen.time)

/-- The place, if the sighting still counts. -/
def current (timeout now : Nat) : Option (π × Nat) → Option π
  | some (place, time) => if now ≤ time + timeout then some place else none
  | none => none

theorem latest_cons (seen : Sighting κ π) (history : List (Sighting κ π)) (k : κ) :
    latest (seen :: history) k = if seen.key = k then some (seen.place, seen.time) else latest history k := by
  by_cases mine : seen.key = k
  · simp [latest, mine]
  · simp [latest, mine]

/-- Once a sighting does not count it never does again. -/
theorem current_later {entry : Option (π × Nat)} {now' : Nat} (time : now ≤ now')
    (gone : current timeout now entry = none) : current timeout now' entry = none := by
  cases entry with
  | none => rfl
  | some seen =>
      simp only [current, ite_eq_right_iff, reduceCtorEq, imp_false] at gone ⊢
      omega

/-- The table holds the latest sightings, less some that do not count. -/
def Tracks (timeout now : Nat) (table : κ → Option (π × Nat)) (history : List (Sighting κ π)) : Prop :=
  ∀ k, table k = latest history k ∨ (table k = none ∧ current timeout now (latest history k) = none)

variable {table table' : κ → Option (π × Nat)} {history : List (Sighting κ π)}

theorem Tracks.empty : Tracks timeout now (fun _ => none) ([] : List (Sighting κ π)) := fun _ => .inl rfl

/-- What the table says is what the history says. -/
theorem Tracks.answer (tracks : Tracks timeout now table history) (k : κ) :
    current timeout now (table k) = current timeout now (latest history k) := by
  rcases tracks k with same | ⟨dropped, gone⟩
  · rw [same]
  · rw [dropped, gone]
    rfl

theorem Tracks.later {now' : Nat} (tracks : Tracks timeout now table history) (time : now ≤ now') :
    Tracks timeout now' table history := by
  intro k
  rcases tracks k with same | ⟨dropped, gone⟩
  · exact .inl same
  · exact .inr ⟨dropped, current_later time gone⟩

/-- Entries that do not count may be dropped. -/
theorem Tracks.drop (tracks : Tracks timeout now table history)
    (drops : ∀ k, table' k = table k ∨ (table' k = none ∧ current timeout now (table k) = none)) :
    Tracks timeout now table' history := by
  intro k
  rcases drops k with kept | ⟨dropped, gone⟩
  · rw [kept]
    exact tracks k
  · exact .inr ⟨dropped, (tracks.answer k).symm.trans gone⟩

/-- A new sighting replaces what was stored under its key. -/
theorem Tracks.see (tracks : Tracks timeout now table history) (seen : Sighting κ π)
    (stored : ∀ k, table' k = if seen.key = k then some (seen.place, seen.time) else table k) :
    Tracks timeout now table' (seen :: history) := by
  intro k
  rw [stored, latest_cons]
  split
  · exact .inl rfl
  · exact tracks k

end LastSeen
end Support
