import Mathlib.Logic.Function.Basic
import Mathlib.Data.List.Basic

/-! # Assignments

What a table holds after a list of assignments: the last value that was given to a
key, and what was there before where none was given.
-/

namespace Support.Assignments

variable {κ ν : Type} [DecidableEq κ]

/-- The last value that the assignments give to a key. -/
def last (given : List (κ × ν)) (k : κ) : Option ν := ((given.filter fun a => a.1 = k).getLast?).map Prod.snd

/-- The table after the assignments. -/
def after (given : List (κ × ν)) (table : κ → Option ν) : κ → Option ν := fun k => (last given k).or (table k)

theorem last_cons (k' : κ) (v : ν) (given : List (κ × ν)) (k : κ) :
    last ((k', v) :: given) k = (last given k).or (if k' = k then some v else none) := by
  unfold last
  by_cases mine : k' = k
  · have kept : ((k', v) :: given).filter (fun a => a.1 = k) = (k', v) :: given.filter fun a => a.1 = k := by
      simp [mine]
    rw [kept, List.getLast?_cons, if_pos mine]
    cases (given.filter fun a => a.1 = k).getLast? with
    | none => rfl
    | some a => rfl
  · have dropped : ((k', v) :: given).filter (fun a => a.1 = k) = given.filter fun a => a.1 = k := by
      simp [mine]
    rw [dropped, if_neg mine, Option.or_none]

@[simp] theorem after_nil (table : κ → Option ν) : after [] table = table := rfl

theorem after_cons (k : κ) (v : ν) (given : List (κ × ν)) (table : κ → Option ν) :
    after ((k, v) :: given) table = after given (Function.update table k (some v)) := by
  funext k'
  unfold after
  rw [last_cons]
  by_cases mine : k' = k
  · subst mine
    simp only [if_true, Function.update_self]
    cases last given k' with
    | none => rfl
    | some w => rfl
  · have apart : ¬ k = k' := fun same => mine same.symm
    rw [if_neg apart, Option.or_none, Function.update_of_ne mine]

end Support.Assignments
