import Mathlib.Logic.Function.Basic
import Mathlib.Data.List.Nodup

/-! # Atomic objects

Several parties call an object, and their calls overlap. The calls are linearizable when
the object behaves as if each operation were performed at one point between its call and
its return. Which operations have been performed is not known from what is seen: `Possible`
says what may be the case, and a proof carries along all that may. Histories and orders
are newest first.
-/

namespace Support

variable {σ ι Op Res : Type}

/-- What is seen of the calls. -/
inductive Act (ι Op Res : Type) where
  | call (i : ι) (op : Op)
  | ret (i : ι) (res : Res)

/-- An operation that was performed. -/
structure Applied (ι Op Res : Type) where
  id : ι
  op : Op
  res : Res

/-- One operation after the other. -/
inductive Executes (apply : σ → Op → σ × Res) (first : σ) : List (Applied ι Op Res) → σ → Prop where
  | start : Executes apply first [] first
  | step {order s} (i : ι) (op : Op) : Executes apply first order s →
      Executes apply first (⟨i, op, (apply s op).2⟩ :: order) (apply s op).1

/-- In a list that is newest first, `x` stands somewhere before `y`. -/
def Earlier {α : Type} (l : List α) (x y : α) : Prop := ∃ newer older, l = newer ++ older ∧ y ∈ newer ∧ x ∈ older

/-- The operations of a history in an order that explains it. Calls that have not returned
    may have been performed or not. -/
structure Linearization (apply : σ → Op → σ × Res) (first : σ) (h : List (Act ι Op Res))
    (order : List (Applied ι Op Res))
    (last : σ) : Prop where
  executes : Executes apply first order last
  once : (order.map Applied.id).Nodup
  called : ∀ x ∈ order, .call x.id x.op ∈ h
  returned : ∀ i res, .ret i res ∈ h → ∃ op, ⟨i, op, res⟩ ∈ order
  realTime : ∀ i res j op, Earlier h (.ret i res) (.call j op) → j ∈ order.map Applied.id →
    Earlier (order.map Applied.id) i j

/-- How far a call has come. -/
inductive Progress (Op Res : Type) where
  | idle
  | called (op : Op)
  | answered (res : Res)
  | returned

section Earlier

variable {α : Type} {l : List α} {x y z : α}

theorem Earlier.newer (before : Earlier l x y) (z : α) : Earlier (z :: l) x y := by
  obtain ⟨newer, older, rfl, hy, hx⟩ := before
  exact ⟨z :: newer, older, rfl, List.mem_cons_of_mem _ hy, hx⟩

theorem earlier_head (inside : x ∈ l) (y : α) : Earlier (y :: l) x y :=
  ⟨[y], l, rfl, List.mem_cons_self, inside⟩

theorem earlier_cons (before : Earlier (z :: l) x y) : (y = z ∧ x ∈ l) ∨ Earlier l x y := by
  obtain ⟨newer, older, same, hy, hx⟩ := before
  cases newer with
  | nil => cases hy
  | cons w newer =>
      cases same
      rcases List.mem_cons.mp hy with rfl | inside
      · exact .inl ⟨rfl, List.mem_append_right _ hx⟩
      · exact .inr ⟨newer, older, rfl, inside, hx⟩

theorem Earlier.mem (before : Earlier l x y) : x ∈ l := by
  obtain ⟨newer, older, rfl, _, hx⟩ := before
  exact List.mem_append_right _ hx

end Earlier

section Recorded

variable {h : List (Act ι Op Res)} {order : List (Applied ι Op Res)} {i : ι} {progress : Progress Op Res}

/-- What the progress of a call says about the history and the order. -/
def Recorded (h : List (Act ι Op Res)) (order : List (Applied ι Op Res)) (i : ι) : Progress Op Res → Prop
  | .idle => i ∉ order.map Applied.id
  | .called op => i ∉ order.map Applied.id ∧ .call i op ∈ h
  | .answered res => ∃ op, ⟨i, op, res⟩ ∈ order
  | .returned => True

theorem Recorded.seen (a : Act ι Op Res) (recorded : Recorded h order i progress) :
    Recorded (a :: h) order i progress := by
  cases progress with
  | called op => exact recorded.imp_right (List.mem_cons_of_mem _)
  | _ => exact recorded

theorem Recorded.applied {x : Applied ι Op Res} (recorded : Recorded h order i progress)
    (other : i ≠ x.id) : Recorded h (x :: order) i progress := by
  have absent (old : i ∉ order.map Applied.id) : i ∉ (x :: order).map Applied.id :=
    List.not_mem_cons_of_ne_of_not_mem other old
  cases progress with
  | idle => exact absent recorded
  | called op => exact recorded.imp_left absent
  | answered res => exact recorded.imp fun op inside => List.mem_cons_of_mem _ inside
  | returned => trivial

end Recorded

variable [DecidableEq ι] {apply : σ → Op → σ × Res} {first : σ}

/-- The history can have come about with these operations performed in this order, the
    object in this state and the calls so far. -/
inductive Possible (apply : σ → Op → σ × Res) (first : σ) :
    List (Act ι Op Res) → List (Applied ι Op Res) → σ → (ι → Progress Op Res) → Prop where
  | start : Possible apply first [] [] first fun _ => .idle
  | call {h order s at_} (i : ι) (op : Op) : Possible apply first h order s at_ → at_ i = .idle →
      Possible apply first (.call i op :: h) order s (Function.update at_ i (.called op))
  | perform {h order s at_} (i : ι) (op : Op) : Possible apply first h order s at_ → at_ i = .called op →
      Possible apply first h (⟨i, op, (apply s op).2⟩ :: order) (apply s op).1
        (Function.update at_ i (.answered (apply s op).2))
  | ret {h order s at_} (i : ι) (res : Res) : Possible apply first h order s at_ → at_ i = .answered res →
      Possible apply first (.ret i res :: h) order s (Function.update at_ i .returned)

namespace Possible

variable {h : List (Act ι Op Res)} {order : List (Applied ι Op Res)} {s : σ} {at_ : ι → Progress Op Res}

section Linearization

theorem recorded (possible : Possible apply first h order s at_) (i : ι) : Recorded h order i (at_ i) := by
  induction possible with
  | start => exact List.not_mem_nil
  | @call h order s at_ j op _ idle ih =>
      by_cases here : i = j
      · subst here
        rw [idle] at ih
        rw [Function.update_self]
        exact ⟨ih, List.mem_cons_self⟩
      · rw [Function.update_of_ne here]
        exact ih.seen _
  | @perform h order s at_ j op _ waiting ih =>
      by_cases here : i = j
      · subst here
        rw [Function.update_self]
        exact ⟨op, List.mem_cons_self⟩
      · rw [Function.update_of_ne here]
        exact ih.applied here
  | @ret h order s at_ j res _ answered ih =>
      by_cases here : i = j
      · subst here
        rw [Function.update_self]
        trivial
      · rw [Function.update_of_ne here]
        exact ih.seen _

/-- What may have been the case explains what was seen. -/
theorem linearization (possible : Possible apply first h order s at_) : Linearization apply first h order s := by
  induction possible with
  | start =>
      refine ⟨.start, List.nodup_nil, ?_, ?_, ?_⟩
      · exact fun x inside => absurd inside List.not_mem_nil
      · exact fun i res seen => absurd seen List.not_mem_nil
      · exact fun i res j op before => absurd before.mem List.not_mem_nil
  | @call h order s at_ j op before idle ih =>
      have absent : j ∉ order.map Applied.id := (idle ▸ before.recorded j : Recorded h order j .idle)
      refine ⟨ih.executes, ih.once, ?_, ?_, ?_⟩
      · exact fun x inside => List.mem_cons_of_mem _ (ih.called x inside)
      · intro i res seen
        rcases List.mem_cons.mp seen with same | seen
        · cases same
        · exact ih.returned i res seen
      · intro i res k op' earlier performed
        rcases earlier_cons earlier with ⟨same, _⟩ | earlier
        · cases same
          exact absurd performed absent
        · exact ih.realTime i res k op' earlier performed
  | @perform h order s at_ j op before waiting ih =>
      obtain ⟨absent, called⟩ := (waiting ▸ before.recorded j : Recorded h order j (.called op))
      refine ⟨.step j op ih.executes, List.nodup_cons.mpr ⟨absent, ih.once⟩, ?_, ?_, ?_⟩
      · intro x inside
        rcases List.mem_cons.mp inside with rfl | inside
        · exact called
        · exact ih.called x inside
      · intro i res seen
        obtain ⟨op', inside⟩ := ih.returned i res seen
        exact ⟨op', List.mem_cons_of_mem _ inside⟩
      · intro i res k op' earlier performed
        rcases List.mem_cons.mp performed with rfl | performed
        · obtain ⟨op', inside⟩ := ih.returned i res earlier.mem
          exact earlier_head (List.mem_map_of_mem inside) _
        · exact (ih.realTime i res k op' earlier performed).newer j
  | @ret h order s at_ j res before answered ih =>
      obtain ⟨op, inside⟩ := (answered ▸ before.recorded j : Recorded h order j (.answered res))
      refine ⟨ih.executes, ih.once, ?_, ?_, ?_⟩
      · exact fun x inside => List.mem_cons_of_mem _ (ih.called x inside)
      · intro i res' seen
        rcases List.mem_cons.mp seen with same | seen
        · cases same
          exact ⟨op, inside⟩
        · exact ih.returned i res' seen
      · intro i res' k op' earlier performed
        rcases earlier_cons earlier with ⟨same, _⟩ | earlier
        · cases same
        · exact ih.realTime i res' k op' earlier performed

end Linearization

section Rules

theorem begun {i : ι} (op : Op) (possible : Possible apply first h order s (Function.update at_ i .idle)) :
    Possible apply first (.call i op :: h) order s (Function.update at_ i (.called op)) := by
  have next := possible.call i op (Function.update_self ..)
  rwa [Function.update_idem] at next

/-- The call is the last thing that happened to it. -/
theorem called {i : ι} {op : Op} (possible : Possible apply first h order s (Function.update at_ i .idle))
    (now : at_ i = .called op) : Possible apply first (.call i op :: h) order s at_ := by
  have next := possible.begun op
  rwa [← now, Function.update_eq_self] at next

theorem performed {i : ι} {op : Op} (possible : Possible apply first h order s (Function.update at_ i (.called op)))
    (now : at_ i = .answered (apply s op).2) :
    Possible apply first h (⟨i, op, (apply s op).2⟩ :: order) (apply s op).1 at_ := by
  have next := possible.perform i op (Function.update_self ..)
  rwa [Function.update_idem, ← now, Function.update_eq_self] at next

theorem finished {i : ι} {res : Res} (possible : Possible apply first h order s (Function.update at_ i (.answered res)))
    (now : at_ i = .returned) : Possible apply first (.ret i res :: h) order s at_ := by
  have next := possible.ret i res (Function.update_self ..)
  rwa [Function.update_idem, ← now, Function.update_eq_self] at next

theorem performs {i : ι} {op : Op} (possible : Possible apply first h order s (Function.update at_ i (.called op)))
    (now : at_ i = .returned) :
    Possible apply first (.ret i (apply s op).2 :: h) (⟨i, op, (apply s op).2⟩ :: order) (apply s op).1 at_ := by
  apply finished _ now
  apply performed _ (Function.update_self ..)
  rwa [Function.update_idem]

theorem whole {i : ι} (op : Op) (possible : Possible apply first h order s (Function.update at_ i .idle))
    (now : at_ i = .returned) : Possible apply first (.ret i (apply s op).2 :: .call i op :: h)
      (⟨i, op, (apply s op).2⟩ :: order) (apply s op).1 at_ :=
  performs (possible.begun op) now

/-- Calls that are still waiting are all performed now, in any order: whatever they make of
    the object, it stays one of those that what comes next does not tell apart. -/
theorem performAll {alike : σ → Prop} {res : Res} {ops : ι → Op} {l : List ι} (once : l.Nodup)
    (keep : ∀ i ∈ l, ∀ s, alike s → alike (apply s (ops i)).1 ∧ (apply s (ops i)).2 = res)
    (possible : Possible apply first h order s fun i => if i ∈ l then .called (ops i) else at_ i) (now : alike s)
    (answered : ∀ i ∈ l, at_ i = .answered res) :
    ∃ order' s', alike s' ∧ Possible apply first h order' s' at_ := by
  induction l generalizing order s with
  | nil => exact ⟨order, s, now, by simpa using possible⟩
  | cons i l ih =>
      obtain ⟨other, once⟩ := List.nodup_cons.mp once
      obtain ⟨kept, same⟩ := keep i List.mem_cons_self s now
      have next := possible.perform i (ops i) (by simp)
      have rest :
          Function.update (fun j => if j ∈ i :: l then .called (ops j) else at_ j) i (.answered (apply s (ops i)).2) =
            fun j => if j ∈ l then .called (ops j) else at_ j := by
        funext j
        by_cases here : j = i
        · subst here
          simp [other, same, answered]
        · simp [here]
      rw [rest] at next
      exact ih once (fun j inside => keep j (List.mem_cons_of_mem _ inside)) next kept
        fun j inside => answered j (List.mem_cons_of_mem _ inside)

end Rules

end Possible
end Support
