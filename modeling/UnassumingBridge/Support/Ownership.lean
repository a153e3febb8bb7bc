import Mathlib.Data.List.Basic
import Mathlib.Tactic.Common

/-! # Resources that are handled until they are given away

A log says what was done to resources with names in `β`: one is made, touched,
or taken by somebody, after which it must be left alone. `TakenOnce` is the
discipline; a `Ledger` of the live and the taken resources checks a log from
left to right.
-/

namespace Support

/-- Somebody looks at a resource, makes one, or takes it over. -/
inductive Handling (β ε : Type) where
  | touch (b : β)
  | make (b : β)
  | take (b : β) (taker : ε)

variable {β ε : Type} [DecidableEq β]

namespace Handling

def name : Handling β ε → β
  | .touch b | .make b | .take b _ => b

def takes (b : β) : Handling β ε → Bool
  | .take c _ => c = b
  | _ => false

omit [DecidableEq β] in
@[simp] theorem name_touch (b : β) : (touch b : Handling β ε).name = b := rfl

omit [DecidableEq β] in
@[simp] theorem name_make (b : β) : (make b : Handling β ε).name = b := rfl

omit [DecidableEq β] in
@[simp] theorem name_take (b : β) (e : ε) : (take b e).name = b := rfl

@[simp] theorem takes_touch (b c : β) : (touch c : Handling β ε).takes b = false := rfl

@[simp] theorem takes_make (b c : β) : (make c : Handling β ε).takes b = false := rfl

@[simp] theorem takes_take (b c : β) (e : ε) : (take c e).takes b = decide (c = b) := rfl

end Handling

open Handling

/-- The resource `b₀` and everything made on the way is taken exactly once and not
    handled afterwards. -/
structure TakenOnce (b₀ : β) (log : List (Handling β ε)) : Prop where
  once b : b = b₀ ∨ .make b ∈ log → log.countP (takes b) = 1
  last : log.Pairwise fun earlier later => ∀ b, earlier.takes b = true → later.name ≠ b

/-- The resources that are there and those that are gone. -/
structure Ledger (β : Type) where
  live : List β
  gone : List β

namespace Ledger

/-- Book one handling; `none` when the resource is not there to be handled so. -/
def book (L : Ledger β) : Handling β ε → Option (Ledger β)
  | .touch b => if b ∈ L.live then some L else none
  | .make b => if b ∈ L.live ∨ b ∈ L.gone then none else some { L with live := b :: L.live }
  | .take b _ => if b ∈ L.live then some ⟨L.live.erase b, b :: L.gone⟩ else none

def replay (L : Ledger β) (log : List (Handling β ε)) : Option (Ledger β) := log.foldlM book L

variable {L L' : Ledger β} {log : List (Handling β ε)} {b₀ : β}

@[simp] theorem replay_nil : L.replay ([] : List (Handling β ε)) = some L := rfl

theorem replay_cons (op : Handling β ε) : L.replay (op :: log) = (L.book op).bind fun L => L.replay log := rfl

theorem replay_append (l₁ l₂ : List (Handling β ε)) :
    L.replay (l₁ ++ l₂) = (L.replay l₁).bind fun L => L.replay l₂ := List.foldlM_append

theorem replay_trans {l₁ l₂ : List (Handling β ε)} {L₂ : Ledger β} (first : L.replay l₁ = some L')
    (second : L'.replay l₂ = some L₂) : L.replay (l₁ ++ l₂) = some L₂ := by
  rw [replay_append, first]
  exact second

/-- What a ledger that has been kept through `log` says about it. -/
structure Accounts (b₀ : β) (log : List (Handling β ε)) (L : Ledger β) : Prop where
  gone b : b ∈ L.gone ↔ ∃ e, .take b e ∈ log
  live b : b ∈ L.live ↔ (b = b₀ ∨ .make b ∈ log) ∧ b ∉ L.gone
  once b : b ∈ L.gone → (b = b₀ ∨ .make b ∈ log) ∧ log.countP (takes b) = 1
  single : L.live.Nodup
  last : log.Pairwise fun earlier later => ∀ b, earlier.takes b = true → later.name ≠ b

theorem accounts_start (b₀ : β) : Accounts b₀ ([] : List (Handling β ε)) ⟨[b₀], []⟩ where
  gone b := by simp
  live b := by simp
  once b := by simp
  single := List.pairwise_singleton _ b₀
  last := .nil

omit [DecidableEq β] in
private theorem countP_none {p : Handling β ε → Bool} (none : ∀ op ∈ log, p op = false) : log.countP p = 0 :=
  List.countP_eq_zero.mpr fun op inside => by simp [none op inside]

theorem Accounts.untaken (kept : Accounts b₀ log L) {b : β} (here : b ∉ L.gone) :
    log.countP (takes b) = 0 := by
  apply countP_none
  intro op inside
  cases op with
  | take c e =>
      have other : c ≠ b := by
        rintro rfl
        exact here ((kept.gone c).mpr ⟨e, inside⟩)
      simpa using other
  | _ => rfl

private theorem Accounts.appended (kept : Accounts b₀ log L) {op : Handling β ε} (there : op.name ∉ L.gone) :
    (log ++ [op]).Pairwise fun earlier later => ∀ b, earlier.takes b = true → later.name ≠ b := by
  refine List.pairwise_append.mpr ⟨kept.last, List.pairwise_singleton _ op, ?_⟩
  intro earlier inside later only b took
  cases List.mem_singleton.mp only
  rintro rfl
  cases earlier with
  | take c e =>
      have same : c = op.name := by simpa using took
      subst same
      exact there ((kept.gone _).mpr ⟨e, inside⟩)
  | _ => cases took

theorem Accounts.booked (kept : Accounts b₀ log L) {op : Handling β ε} (done : L.book op = some L') :
    Accounts b₀ (log ++ [op]) L' := by
  cases op with
  | touch b =>
      simp only [book, Option.ite_none_right_eq_some, Option.some.injEq] at done
      obtain ⟨here, rfl⟩ := done
      have there : b ∉ L.gone := ((kept.live b).mp here).2
      exact ⟨by simpa using kept.gone, by simpa using kept.live, by simpa using kept.once, kept.single,
        kept.appended there⟩
  | make b =>
      simp only [book, Option.ite_none_left_eq_some, not_or, Option.some.injEq] at done
      obtain ⟨⟨unknown, there⟩, rfl⟩ := done
      refine ⟨by simpa using kept.gone, ?_, ?_, List.nodup_cons.mpr ⟨unknown, kept.single⟩, kept.appended there⟩
      · intro c
        have before := kept.live c
        simp only [List.mem_cons, List.mem_append, List.not_mem_nil, or_false, Handling.make.injEq, before]
        grind
      · intro c taken
        obtain ⟨known, count⟩ := kept.once c taken
        simp only [List.mem_append, List.countP_append, List.countP_singleton, takes_make, count]
        grind
  | take b e =>
      simp only [book, Option.ite_none_right_eq_some, Option.some.injEq] at done
      obtain ⟨here, rfl⟩ := done
      have there : b ∉ L.gone := ((kept.live b).mp here).2
      refine ⟨?_, ?_, ?_, kept.single.erase b, kept.appended there⟩
      · intro c
        have before := kept.gone c
        simp only [List.mem_cons, List.mem_append, List.not_mem_nil, or_false, Handling.take.injEq, before]
        constructor
        · rintro (rfl | ⟨f, old⟩)
          · exact ⟨e, .inr ⟨rfl, rfl⟩⟩
          · exact ⟨f, .inl old⟩
        · rintro ⟨f, old | ⟨rfl, _⟩⟩
          · exact .inr ⟨f, old⟩
          · exact .inl rfl
      · intro c
        have before := kept.live c
        simp only [kept.single.mem_erase_iff, List.mem_cons, List.mem_append, before, reduceCtorEq,
          List.not_mem_nil, or_false]
        tauto
      · intro c taken
        simp only [List.mem_append, List.countP_append, List.countP_singleton, takes_take, decide_eq_true_eq]
        rcases List.mem_cons.mp taken with rfl | old
        · refine ⟨Or.imp_right Or.inl ((kept.live c).mp here).1, ?_⟩
          rw [kept.untaken there, if_pos rfl]
        · obtain ⟨known, count⟩ := kept.once c old
          have other : b ≠ c := by
            rintro rfl
            exact there old
          exact ⟨Or.imp_right Or.inl known, by rw [count, if_neg other]⟩

theorem Accounts.replayed {before : List (Handling β ε)} (kept : Accounts b₀ before L)
    (done : L.replay log = some L') : Accounts b₀ (before ++ log) L' := by
  induction log generalizing before L with
  | nil =>
      cases done
      simpa using kept
  | cons op log ih =>
      obtain ⟨next, booked, done⟩ := Option.bind_eq_some_iff.mp ((replay_cons op).symm.trans done)
      simpa using ih (kept.booked booked) done

/-- A log after which nothing is live follows the discipline. -/
theorem takenOnce_of_replay {gone : List β} (done : replay ⟨[b₀], []⟩ log = some ⟨[], gone⟩) :
    TakenOnce b₀ log := by
  have kept := (accounts_start b₀).replayed done
  refine ⟨?_, kept.last⟩
  intro b known
  by_cases taken : b ∈ gone
  · exact (kept.once b taken).2
  · have here : b ∈ ([] : List β) := (kept.live b).mpr ⟨known, taken⟩
    cases here

/-- Nothing is taken twice or handled after it was taken. -/
structure Orderly (log : List (Handling β ε)) : Prop where
  once b : log.countP (takes b) ≤ 1
  last : log.Pairwise fun earlier later => ∀ b, earlier.takes b = true → later.name ≠ b

theorem Accounts.orderly (kept : Accounts b₀ log L) : Orderly log := by
  refine ⟨fun b => ?_, kept.last⟩
  by_cases taken : b ∈ L.gone
  · exact Nat.le_of_eq (kept.once b taken).2
  · rw [kept.untaken taken]
    exact Nat.zero_le 1

/-- The log handles something that was taken. -/
def Disturbed (L : Ledger β) (log : List (Handling β ε)) : Prop :=
  ∃ before op after L', log = before ++ op :: after ∧ L.replay before = some L' ∧ op.name ∈ L'.gone

theorem Disturbed.append {l₁ l₂ : List (Handling β ε)} (disturbed : L.Disturbed l₁) : L.Disturbed (l₁ ++ l₂) := by
  obtain ⟨before, op, after, M, rfl, replayed, taken⟩ := disturbed
  exact ⟨before, op, after ++ l₂, M, by simp, replayed, taken⟩

theorem Disturbed.after {l₁ l₂ : List (Handling β ε)} (fine : L.replay l₁ = some L') (disturbed : L'.Disturbed l₂) :
    L.Disturbed (l₁ ++ l₂) := by
  obtain ⟨before, op, after, M, rfl, replayed, taken⟩ := disturbed
  exact ⟨l₁ ++ before, op, after, M, by simp, replay_trans fine replayed, taken⟩

theorem Disturbed.not_last (disturbed : Disturbed ⟨[b₀], []⟩ log) :
    ¬ log.Pairwise fun earlier later => ∀ b, earlier.takes b = true → later.name ≠ b := by
  intro last
  obtain ⟨before, op, after, M, rfl, replayed, taken⟩ := disturbed
  have kept := (accounts_start b₀).replayed replayed
  obtain ⟨e, took⟩ := (kept.gone op.name).mp taken
  have apart := (List.pairwise_append.mp last).2.2 _ took op List.mem_cons_self op.name
  exact apart (by simp) rfl

/-- Follow the log until it handles something that was taken. -/
def disturbs (L : Ledger β) : List (Handling β ε) → Bool
  | [] => false
  | op :: log => decide (op.name ∈ L.gone) || (L.book op).any fun L => L.disturbs log

theorem disturbed_of_disturbs (found : L.disturbs log = true) : L.Disturbed log := by
  induction log generalizing L with
  | nil => cases found
  | cons op log ih =>
      simp only [disturbs, Bool.or_eq_true, decide_eq_true_eq, Option.any_eq_true] at found
      rcases found with taken | ⟨M, booked, found⟩
      · exact ⟨[], op, log, L, rfl, rfl, taken⟩
      · have fine : L.replay [op] = some M := by
          rw [replay_cons, booked]
          rfl
        exact (ih found).after fine

/-- The log handles something that was taken, or leaves something untaken. -/
def Breach (L : Ledger β) (log : List (Handling β ε)) : Prop :=
  (∃ before op after L', log = before ++ op :: after ∧ L.replay before = some L' ∧ op.name ∈ L'.gone) ∨
    ∃ L' b, L.replay log = some L' ∧ b ∈ L'.live

theorem Breach.after {l₁ l₂ : List (Handling β ε)} (fine : L.replay l₁ = some L') (breach : L'.Breach l₂) :
    L.Breach (l₁ ++ l₂) := by
  rcases breach with ⟨before, op, after, M, rfl, replayed, taken⟩ | ⟨M, b, replayed, here⟩
  · refine .inl ⟨l₁ ++ before, op, after, M, by simp, ?_, taken⟩
    rw [replay_append, fine]
    exact replayed
  · refine .inr ⟨M, b, ?_, here⟩
    rw [replay_append, fine]
    exact replayed

theorem Breach.not_takenOnce (breach : Breach ⟨[b₀], []⟩ log) : ¬ TakenOnce b₀ log := by
  intro disciplined
  rcases breach with disturbed | ⟨M, b, replayed, here⟩
  · exact Disturbed.not_last disturbed disciplined.last
  · have kept := (accounts_start b₀).replayed replayed
    obtain ⟨known, there⟩ := (kept.live b).mp here
    have none := kept.untaken there
    rw [List.nil_append] at none known
    rw [disciplined.once b known] at none
    cases none

/-- What is live was not taken. -/
theorem Accounts.live_empty (kept : Accounts b₀ log L) (disciplined : TakenOnce b₀ log) (b : β) : b ∉ L.live := by
  intro here
  obtain ⟨known, there⟩ := (kept.live b).mp here
  have once := disciplined.once b known
  rw [kept.untaken there] at once
  cases once

end Ledger
end Support
