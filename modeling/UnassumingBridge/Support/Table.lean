import Mathlib.Data.List.Basic
import Mathlib.Tactic.Common

/-! # Tables of values that hold their own key

A hash table whose entries embed their key, seen as the list of its entries.
Lookups return the first entry of a key; a table that is only filled through
`insert` after a failed lookup holds at most one.
-/

namespace Support.Table

variable {α κ : Type} [DecidableEq κ] (key : α → κ)

def lookup (k : κ) (l : List α) : Option α := l.find? (fun a => key a = k)

/-- Change the entries of a key in place. -/
def update (k : κ) (f : α → α) (l : List α) : List α := l.map fun a => if key a = k then f a else a

def remove (k : κ) (l : List α) : List α := l.filter fun a => key a ≠ k

/-- No key has two entries. -/
def Unique (l : List α) : Prop := (l.map key).Nodup

instance (l : List α) : Decidable (Unique key l) := inferInstanceAs (Decidable (l.map key).Nodup)

variable {key} {k j : κ} {l : List α} {a : α}

theorem key_of_lookup (h : lookup key k l = some a) : key a = k := by
  simpa using List.find?_some h

theorem mem_of_lookup (h : lookup key k l = some a) : a ∈ l := List.mem_of_find?_eq_some h

theorem lookup_eq_none : lookup key k l = none ↔ ∀ a ∈ l, key a ≠ k := by
  simp [lookup]

@[simp] theorem lookup_nil : lookup key k [] = none := rfl

theorem lookup_cons : lookup key k (a :: l) = if key a = k then some a else lookup key k l := by
  by_cases h : key a = k
  · simp [lookup, h]
  · simp [lookup, h]

theorem lookup_update {f : α → α} (keeps : ∀ a, key (f a) = key a) :
    lookup key k (update key j f l) = if k = j then (lookup key k l).map f else lookup key k l := by
  induction l with
  | nil => simp [update]
  | cons a l ih =>
      have head : key (if key a = j then f a else a) = key a := by
        split
        · exact keeps a
        · rfl
      have step : update key j f (a :: l) = (if key a = j then f a else a) :: update key j f l := rfl
      rw [step, lookup_cons, lookup_cons, head, ih]
      by_cases hk : key a = k
      · by_cases hj : k = j
        · simp [hk, hj]
        · simp [hk, hj]
      · simp [hk]

theorem lookup_remove : lookup key k (remove key j l) = if k = j then none else lookup key k l := by
  induction l with
  | nil => simp [remove]
  | cons a l ih =>
      by_cases ha : key a = j
      · have step : remove key j (a :: l) = remove key j l := by simp [remove, ha]
        rw [step, ih, lookup_cons, ha]
        by_cases hk : k = j
        · simp [hk]
        · simp [hk, Ne.symm hk]
      · have step : remove key j (a :: l) = a :: remove key j l := by simp [remove, ha]
        rw [step, lookup_cons, lookup_cons, ih]
        by_cases hk : key a = k
        · have hj : k ≠ j := fun h => ha (hk.trans h)
          simp [hk, hj]
        · simp [hk]

theorem update_eq_self {f : α → α} (same : ∀ a ∈ l, key a = k → f a = a) : update key k f l = l := by
  conv_rhs => rw [← List.map_id l]
  apply List.map_congr_left
  intro a member
  by_cases h : key a = k
  · simp [h, same a member h]
  · simp [h]

theorem unique_cons (absent : lookup key (key a) l = none) (unique : Unique key l) :
    Unique key (a :: l) := by
  refine List.nodup_cons.mpr ⟨?_, unique⟩
  intro member
  obtain ⟨b, inside, same⟩ := List.mem_map.mp member
  exact lookup_eq_none.mp absent b inside same

theorem unique_update {f : α → α} (keeps : ∀ a, key (f a) = key a) (unique : Unique key l) :
    Unique key (update key k f l) := by
  have keys : (update key k f l).map key = l.map key := by
    simp only [update, List.map_map]
    apply List.map_congr_left
    intro a _
    by_cases h : key a = k
    · simp [h, keeps]
    · simp [h]
  simpa only [Unique, keys] using unique

theorem unique_remove (unique : Unique key l) : Unique key (remove key k l) :=
  List.Nodup.sublist (List.filter_sublist.map key) unique

theorem lookup_of_mem (unique : Unique key l) (member : a ∈ l) : lookup key (key a) l = some a := by
  induction l with
  | nil => cases member
  | cons b l ih =>
      obtain ⟨fresh, rest⟩ := List.nodup_cons.mp unique
      rcases List.mem_cons.mp member with rfl | inside
      · simp [lookup_cons]
      · have other : key b ≠ key a := by
          intro same
          exact fresh (same ▸ List.mem_map_of_mem inside)
        simp [lookup_cons, other, ih rest inside]

theorem perm_remove (unique : Unique key l) (member : a ∈ l) : (a :: remove key (key a) l).Perm l := by
  induction l with
  | nil => cases member
  | cons b l ih =>
      obtain ⟨fresh, rest⟩ := List.nodup_cons.mp unique
      rcases List.mem_cons.mp member with rfl | inside
      · have others : remove key (key a) l = l := by
          apply List.filter_eq_self.mpr
          intro c here
          have other : key c ≠ key a := fun same => fresh (same ▸ List.mem_map_of_mem here)
          simpa using other
        have step : remove key (key a) (a :: l) = remove key (key a) l := by simp [remove]
        rw [step, others]
      · have other : key b ≠ key a := by
          intro same
          exact fresh (same ▸ List.mem_map_of_mem inside)
        have step : remove key (key a) (b :: l) = b :: remove key (key a) l := by simp [remove, other]
        rw [step]
        exact (List.Perm.swap b a _).trans ((ih rest inside).cons b)

/-- Entries that a filter drops make no difference to what it keeps. -/
theorem filter_remove (unique : Unique key l) (member : a ∈ l) {keep : α → Bool} (dropped : keep a = false) :
    (remove key (key a) l).filter keep = l.filter keep := by
  simp only [remove, List.filter_filter]
  apply List.filter_congr
  intro b inside
  by_cases same : key b = key a
  · have found := lookup_of_mem unique inside
    rw [same, lookup_of_mem unique member] at found
    cases found
    simp [dropped]
  · simp [same]

theorem perm_filter_remove (unique : Unique key l) (member : a ∈ l) {keep : α → Bool} (kept : keep a = true) :
    (a :: (remove key (key a) l).filter keep).Perm (l.filter keep) := by
  have moved := (perm_remove unique member).filter keep
  rwa [List.filter_cons_of_pos kept] at moved

section Map

variable {β : Type} {f : β → α} {m : List β} {b : β}

theorem lookup_map : lookup key k (m.map f) = (lookup (key ∘ f) k m).map f := by
  simp only [lookup, List.find?_map]
  rfl

theorem update_map {g : α → α} {h : β → β} (commutes : ∀ b, f (h b) = g (f b)) :
    update key k g (m.map f) = (update (key ∘ f) k h m).map f := by
  simp only [update, List.map_map]
  apply List.map_congr_left
  intro b _
  simp only [Function.comp_apply]
  split
  · exact (commutes b).symm
  · rfl

theorem remove_map : remove key k (m.map f) = (remove (key ∘ f) k m).map f := by
  simp [remove, List.filter_map, Function.comp_def]

end Map

end Support.Table
