import UnassumingBridge.Support.Machine

/-! # Parts of a machine

A machine is made of parts that come and go, and a part is a machine of its own with an
environment. When every step of the whole goes on a run of the part, what the part does in
a run of the whole is a run of the part.
-/

namespace Support

variable {σ ε ρ φ α β γ ψ : Type}

/-- How a part of a machine is seen. -/
structure Part (σ ε ρ α β γ : Type) where
  present : σ → Prop
  shows : σ → α → Prop
  /-- What the part does in a step of the whole. -/
  does : Transition σ ε ρ → Option (β × γ)
  /-- A step that the part takes itself, and not its environment. -/
  own : β → Bool

namespace Part

variable (part : Part σ ε ρ α β γ)

/-- What a part has done, newest first. -/
def story (tr : List (Transition α β γ)) : List (β × γ) :=
  tr.filterMap fun t => if part.own t.event then some (t.event, t.ret) else none

theorem story_append (more tr : List (Transition α β γ)) : part.story (more ++ tr) = part.story more ++ part.story tr :=
  List.filterMap_append

/-- Every run of the part that ends in what one state shows goes on to what the other one
    shows, and the part does `deeds` on the way. -/
def Follows (N : Machine α β γ ψ) (D : α → β → Prop) (s s' : σ) (deeds : List (β × γ)) : Prop :=
  ∀ tr a, Run N D tr a → part.shows s a →
    ∃ more a', Run N D (more ++ tr) a' ∧ part.shows s' a' ∧ part.story more = deeds

namespace Follows

variable {part} {N : Machine α β γ ψ} {D : α → β → Prop} {s s' s'' : σ} {deeds : List (β × γ)}

theorem still (shows : ∀ a, part.shows s a → part.shows s' a) : part.Follows N D s s' [] :=
  fun _ a run shown => ⟨[], a, run, shows a shown, rfl⟩

theorem trans {later : List (β × γ)} (first : part.Follows N D s s' deeds) (second : part.Follows N D s' s'' later) :
    part.Follows N D s s'' (later ++ deeds) := by
  intro tr a run shown
  obtain ⟨more, a', run', shown', told⟩ := first tr a run shown
  obtain ⟨more', a'', run'', shown'', told'⟩ := second _ a' run' shown'
  refine ⟨more' ++ more, a'', ?_, shown'', ?_⟩
  · rwa [List.append_assoc]
  · rw [part.story_append, told, told']

theorem step {e : β} (next : ∀ a, part.shows s a → N.Enabled a e ∧ D a e ∧
    ∃ a' r, N.exec a e = .ok (a', r) ∧ part.shows s' a' ∧ (if part.own e then [(e, r)] else []) = deeds) :
    part.Follows N D s s' deeds := by
  intro tr a run shown
  obtain ⟨enabled, guard, a', r, done, shown', told⟩ := next a shown
  refine ⟨[⟨a, e, r, a'⟩], a', .step run enabled guard done, shown', ?_⟩
  rw [← told]
  by_cases mine : part.own e = true
  · simp [story, mine]
  · simp [story, mine]

end Follows

/-- The part is a machine of its own. -/
structure Separates (M : Machine σ ε ρ φ) (C : σ → ε → Prop) (N : Machine α β γ ψ) (D : α → β → Prop) : Prop where
  start : ∀ s, M.Init s → ¬ part.present s
  born : ∀ t tr, Run M C (t :: tr) t.post → ¬ part.present t.pre → part.present t.post →
    (∃ a, N.Init a ∧ part.shows t.post a) ∧ ∀ u ∈ t :: tr, part.does u = none
  goes : ∀ t tr, Run M C (t :: tr) t.post → part.present t.pre → part.present t.post →
    part.Follows N D t.pre t.post (part.does t).toList

variable {part} {M : Machine σ ε ρ φ} {C : σ → ε → Prop} {N : Machine α β γ ψ} {D : α → β → Prop}

/-- What the part has done in a run of the whole is a run of the part. -/
theorem Separates.run (separates : part.Separates M C N D) {tr s} (run : Run M C tr s) (present : part.present s) :
    ∃ tr' a, Run N D tr' a ∧ part.shows s a ∧ part.story tr' = tr.filterMap part.does := by
  induction run with
  | init start => exact absurd present (separates.start _ start)
  | @step tr s e s' r before enabled guard executed ih =>
      have whole : Run M C (⟨s, e, r, s'⟩ :: tr) s' := .step before enabled guard executed
      by_cases old : part.present s
      · obtain ⟨tr', a, run, shown, same⟩ := ih old
        obtain ⟨more, a', run', shown', told⟩ := separates.goes _ _ whole old present tr' a run shown
        refine ⟨more ++ tr', a', run', shown', ?_⟩
        rw [part.story_append, told, same, List.filterMap_cons]
        cases part.does ⟨s, e, r, s'⟩ <;> rfl
      · obtain ⟨⟨a, start, shown⟩, nothing⟩ := separates.born _ _ whole old present
        refine ⟨[], a, .init start, shown, ?_⟩
        exact (List.filterMap_eq_nil_iff.mpr nothing).symm

end Part
end Support
