import UnassumingBridge.Effects.Cpus

/-! # The database is atomic

What the CPUs see of the database at the same time could have been seen one after the
other: between its call and its return every `ubr_fdb_learn`, every lookup behind it and every
removal by the ageing work takes effect at one point. A frame whose insertion comes too
late was learned just before the frame that overtook it.
-/

namespace UnassumingBridge

open Support

variable {τ : Type} {cfg : Config}

/-- A frame has found a node that the ageing work is about to remove. If either went on, what the
    frame has shown would be lost. -/
def Cpus.SparesFound (s : Cpus τ) : CpuEvent → Prop
  | .advance i => ∀ f ∈ s.frames[i]?, ∀ e ∈ s.expiring, f.next ≠ .refresh e.ref
  | .remove => ∀ e ∈ s.expiring, ∀ f ∈ s.frames, f.next ≠ .refresh e.ref
  | .receive .. | .visit _ | .tick _ => True

instance (s : Cpus τ) : (e : CpuEvent) → Decidable (s.SparesFound e)
  | .advance i => inferInstanceAs (Decidable (∀ f ∈ s.frames[i]?, ∀ e ∈ s.expiring, f.next ≠ .refresh e.ref))
  | .remove => inferInstanceAs (Decidable (∀ e ∈ s.expiring, ∀ f ∈ s.frames, f.next ≠ .refresh e.ref))
  | .receive .. | .visit _ | .tick _ => .isTrue trivial

def Cpus.database (s : Cpus τ) : Database τ := ⟨s.fdb.view, s.jiffies⟩

abbrev CpuHistory (τ : Type) := List (Transition (Cpus τ) CpuEvent (List (FdbAct τ)))

/-- What is seen of the calls, newest first. -/
def acts (tr : CpuHistory τ) : List (FdbAct τ) := tr.flatMap fun t => t.ret

namespace Forwarder

variable {f : Forwarder} {m m' : FdbMemory τ}

def learnOp (f : Forwarder) : FdbOp τ := .learn f.vlan f.skb f.env

/-- What the steps behind the first one rely on. -/
def Pending (f : Forwarder) (m : FdbMemory τ) : Prop :=
  match f.next with
  | .refresh ref => f.learns = true ∧ isValidEtherAddr f.skb.frame.hSource = true ∧ m.Holds ref f.key
  | .insert key => f.learns = true ∧ isValidEtherAddr f.skb.frame.hSource = true ∧ key = f.key
  | _ => True

/-- How far the frame's learning may have come. One that will insert nothing may have been
    performed already: it fails anyway, or somebody has inserted the key since. -/
def MayBe (f : Forwarder) (m : FdbMemory τ) (progress : Progress (FdbOp τ) (Option UbrVec)) : Prop :=
  match f.next with
  | .learn => progress = .idle
  | .refresh _ => progress = .called f.learnOp
  | .insert key => progress = .called f.learnOp ∨ (progress = .answered none ∧ (f.fails ∨ (m.lookup key).isSome = true))
  | .lookup | .done => progress = if f.learns then .returned else .idle

/-- The database counts for frames only that may have been performed before they insert. -/
theorem MayBe.imp {progress : Progress (FdbOp τ) (Option UbrVec)} (may : f.MayBe m' progress)
    (still : ∀ key, f.next = .insert key → progress = .answered none → f.fails ∨ (m'.lookup key).isSome = true →
      f.fails ∨ (m.lookup key).isSome = true) : f.MayBe m progress := by
  unfold MayBe at may ⊢
  split
  · rename_i next
    simpa only [next] using may
  · rename_i next
    simpa only [next] using may
  · rename_i key next
    simp only [next] at may
    exact may.imp_right fun ⟨answered, why⟩ => ⟨answered, still key next answered why⟩
  · rename_i next
    simpa only [next] using may
  · rename_i next
    simpa only [next] using may

theorem MayBe.mono {progress : Progress (FdbOp τ) (Option UbrVec)} (may : f.MayBe m' progress)
    (present : ∀ key, (m'.lookup key).isSome = true → (m.lookup key).isSome = true) : f.MayBe m progress :=
  may.imp fun key _ _ why => why.imp_right (present key)

end Forwarder

/-- A progress of all calls that is compatible with the state. -/
structure Fits (s : Cpus τ) (at_ : FdbCall → Progress (FdbOp τ) (Option UbrVec)) : Prop where
  learn : ∀ (i : Nat) (f : Forwarder), s.frames[i]? = some f → f.MayBe s.fdb (at_ (.learn i))
  filter : ∀ (i : Nat) (f : Forwarder), s.frames[i]? = some f →
    at_ (.filter i) = if f.next = .done then .returned else .idle
  fresh : ∀ i, s.frames.length ≤ i → at_ (.learn i) = .idle ∧ at_ (.filter i) = .idle
  waiting : ∀ e ∈ s.expiring, at_ (.other e.call) = .called (.expire e.addr e.now)
  returned : ∀ k < s.others, (∀ e ∈ s.expiring, e.call ≠ k) → at_ (.other k) = .returned
  unused : ∀ k, s.others ≤ k → at_ (.other k) = .idle

/-- The learning of a frame that has missed the key and been performed nevertheless, which has
    to have been before frame `i` inserted the key. -/
def Cpus.Overtaken (s : Cpus τ) (at_ : FdbCall → Progress (FdbOp τ) (Option UbrVec)) (i : Nat) (key : UbrFdbAddr)
    (c : FdbCall) : Prop :=
  ∃ j g, c = .learn j ∧ s.frames[j]? = some g ∧ j ≠ i ∧ g.next = .insert key ∧ ¬ g.fails ∧ at_ c = .answered none

/-- What a frame's learning calls. -/
def Cpus.opOf (s : Cpus τ) : FdbCall → FdbOp τ
  | .learn j => (s.frames[j]?.map Forwarder.learnOp).getD (.tick 0)
  | .filter _ | .other _ => .tick 0

theorem opOf_learn {s : Cpus τ} {j : Nat} {g : Forwarder} (here : s.frames[j]? = some g) :
    s.opOf (.learn j) = g.learnOp := by
  simp only [Cpus.opOf, here]
  rfl

theorem exists_overtaken (s : Cpus τ) (at_ : FdbCall → Progress (FdbOp τ) (Option UbrVec)) (i : Nat)
    (key : UbrFdbAddr) : ∃ l : List FdbCall, l.Nodup ∧ ∀ c, c ∈ l ↔ s.Overtaken at_ i key c := by
  classical
  refine ⟨((List.range s.frames.length).map FdbCall.learn).filter fun c => s.Overtaken at_ i key c, ?_, ?_⟩
  · exact (List.nodup_range.map fun _ _ => FdbCall.learn.inj).filter _
  · intro c
    simp only [List.mem_filter, decide_eq_true_eq]
    refine ⟨And.right, fun overtaken => ⟨?_, overtaken⟩⟩
    obtain ⟨j, g, rfl, here, _⟩ := overtaken
    exact List.mem_map_of_mem (List.mem_range.mpr (List.getElem?_eq_some_iff.mp here).1)

namespace Fits

variable {s s' : Cpus τ} {at_ before : FdbCall → Progress (FdbOp τ) (Option UbrVec)} {i : Nat} {f : Forwarder}
  {next : ForwardStep}

theorem receive {vlan : UbrVlan} {skb : Skb} {env : FrameEnv}
    (fits : Fits { s with frames := s.frames ++ [{ vlan, skb, env }] } at_) : Fits s at_ := by
  have stays (i : Nat) (f : Forwarder) (here : s.frames[i]? = some f) :
      (s.frames ++ [({ vlan, skb, env } : Forwarder)])[i]? = some f := by
    rw [List.getElem?_append_left (List.getElem?_eq_some_iff.mp here).1]
    exact here
  refine ⟨fun i f here => fits.learn i f (stays i f here), fun i f here => fits.filter i f (stays i f here), ?_,
    fits.waiting, fits.returned, fits.unused⟩
  intro i behind
  rcases Nat.eq_or_lt_of_le behind with rfl | behind
  · have last : (s.frames ++ [({ vlan, skb, env } : Forwarder)])[s.frames.length]? = some { vlan, skb, env } := by simp
    exact ⟨fits.learn _ _ last, fits.filter _ _ last⟩
  · refine fits.fresh i ?_
    simp only [List.length_append, List.length_singleton]
    omega

theorem frame_moved {f' : Forwarder} (here : s.frames[i]? = some f) (frames : s'.frames = s.frames.set i f') :
    s'.frames[i]? = some f' := by
  rw [frames, List.getElem?_set_self (List.getElem?_eq_some_iff.mp here).1]

theorem frame_still {f' g : Forwarder} {j : Nat} (frames : s'.frames = s.frames.set i f') (other : j ≠ i)
    (at_j : s.frames[j]? = some g) : s'.frames[j]? = some g := by
  rw [frames, List.getElem?_set_ne (Ne.symm other)]
  exact at_j

theorem learned (fits : Fits s' at_) (here : s.frames[i]? = some f)
    (frames : s'.frames = s.frames.set i { f with next := .lookup }) (learns : f.learns = true) :
    at_ (.learn i) = .returned := by
  have progress : at_ (.learn i) = if f.learns then .returned else .idle := fits.learn i _ (frame_moved here frames)
  rw [progress, if_pos learns]

theorem back (fits : Fits s' at_) (here : s.frames[i]? = some f) (frames : s'.frames = s.frames.set i { f with next })
    (expiring : s'.expiring = s.expiring) (others : s'.others = s.others)
    (learn : ∀ (j : Nat) (g : Forwarder), s.frames[j]? = some g → g.MayBe s.fdb (before (.learn j)))
    (filter : before (.filter i) = if f.next = .done then .returned else .idle)
    (same : ∀ c, (∀ j < s.frames.length, c ≠ .learn j) → c ≠ .filter i → before c = at_ c) : Fits s before := by
  have bound := (List.getElem?_eq_some_iff.mp here).1
  have elsewhere (k : Nat) : before (.other k) = at_ (.other k) := same _ (fun _ _ => nofun) nofun
  have filters (j : Nat) (other : j ≠ i) : before (.filter j) = at_ (.filter j) :=
    same _ (fun _ _ => nofun) fun h => other (FdbCall.filter.inj h)
  refine ⟨learn, ?_, ?_, ?_, ?_, ?_⟩
  · intro j g at_j
    by_cases mine : j = i
    · subst mine
      cases here.symm.trans at_j
      exact filter
    · rw [filters j mine]
      exact fits.filter j g (frame_still frames mine at_j)
  · intro j behind
    have length : s'.frames.length ≤ j := by
      rw [frames, List.length_set]
      exact behind
    have learns : before (.learn j) = at_ (.learn j) := by
      apply same
      · intro k inside h
        cases h
        omega
      · exact nofun
    rw [learns, filters j (by omega)]
    exact fits.fresh j length
  · intro e pending
    rw [elsewhere]
    exact fits.waiting e (expiring ▸ pending)
  · intro k old free
    rw [elsewhere]
    exact fits.returned k (others ▸ old) (expiring ▸ free)
  · intro k new
    rw [elsewhere]
    exact fits.unused k (others ▸ new)

theorem backLearn (fits : Fits s' at_) (here : s.frames[i]? = some f)
    (frames : s'.frames = s.frames.set i { f with next })
    (expiring : s'.expiring = s.expiring) (others : s'.others = s.others) (going : f.next ≠ .done) (on : next ≠ .done)
    (present : ∀ key, (s'.fdb.lookup key).isSome = true → (s.fdb.lookup key).isSome = true)
    {progress : Progress (FdbOp τ) (Option UbrVec)} (mine : f.MayBe s.fdb progress) :
    Fits s (Function.update at_ (.learn i) progress) := by
  have bound := (List.getElem?_eq_some_iff.mp here).1
  refine fits.back here frames expiring others ?_ ?_ ?_
  · intro j g at_j
    by_cases same : j = i
    · subst same
      cases here.symm.trans at_j
      rw [Function.update_self]
      exact mine
    · rw [Function.update_of_ne (fun h => same (FdbCall.learn.inj h))]
      exact (fits.learn j g (frame_still frames same at_j)).mono present
  · have apart : FdbCall.filter i ≠ .learn i := nofun
    rw [Function.update_of_ne apart, fits.filter i _ (frame_moved here frames), if_neg on, if_neg going]
  · intro c other _
    exact Function.update_of_ne (other i bound) _ _

/-- The progress before frame `i` inserted its key and the overtaken ones were performed. -/
theorem rewind {key : UbrFdbAddr} {l : List FdbCall} (fits : Fits s' at_) (here : s.frames[i]? = some f)
    (frames : s'.frames = s.frames.set i { f with next := .lookup }) (expiring : s'.expiring = s.expiring)
    (others : s'.others = s.others) (inserts : f.next = .insert key) (overtaken : ∀ c, c ∈ l ↔ s.Overtaken at_ i key c)
    (present : ∀ k, k ≠ key → (s'.fdb.lookup k).isSome = true → (s.fdb.lookup k).isSome = true) :
    Fits s fun c => if c ∈ l then .called (s.opOf c) else Function.update at_ (.learn i) (.called f.learnOp) c := by
  have bound := (List.getElem?_eq_some_iff.mp here).1
  have apart : FdbCall.filter i ∉ l := by
    rw [overtaken]
    rintro ⟨_, _, same, _⟩
    cases same
  have mine : FdbCall.learn i ∉ l := by
    rw [overtaken]
    rintro ⟨_, _, same, _, other, _⟩
    cases same
    exact other rfl
  refine fits.back here frames expiring others ?_ ?_ ?_
  · intro j g at_j
    by_cases late : FdbCall.learn j ∈ l
    · rw [if_pos late, opOf_learn at_j]
      obtain ⟨_, _, same, at_j', _, next, _⟩ := (overtaken _).mp late
      cases same
      cases at_j.symm.trans at_j'
      unfold Forwarder.MayBe
      rw [next]
      exact .inl rfl
    · rw [if_neg late]
      by_cases same : j = i
      · subst same
        cases here.symm.trans at_j
        rw [Function.update_self]
        unfold Forwarder.MayBe
        rw [inserts]
        exact .inl rfl
      · rw [Function.update_of_ne (fun h => same (FdbCall.learn.inj h))]
        refine (fits.learn j g (frame_still frames same at_j)).imp fun k next answered why => ?_
        by_cases fails : g.fails
        · exact .inl fails
        · refine .inr (present k ?_ (why.resolve_left fails))
          rintro rfl
          exact late ((overtaken _).mpr ⟨j, g, rfl, at_j, same, next, fails, answered⟩)
  · have other : FdbCall.filter i ≠ .learn i := nofun
    rw [if_neg apart, Function.update_of_ne other, fits.filter i _ (frame_moved here frames), inserts]
    rfl
  · intro c other _
    have outside : c ∉ l := by
      rw [overtaken]
      rintro ⟨j, g, rfl, at_j, _⟩
      exact other j (List.getElem?_eq_some_iff.mp at_j).1 rfl
    rw [if_neg outside]
    exact Function.update_of_ne (other i bound) _ _

theorem update_other {j k : Nat} {progress : Progress (FdbOp τ) (Option UbrVec)} (other : j ≠ k) :
    Function.update at_ (.other k) progress (.other j) = at_ (.other j) :=
  Function.update_of_ne (fun h => other (FdbCall.other.inj h)) _ _

theorem unused_next {k : Nat} (fits : Fits s' at_) (others : s'.others = k + 1) (j : Nat) (new : k ≤ j) :
    Function.update at_ (.other k) .idle (.other j) = .idle := by
  by_cases last : j = k
  · rw [last, Function.update_self]
  · rw [update_other last]
    exact fits.unused j (by omega)

theorem around {k : Nat} {progress : Progress (FdbOp τ) (Option UbrVec)} (fits : Fits s' at_)
    (frames : s'.frames = s.frames)
    (present : ∀ key, (s'.fdb.lookup key).isSome = true → (s.fdb.lookup key).isSome = true)
    (waiting : ∀ e ∈ s.expiring, Function.update at_ (.other k) progress (.other e.call) =
      .called (.expire e.addr e.now))
    (returned : ∀ j < s.others, (∀ e ∈ s.expiring, e.call ≠ j) →
      Function.update at_ (.other k) progress (.other j) = .returned)
    (unused : ∀ j, s.others ≤ j → Function.update at_ (.other k) progress (.other j) = .idle) :
    Fits s (Function.update at_ (.other k) progress) := by
  have learn (i : Nat) : Function.update at_ (.other k) progress (.learn i) = at_ (.learn i) := by simp
  have filter (i : Nat) : Function.update at_ (.other k) progress (.filter i) = at_ (.filter i) := by simp
  refine ⟨?_, ?_, ?_, waiting, returned, unused⟩
  · intro i f here
    rw [learn]
    exact (fits.learn i f (frames ▸ here)).mono present
  · intro i f here
    rw [filter]
    exact fits.filter i f (frames ▸ here)
  · intro i behind
    rw [learn, filter]
    exact fits.fresh i (frames ▸ behind)

end Fits

variable [Jiffies τ]

/-- What the calls do when they come one after the other. -/
def fdbApply (cfg : Config) (s : Database τ) : FdbOp τ → Database τ × Option UbrVec
  | .learn vlan skb env => ({ s with fdb := ubrFdbLearn s.fdb s.jiffies env vlan skb }, none)
  | .filter vlan skb env => (s, some (ubrFdbFilter cfg s.fdb s.jiffies env vlan skb))
  | .expire addr now => ({ s with fdb := (ubrFdbFlush s.fdb ageingOp now [.node addr]).1 }, none)
  | .tick n => ({ s with jiffies := Jiffies.later s.jiffies n }, none)

/-- The database as `ubr_fdb_newlink` leaves it. -/
def newDatabase (cfg : Config) (start : τ) : Database τ := ⟨{ ageingTimeout := 300 * cfg.hz }, start⟩

/-- Whatever is compatible with the state can have led to what was seen. -/
def Explained (cfg : Config) (start : τ) (h : List (FdbAct τ)) (s : Cpus τ) : Prop :=
  ∀ at_, Fits s at_ → ∃ order, Possible (fdbApply cfg) (newDatabase cfg start) h order s.database at_

/-- What holds as long as no sighting gets lost. -/
structure Cpus.Ok (s : Cpus τ) : Prop where
  sound : s.fdb.Sound
  frames : ∀ f ∈ s.frames, f.Pending s.fdb
  expiring : ∀ e ∈ s.expiring, e.call < s.others ∧
    ∃ n ∈ s.fdb.nodes, n.ref = e.ref ∧ n.addr = e.addr ∧ ubrFdbNodeIsOld s.fdb.view e.now n.node = true

/-- A database that differs by an entry that somebody has been quick to insert. -/
def Database.Alike (d base : Database τ) (key : UbrFdbAddr) : Prop :=
  d = base ∨ ∃ p, d = ⟨base.fdb.newcomer key base.jiffies p, base.jiffies⟩

namespace Explained

variable {start : τ} {h : List (FdbAct τ)} {s : Cpus τ} {i : Nat} {f : Forwarder}
  {at_ : FdbCall → Progress (FdbOp τ) (Option UbrVec)}

theorem receive (ok : Explained cfg start h s) (vlan : UbrVlan) (skb : Skb) (env : FrameEnv) :
    Explained cfg start h { s with frames := s.frames ++ [{ vlan, skb, env }] } :=
  fun at_ fits => ok at_ fits.receive

omit [Jiffies τ] in
theorem goTo_learn {next : ForwardStep} (fits : Fits (s.goTo i f next) at_) (here : s.frames[i]? = some f) :
    Forwarder.MayBe { f with next } s.fdb (at_ (.learn i)) := by
  refine fits.learn i _ ?_
  exact List.getElem?_set_self (List.getElem?_eq_some_iff.mp here).1

theorem apply_learn {m : FdbMemory τ} (same : m.view = ubrFdbLearn s.fdb.view s.jiffies f.env f.vlan f.skb) :
    fdbApply cfg s.database f.learnOp = (⟨m.view, s.jiffies⟩, none) := by
  simp only [fdbApply, Forwarder.learnOp, Cpus.database, same]

theorem apply_overtaken {d base : Database τ} (valid : isValidEtherAddr f.skb.frame.hSource = true) (works : ¬ f.fails)
    (unknown : base.fdb.lookup f.key = none) (alike : d.Alike base f.key) :
    fdbApply cfg d f.learnOp = (⟨base.fdb.newcomer f.key base.jiffies f.skb.cb.pidx, base.jiffies⟩, none) := by
  rcases alike with rfl | ⟨p, rfl⟩
  · have learned : ubrFdbLearn d.fdb d.jiffies f.env f.vlan f.skb = d.fdb.newcomer f.key d.jiffies f.skb.cb.pidx :=
      ubrFdbLearn_newcomer valid unknown works
    simp only [fdbApply, Forwarder.learnOp, learned]
  · have learned :
        ubrFdbLearn (base.fdb.newcomer f.key base.jiffies p) base.jiffies f.env f.vlan f.skb =
          base.fdb.newcomer f.key base.jiffies f.skb.cb.pidx := ubrFdbLearn_overtaken valid unknown p
    simp only [fdbApply, Forwarder.learnOp, learned]

section Learn

variable (ok : Explained cfg start h s) (here : s.frames[i]? = some f)

include ok here

theorem uncalled {next : ForwardStep} (first : f.next = .learn) (fits : Fits (s.goTo i f next) at_)
    (on : next ≠ .done) :
    ∃ order, Possible (fdbApply cfg) (newDatabase cfg start) h order s.database
      (Function.update at_ (.learn i) .idle) := by
  have going : f.next ≠ .done := by
    rw [first]
    exact nofun
  have idle : f.MayBe s.fdb (.idle : Progress (FdbOp τ) (Option UbrVec)) := by
    unfold Forwarder.MayBe
    rw [first]
  exact ok _ (fits.backLearn here rfl rfl rfl going on (fun _ => id) idle)

theorem pass (first : f.next = .learn) (off : f.learns = false) : Explained cfg start h (s.goTo i f .lookup) := by
  intro at_ fits
  obtain ⟨order, possible⟩ := ok.uncalled here first fits nofun
  have progress : at_ (.learn i) = if f.learns then .returned else .idle := goTo_learn fits here
  rw [off, if_neg (by simp)] at progress
  rw [← progress, Function.update_eq_self] at possible
  exact ⟨order, possible⟩

theorem skip (first : f.next = .learn) (learns : f.learns = true) (found : s.fdb.learnFind f.vlan f.skb = .lookup) :
    Explained cfg start (.ret (.learn i) none :: .call (.learn i) f.learnOp :: h) (s.goTo i f .lookup) := by
  intro at_ fits
  obtain ⟨order, possible⟩ := ok.uncalled here first fits nofun
  have progress : at_ (.learn i) = .returned := fits.learned here rfl learns
  have next := possible.whole f.learnOp progress
  rw [apply_learn (FdbMemory.learnFind_lookup found f.env s.jiffies).symm] at next
  exact ⟨_, next⟩

theorem find {ref : NodeRef} (first : f.next = .learn) :
    Explained cfg start (.call (.learn i) f.learnOp :: h) (s.goTo i f (.refresh ref)) := by
  intro at_ fits
  obtain ⟨order, possible⟩ := ok.uncalled here first fits nofun
  have progress : at_ (.learn i) = .called f.learnOp := goTo_learn fits here
  exact ⟨order, possible.called progress⟩

/-- A frame whose insertion is going to fail may have been learned by now. -/
theorem miss {key : UbrFdbAddr} (first : f.next = .learn) (found : s.fdb.learnFind f.vlan f.skb = .insert key) :
    Explained cfg start (.call (.learn i) f.learnOp :: h) (s.goTo i f (.insert key)) := by
  intro at_ fits
  obtain ⟨order, possible⟩ := ok.uncalled here first fits nofun
  obtain ⟨valid, rfl, unknown⟩ := FdbMemory.learnFind_insert found
  have progress : at_ (.learn i) = .called f.learnOp ∨
      (at_ (.learn i) = .answered none ∧ (f.fails ∨ (s.fdb.lookup f.key).isSome = true)) := goTo_learn fits here
  rcases progress with waits | ⟨answered, why⟩
  · exact ⟨order, possible.called waits⟩
  · have fails : f.fails := by
      rcases why with fails | known
      · exact fails
      · change s.fdb.lookup f.key = none at unknown
        rw [unknown] at known
        cases known
    have seen := FdbMemory.view_lookup s.fdb f.key
    change s.fdb.lookup f.key = none at unknown
    rw [unknown] at seen
    have same : fdbApply cfg s.database f.learnOp = (⟨s.fdb.view, s.jiffies⟩, none) :=
      apply_learn (ubrFdbLearn_failed valid seen fails).symm
    have next := (possible.begun f.learnOp).performed (by rw [same]; exact answered)
    rw [same] at next
    exact ⟨_, next⟩

theorem refresh {ref : NodeRef} (sound : s.fdb.Sound) (pending : f.Pending s.fdb) (next : f.next = .refresh ref) :
    Explained cfg start (.ret (.learn i) none :: h)
      { s.goTo i f .lookup with fdb := s.fdb.refreshAt ref f.skb.cb.pidx s.jiffies } := by
  unfold Forwarder.Pending at pending
  rw [next] at pending
  obtain ⟨learns, valid, holds⟩ := pending
  intro at_ fits
  have progress : at_ (.learn i) = .returned := fits.learned here rfl learns
  have going : f.next ≠ .done := by
    rw [next]
    exact nofun
  have waits : f.MayBe s.fdb (.called f.learnOp) := by
    unfold Forwarder.MayBe
    rw [next]
  have view := FdbMemory.view_refreshAt sound valid holds f.env s.jiffies
  obtain ⟨n, inside, rfl, _⟩ := holds
  obtain ⟨order, possible⟩ := ok _ (fits.backLearn here rfl rfl rfl going nofun
    (fun key => (FdbMemory.lookup_refreshAt sound inside).symm ▸ id) waits)
  have performed := possible.performs progress
  rw [apply_learn view] at performed
  exact ⟨_, performed⟩

/-- The frame has been learned before whoever inserted the key, or its insertion fails. -/
theorem late {key : UbrFdbAddr} (learns : f.learns = true) (next : f.next = .insert key)
    (late : f.fails ∨ (s.fdb.lookup key).isSome = true) : Explained cfg start (.ret (.learn i) none :: h)
      { s.goTo i f .lookup with fdb := (s.fdb.learnInsert s.jiffies f.env key f.skb.cb.pidx).1 } := by
  intro at_ fits
  have progress : at_ (.learn i) = .returned := fits.learned here rfl learns
  have going : f.next ≠ .done := by
    rw [next]
    exact nofun
  have answered : f.MayBe s.fdb (.answered none) := by
    unfold Forwarder.MayBe
    rw [next]
    exact .inr ⟨rfl, late⟩
  obtain ⟨nodes, view⟩ := s.fdb.learnInsert_late s.jiffies f.skb.cb.pidx late
  obtain ⟨order, possible⟩ := ok _ (fits.backLearn here rfl rfl rfl going nofun
    (fun key known => by simpa only [FdbMemory.lookup, nodes] using known) answered)
  have finished := possible.finished progress
  rw [Cpus.database, ← view] at finished
  exact ⟨order, finished⟩

/-- The frame inserts its key. Those that had missed the key too and are going to fail for that
    are learned right before it. -/
theorem insert (state : s.Ok) (inserts : f.next = .insert f.key) (learns : f.learns = true)
    (valid : isValidEtherAddr f.skb.frame.hSource = true) (works : ¬ f.fails) (unknown : s.fdb.lookup f.key = none) :
    Explained cfg start (.ret (.learn i) none :: h)
      { s.goTo i f .lookup with fdb := (s.fdb.learnInsert s.jiffies f.env f.key f.skb.cb.pidx).1 } := by
  intro at_ fits
  have progress : at_ (.learn i) = .returned := fits.learned here rfl learns
  have seen := FdbMemory.view_lookup s.fdb f.key
  rw [unknown] at seen
  have view : (s.fdb.learnInsert s.jiffies f.env f.key f.skb.cb.pidx).1.view =
      s.fdb.view.newcomer f.key s.jiffies f.skb.cb.pidx :=
    (FdbMemory.view_learnInsert_new valid unknown works).trans (ubrFdbLearn_newcomer valid seen works)
  obtain ⟨l, once, overtaken⟩ := exists_overtaken s at_ i f.key
  obtain ⟨order, possible⟩ := ok _ (fits.rewind here rfl rfl rfl inserts overtaken (FdbMemory.lookup_learnInsert s.fdb))
  have keep : ∀ c ∈ l, ∀ d, d.Alike s.database f.key →
      (fdbApply cfg d (s.opOf c)).1.Alike s.database f.key ∧ (fdbApply cfg d (s.opOf c)).2 = none := by
    intro c inside d alike
    obtain ⟨j, g, rfl, at_j, _, next, works', _⟩ := (overtaken c).mp inside
    have pending := state.frames g (List.mem_of_getElem? at_j)
    unfold Forwarder.Pending at pending
    rw [next] at pending
    obtain ⟨_, valid', same⟩ := pending
    rw [same] at seen alike ⊢
    rw [opOf_learn at_j, apply_overtaken valid' works' seen alike]
    exact ⟨.inr ⟨_, rfl⟩, rfl⟩
  have answered : ∀ c ∈ l, Function.update at_ (.learn i) (.called f.learnOp) c = .answered none := by
    intro c inside
    obtain ⟨j, g, rfl, _, other, _, _, answered⟩ := (overtaken c).mp inside
    rw [Function.update_of_ne (fun h => other (FdbCall.learn.inj h)), answered]
  obtain ⟨order', d, alike, possible⟩ := possible.performAll once keep (.inl rfl) answered
  have performed := possible.performs progress
  rw [apply_overtaken valid works seen alike] at performed
  exact ⟨_, (congrArg (Database.mk · s.jiffies) view) ▸ performed⟩

theorem filter (next : f.next = .lookup) : Explained cfg start
    (.ret (.filter i) (some (s.fdb.filter cfg s.jiffies f.env f.vlan f.skb).1) ::
      .call (.filter i) (.filter f.vlan f.skb f.env) :: h) (s.goTo i f .done) := by
  intro at_ fits
  have bound := (List.getElem?_eq_some_iff.mp here).1
  have moved : (s.goTo i f .done).frames[i]? = some { f with next := .done } := List.getElem?_set_self bound
  have before : Fits s (Function.update at_ (.filter i) .idle) := by
    refine fits.back here rfl rfl rfl ?_ ?_ ?_
    · intro j g at_j
      have apart : FdbCall.learn j ≠ .filter i := nofun
      rw [Function.update_of_ne apart]
      by_cases same : j = i
      · subst same
        cases here.symm.trans at_j
        have may : at_ (.learn j) = if f.learns then .returned else .idle := fits.learn j _ moved
        unfold Forwarder.MayBe
        rw [next]
        exact may
      · have still : (s.goTo i f .done).frames[j]? = some g := (List.getElem?_set_ne (Ne.symm same)).trans at_j
        exact fits.learn j g still
    · rw [Function.update_self, next]
      rfl
    · exact fun c _ other => Function.update_of_ne other _ _
  obtain ⟨order, possible⟩ := ok _ before
  have progress : at_ (.filter i) = .returned := fits.filter i _ moved
  have looked := possible.whole (.filter f.vlan f.skb f.env) progress
  exact ⟨_, looked⟩

end Learn

section Elsewhere

theorem apply_expire (cfg : Config) {n : StoredNode τ} {addr : UbrFdbAddr} (now : τ)
    (found : s.fdb.lookup addr = some n) :
    fdbApply cfg s.database (.expire addr now) = if ubrFdbNodeIsOld s.fdb.view now n.node then
      (⟨(s.fdb.removeNode n).view, s.jiffies⟩, none) else (s.database, none) := by
  have seen := FdbMemory.view_lookup s.fdb addr
  rw [found] at seen
  simp only [fdbApply, Cpus.database, ubrFdbFlush, seen, Option.map_some, ageing_selects, FdbMemory.view_removeNode]
  split <;> rfl

variable (ok : Explained cfg start h s)

include ok

theorem other {op : FdbOp τ} {now : τ} (counted : ∀ e ∈ s.expiring, e.call < s.others)
    (same : fdbApply cfg s.database op = (⟨s.fdb.view, now⟩, none)) :
    Explained cfg start (.ret (.other s.others) none :: .call (.other s.others) op :: h)
      { s with jiffies := now, others := s.others + 1 } := by
  intro at_ fits
  have before : Fits s (Function.update at_ (.other s.others) .idle) := by
    refine fits.around rfl (fun _ => id) ?_ ?_ (fits.unused_next rfl)
    · intro e pending
      rw [Fits.update_other (Nat.ne_of_lt (counted e pending))]
      exact fits.waiting e pending
    · intro k old free
      rw [Fits.update_other (Nat.ne_of_lt old)]
      exact fits.returned k (Nat.lt_succ_of_lt old) free
  have progress : at_ (.other s.others) = .returned :=
    fits.returned s.others (Nat.lt_succ_self _) fun e pending => Nat.ne_of_lt (counted e pending)
  obtain ⟨order, possible⟩ := ok _ before
  have performed := possible.whole op progress
  rw [same] at performed
  exact ⟨_, performed⟩

theorem select {ref : NodeRef} {addr : UbrFdbAddr} (free : s.expiring = none) :
    Explained cfg start (.call (.other s.others) (.expire addr s.jiffies) :: h)
      { s with expiring := some ⟨s.others, ref, addr, s.jiffies⟩, others := s.others + 1 } := by
  intro at_ fits
  have before : Fits s (Function.update at_ (.other s.others) .idle) := by
    refine fits.around rfl (fun _ => id) ?_ ?_ (fits.unused_next rfl)
    · rw [free]
      exact nofun
    · intro k old _
      rw [Fits.update_other (Nat.ne_of_lt old)]
      refine fits.returned k (Nat.lt_succ_of_lt old) fun e pending => ?_
      cases pending
      exact (Nat.ne_of_lt old).symm
  obtain ⟨order, possible⟩ := ok _ before
  exact ⟨order, possible.called (fits.waiting _ rfl)⟩

theorem remove {e : Expiring τ} (state : s.Ok) (selected : s.expiring = some e) :
    Explained cfg start (.ret (.other e.call) none :: h) { s with fdb := s.fdb.removeAt e.ref, expiring := none } := by
  obtain ⟨counted, n, inside, ref, addr, old⟩ := state.expiring e selected
  have removes : s.fdb.removeAt e.ref = s.fdb.removeNode n := ref ▸ FdbMemory.removeAt_eq state.sound inside
  intro at_ fits
  have present (key : UbrFdbAddr) (known : ((s.fdb.removeAt e.ref).lookup key).isSome = true) :
      (s.fdb.lookup key).isSome = true := FdbMemory.lookup_removeNode (removes ▸ known)
  have before : Fits s (Function.update at_ (.other e.call) (.called (.expire e.addr e.now))) := by
    refine fits.around rfl present ?_ ?_ ?_
    · intro e' pending
      cases selected.symm.trans pending
      exact Function.update_self ..
    · intro k inUse free
      rw [Fits.update_other (Ne.symm (free e selected))]
      exact fits.returned k inUse nofun
    · intro k new
      rw [Fits.update_other (Nat.ne_of_gt (Nat.lt_of_lt_of_le counted new))]
      exact fits.unused k new
  have progress : at_ (.other e.call) = .returned := fits.returned e.call counted nofun
  obtain ⟨order, possible⟩ := ok _ before
  have performed := possible.performs progress
  have found : s.fdb.lookup e.addr = some n := addr ▸ Table.lookup_of_mem state.sound.unique inside
  rw [apply_expire cfg e.now found, if_pos old] at performed
  exact ⟨_, (congrArg (fun m => Database.mk (FdbMemory.view m) s.jiffies) removes.symm) ▸ performed⟩

end Elsewhere

end Explained

namespace Cpus.Ok

variable {s s' : Cpus τ} {i : Nat} {f : Forwarder} {m : FdbMemory τ} {next : ForwardStep}

omit [Jiffies τ] in
theorem pending_mono {m' : FdbMemory τ} (pending : f.Pending m)
    (keep : ∀ ref, f.next = .refresh ref → m.Holds ref f.key → m'.Holds ref f.key) : f.Pending m' := by
  unfold Forwarder.Pending at pending ⊢
  split
  · rename_i ref step
    simp only [step] at pending
    exact ⟨pending.1, pending.2.1, keep ref step pending.2.2⟩
  · rename_i key step
    simpa only [step] using pending
  · trivial

theorem goTo (ok : s.Ok) (sound : m.Sound) (holds : ∀ ref key, s.fdb.Holds ref key → m.Holds ref key)
    (mine : Forwarder.Pending { f with next } m)
    (stays : ∀ e ∈ s.expiring, ∀ n ∈ s.fdb.nodes, n.ref = e.ref → n ∈ m.nodes)
    (timeout : m.ageingTimeout = s.fdb.ageingTimeout) : ({ s.goTo i f next with fdb := m } : Cpus τ).Ok where
  sound := sound
  frames g inside := by
    rcases List.mem_or_eq_of_mem_set inside with old | rfl
    · exact pending_mono (ok.frames g old) fun ref _ => holds ref g.key
    · exact mine
  expiring e pending := by
    obtain ⟨counted, n, inside, ref, addr, old⟩ := ok.expiring e pending
    exact ⟨counted, n, stays e pending n inside ref, ref, addr, (isOld_congr timeout n.node).trans old⟩

theorem passes (ok : s.Ok) (mine : Forwarder.Pending { f with next } s.fdb) : (s.goTo i f next).Ok :=
  ok.goTo ok.sound (fun _ _ => id) mine (fun _ _ _ inside _ => inside) rfl

theorem begin (ok : s.Ok) (learns : f.learns = true) (found : s.fdb.learnFind f.vlan f.skb = next) :
    (s.goTo i f next).Ok := by
  apply ok.passes
  cases next with
  | refresh ref =>
      obtain ⟨valid, holds⟩ := FdbMemory.learnFind_refresh found
      exact ⟨learns, valid, holds⟩
  | insert key =>
      obtain ⟨valid, same, _⟩ := FdbMemory.learnFind_insert found
      exact ⟨learns, valid, same⟩
  | _ => trivial

theorem refresh (ok : s.Ok) {ref : NodeRef} (holds : s.fdb.Holds ref f.key) (spared : ∀ e ∈ s.expiring, ref ≠ e.ref) :
    ({ s.goTo i f .lookup with fdb := s.fdb.refreshAt ref f.skb.cb.pidx s.jiffies } : Cpus τ).Ok := by
  have other (e : Expiring τ) (pending : e ∈ s.expiring) (n : StoredNode τ) (inside : n ∈ s.fdb.nodes)
    (same : n.ref = e.ref) : n ∈ (s.fdb.refreshAt ref f.skb.cb.pidx s.jiffies).nodes :=
    FdbMemory.mem_refreshAt inside fun here => spared e pending (here.symm.trans same)
  refine ok.goTo ?_ (fun _ _ held => held.refreshAt ref) trivial other rfl
  obtain ⟨n, inside, rfl, _⟩ := holds
  rw [FdbMemory.refreshAt_eq ok.sound inside]
  exact ok.sound.refresh

theorem insert (ok : s.Ok) (key : UbrFdbAddr) :
    ({ s.goTo i f .lookup with fdb := (s.fdb.learnInsert s.jiffies f.env key f.skb.cb.pidx).1 } : Cpus τ).Ok := by
  refine ok.goTo ok.sound.learnInsert (fun _ _ held => held.learnInsert key) trivial ?_ ?_
  · intro e _ n inside _
    rw [FdbMemory.learnInsert_nodes]
    split
    · exact List.mem_cons_of_mem _ inside
    · exact inside
  · simp only [FdbMemory.learnInsert]
    split
    · rfl
    · split <;> rfl

theorem remove (ok : s.Ok) {e : Expiring τ} (selected : s.expiring = some e)
    (spared : ∀ f ∈ s.frames, f.next ≠ .refresh e.ref) :
    ({ s with fdb := s.fdb.removeAt e.ref, expiring := none } : Cpus τ).Ok := by
  obtain ⟨_, n, inside, ref, _⟩ := ok.expiring e selected
  rw [← ref, FdbMemory.removeAt_eq ok.sound inside]
  refine ⟨ok.sound.removeNode inside, fun f here => ?_, nofun⟩
  refine pending_mono (ok.frames f here) fun held next holds => ?_
  refine holds.removeNode ok.sound inside fun same => ?_
  exact spared f here (by rw [next, same, ref])

end Cpus.Ok

section Run

variable {start : τ} {h : List (FdbAct τ)} {s s' : Cpus τ} {i : Nat} {f : Forwarder}

theorem begin_explained (ok : s.Ok) (explained : Explained cfg start h s) (here : s.frames[i]? = some f)
    (first : f.next = .learn) :
    (s.advance cfg i f).1.Ok ∧ Explained cfg start ((s.advance cfg i f).2 ++ h) (s.advance cfg i f).1 := by
  cases learns : f.learns with
  | false =>
      simp only [Cpus.advance, first, learns, Bool.false_eq_true, if_false]
      exact ⟨ok.passes trivial, explained.pass here first learns⟩
  | true =>
      rcases s.fdb.learnFind_cases f.vlan f.skb with found | ⟨ref, found⟩ | ⟨key, found⟩
      · simp only [Cpus.advance, first, learns, if_true, found]
        exact ⟨ok.begin learns found, explained.skip here first learns found⟩
      · simp only [Cpus.advance, first, learns, if_true, found]
        exact ⟨ok.begin learns found, explained.find here first⟩
      · simp only [Cpus.advance, first, learns, if_true, found]
        exact ⟨ok.begin learns found, explained.miss here first found⟩

theorem advance_explained (ok : s.Ok) (explained : Explained cfg start h s) (here : s.frames[i]? = some f)
    (spared : ∀ e ∈ s.expiring, f.next ≠ .refresh e.ref) :
    (s.advance cfg i f).1.Ok ∧ Explained cfg start ((s.advance cfg i f).2 ++ h) (s.advance cfg i f).1 := by
  have pending := ok.frames f (List.mem_of_getElem? here)
  unfold Forwarder.Pending at pending
  cases next : f.next with
  | learn => exact begin_explained ok explained here next
  | refresh ref =>
      rw [next] at pending
      simp only [Cpus.advance, next]
      have apart (e : Expiring τ) (selected : e ∈ s.expiring) : ref ≠ e.ref :=
        fun same => spared e selected (same ▸ next)
      exact ⟨ok.refresh pending.2.2 apart,
        explained.refresh here ok.sound (ok.frames f (List.mem_of_getElem? here)) next⟩
  | insert key =>
      rw [next] at pending
      obtain ⟨learns, valid, rfl⟩ := pending
      simp only [Cpus.advance, next]
      refine ⟨ok.insert f.key, ?_⟩
      by_cases late : f.fails ∨ (s.fdb.lookup f.key).isSome = true
      · exact explained.late here learns next late
      · rw [not_or] at late
        exact explained.insert here ok next learns valid late.1 (by simpa using late.2)
  | lookup =>
      simp only [Cpus.advance, next]
      exact ⟨ok.passes trivial, explained.filter here next⟩
  | done =>
      simp only [Cpus.advance, next]
      exact ⟨ok, explained⟩

theorem visit_explained (ok : s.Ok) (explained : Explained cfg start h s) (free : s.expiring = none)
    (addr : UbrFdbAddr) : (s.visit addr).1.Ok ∧ Explained cfg start ((s.visit addr).2 ++ h) (s.visit addr).1 := by
  unfold Cpus.visit
  cases found : s.fdb.lookup addr with
  | none => exact ⟨ok, explained⟩
  | some n =>
      by_cases old : ubrFdbNodeIsOld s.fdb.view s.jiffies n.node = true
      · simp only [if_pos old]
        refine ⟨⟨ok.sound, ok.frames, ?_⟩, explained.select free⟩
        intro e selected
        cases selected
        exact ⟨Nat.lt_succ_self _, n, Table.mem_of_lookup found, rfl, Table.key_of_lookup found, old⟩
      · simp only [if_neg old]
        have counted : ∀ e ∈ s.expiring, e.call < s.others := fun e selected => (ok.expiring e selected).1
        have same := Explained.apply_expire cfg s.jiffies found
        rw [if_neg old] at same
        refine ⟨⟨ok.sound, ok.frames, ?_⟩, explained.other counted same⟩
        rw [free]
        exact nofun

theorem exec_explained {e : CpuEvent} {seen : List (FdbAct τ)} (ok : s.Ok) (explained : Explained cfg start h s)
    (enabled : s.Enabled e) (spares : s.SparesFound e) (done : s.exec cfg e = .ok (s', seen)) :
    s'.Ok ∧ Explained cfg start (seen ++ h) s' := by
  have counted : ∀ e ∈ s.expiring, e.call < s.others := fun e selected => (ok.expiring e selected).1
  cases e with
  | receive vlan skb env =>
      cases done
      refine ⟨⟨ok.sound, fun f inside => ?_, ok.expiring⟩, explained.receive vlan skb env⟩
      rcases List.mem_append.mp inside with old | new
      · exact ok.frames f old
      · cases List.mem_singleton.mp new
        trivial
  | advance i =>
      simp only [Cpus.exec] at done
      split at done
      · cases done
        exact ⟨ok, explained⟩
      · rename_i f here
        have all := advance_explained ok explained here (spares f here)
        rw [Except.ok.inj done] at all
        exact all
  | visit addr =>
      have all := visit_explained ok explained (Option.isNone_iff_eq_none.mp enabled) addr
      rw [Except.ok.inj done] at all
      exact all
  | remove =>
      simp only [Cpus.exec] at done
      split at done
      · cases done
        exact ⟨ok, explained⟩
      · rename_i e selected
        cases done
        exact ⟨ok.remove selected (spares e selected), explained.remove ok selected⟩
  | tick n =>
      cases done
      refine ⟨⟨ok.sound, ok.frames, fun e selected => ?_⟩, explained.other counted rfl⟩
      exact ⟨Nat.lt_succ_of_lt (counted e selected), (ok.expiring e selected).2⟩

/-- What was seen on a run can have come about from any compatible progress. -/
theorem explained_of_run {tr : CpuHistory τ} (run : Run (cpus τ cfg start) Cpus.SparesFound tr s) :
    s.Ok ∧ Explained cfg start (acts tr) s := by
  refine run.invariant (I := fun tr s => s.Ok ∧ Explained cfg start (acts tr) s) ?_ ?_
  · rintro s rfl
    refine ⟨⟨.empty _, fun f inside => absurd inside List.not_mem_nil, nofun⟩, fun at_ fits => ⟨[], ?_⟩⟩
    have idle : at_ = fun _ => .idle := by
      funext c
      cases c with
      | learn i => exact (fits.fresh i (Nat.zero_le i)).1
      | filter i => exact (fits.fresh i (Nat.zero_le i)).2
      | other k => exact fits.unused k (Nat.zero_le k)
    rw [idle]
    exact .start
  · intro tr s e s' seen _ ⟨ok, explained⟩ enabled spares done
    exact exec_explained ok explained enabled spares done

/-- Whoever waits has not been served yet. -/
def Cpus.progress (s : Cpus τ) : FdbCall → Progress (FdbOp τ) (Option UbrVec)
  | .learn i =>
      match s.frames[i]? with
      | none => .idle
      | some f =>
          match f.next with
          | .learn => .idle
          | .refresh _ | .insert _ => .called f.learnOp
          | .lookup | .done => if f.learns then .returned else .idle
  | .filter i => if ∃ f ∈ s.frames[i]?, f.next = .done then .returned else .idle
  | .other k =>
      if k < s.others then
        match s.expiring with
        | some e => if e.call = k then .called (.expire e.addr e.now) else .returned
        | none => .returned
      else .idle

omit [Jiffies τ] in
theorem progress_fits (s : Cpus τ) (counted : ∀ e ∈ s.expiring, e.call < s.others) : Fits s s.progress := by
  refine ⟨?_, ?_, ?_, ?_, ?_, ?_⟩
  · intro i f here
    unfold Forwarder.MayBe
    simp only [Cpus.progress, here]
    cases f.next with
    | insert key => exact .inl rfl
    | _ => rfl
  · intro i f here
    simp [Cpus.progress, here]
  · intro i behind
    have missing : s.frames[i]? = none := List.getElem?_eq_none_iff.mpr behind
    simp [Cpus.progress, missing]
  · intro e selected
    have found : s.expiring = some e := selected
    simp [Cpus.progress, found, counted e selected]
  · intro k inUse free
    simp only [Cpus.progress, if_pos inUse]
    split
    · rename_i e found
      exact if_neg (free e found)
    · rfl
  · intro k new
    exact if_neg (Nat.not_lt_of_ge new)

/-- What is seen of the database can have been the result of one operation after the other:
    each `ubr_fdb_learn`, each lookup of `ubr_fdb_forward` and each removal by the ageing work
    takes effect at one point between its call and its return, as long as no frame refreshes a
    node that the ageing work has selected. -/
theorem fdb_is_linearizable {tr : CpuHistory τ} (run : Run (cpus τ cfg start) Cpus.SparesFound tr s) :
    ∃ order, Linearization (fdbApply cfg) (newDatabase cfg start) (acts tr) order s.database := by
  obtain ⟨ok, explained⟩ := explained_of_run run
  obtain ⟨order, possible⟩ := explained s.progress (progress_fits s fun e selected => (ok.expiring e selected).1)
  exact ⟨order, possible.linearization⟩

/-- A frame of the station that was received on this port. -/
def stationOn (pidx : Pidx) : CpuEvent :=
  .receive { vid := 0, saLearning := true, mcflood := .fill, bcflood := .fill, ucflood := .fill }
    { stationFrame with cb := { pidx, saLearning := true, vlan := some 0 } } {}

/-- Two frames of a station on two ports miss its key, and the one that came first inserts it
    last, which fails. The entry that is left ages and is removed, while a frame to the station is looked up. -/
theorem fdb_is_linearizable_race : ∃ tr s, Run (cpus Nat x86 0) Cpus.SparesFound tr s ∧
    (s.fdb.nodes.isEmpty && s.fdb.rcu.map (fun n => n.node.vec) == [Bitmap.zero.set 2] && (acts tr).length == 12) =
    true ∧ ∃ order, Linearization (fdbApply x86) (newDatabase x86 0) (acts tr) order s.database := by
  obtain ⟨tr, s, run, test⟩ := Machine.exists_run_of_play (C := Cpus.SparesFound)
    [stationOn 1, stationOn 2, .advance 0, .advance 1, .advance 1, .advance 0, .advance 1, .tick 100000,
      .visit (macKey 0 0x020000000099), .advance 0, .remove]
    (M := cpus Nat x86 0) rfl
    (fun tr s =>
      s.fdb.nodes.isEmpty && s.fdb.rcu.map (fun n => n.node.vec) == [Bitmap.zero.set 2] && (acts tr).length == 12)
    (by decide +kernel)
  exact ⟨tr, s, run, test, fdb_is_linearizable run⟩

end Run

end UnassumingBridge
