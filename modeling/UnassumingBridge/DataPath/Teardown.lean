import UnassumingBridge.Invariants.Quiescence
import UnassumingBridge.DataPath.Delivery

/-! # The FDB after teardown

`ubr_dev_dellink` gets the slaves, the ageing work and the flush in the right order
before it destroys the table. The host's own frames it does not wait for: the device
is closed only afterwards. So nothing is used after it is gone, and no node is lost,
exactly when the host keeps out of the way.
-/

namespace UnassumingBridge

open Support

variable {τ : Type} {cfg : Config}

abbrev TeardownHistory (τ : Type) := List (Transition (Teardown τ) TeardownEvent TeardownOutcome)

/-- What a run did to the table and to nodes, in the order in which it happened. -/
def handled : TeardownHistory τ → List FdbHandling
  | [] => []
  | t :: tr => handled tr ++ t.ret.handled

namespace Teardown

/-- The next step of the frame reads or writes the hash table. -/
def touches (s : Teardown τ) (f : InFlight) : Bool :=
  match f.stage with
  | .learn =>
      match s.sys.ubr.vlanAt f.skb.cb.vlan with
      | .ok vlan => f.skb.cb.saLearning && vlan.saLearning && isValidEtherAddr f.skb.frame.hSource
      | .error _ => false
  | .insert _ => !f.env.nodeAllocFails
  | .lookup => true
  | .deliver => false

/-- The next step of the frame puts a node into the hash table. -/
def enters (s : Teardown τ) (f : InFlight) : Bool :=
  match f.stage with
  | .insert key => !f.env.nodeAllocFails && !f.env.nodeInsertFails && (s.fdb.lookup key).isNone
  | _ => false

/-- Frames of the host are through with the table when it is destroyed, and put no
    node into it once it was flushed. -/
def HostQuiet (s : Teardown τ) : TeardownEvent → Prop
  | .advance i => ∀ f ∈ s.flight[i]?, f.source = none →
      (s.touches f = true → s.phase.hasTable = true) ∧ (s.enters f = true → s.phase.flushAhead = true)
  | _ => True

instance (s : Teardown τ) : (e : TeardownEvent) → Decidable (s.HostQuiet e)
  | .advance i => inferInstanceAs (Decidable (∀ f ∈ s.flight[i]?, f.source = none →
      (s.touches f = true → s.phase.hasTable = true) ∧ (s.enters f = true → s.phase.flushAhead = true)))
  | .around .. | .rx .. | .xmit .. | .age .. | .nodeFree .. | .dellink | .flush .. => .isTrue trivial

/-- The device is unregistered and the callbacks have run. -/
structure Finished (s : Teardown τ) : Prop where
  phase : s.phase = .gone
  rcu : s.fdb.rcu = []

def LateTouch (s : Teardown τ) (e : TeardownEvent) : Prop :=
  ∃ i f, e = .advance i ∧ s.flight[i]? = some f ∧ s.touches f = true ∧ s.phase.hasTable = false

def LateEntry (s : Teardown τ) (e : TeardownEvent) : Prop :=
  ∃ i f, e = .advance i ∧ s.flight[i]? = some f ∧ s.enters f = true ∧ s.phase.flushAhead = false

end Teardown

theorem Phase.flushAhead_of_ageing {phase : Phase} (ageing : phase.ageing = true) : phase.flushAhead = true := by
  cases phase with
  | up | removing => rfl
  | _ => cases ageing

theorem Phase.hasTable_of_flushAhead {phase : Phase} (ahead : phase.flushAhead = true) : phase.hasTable = true := by
  cases phase with
  | up | removing | cancelled => rfl
  | _ => cases ahead

section Step

variable {s s' : Teardown τ} {e : TeardownEvent} {log : List FdbHandling} {L : Ledger FdbObject}

open Teardown

theorem lateTouch_advance {i : Nat} {f : InFlight} (here : s.flight[i]? = some f) :
    LateTouch s (.advance i) ↔ s.touches f = true ∧ s.phase.hasTable = false := by
  constructor
  · rintro ⟨j, g, same, there, late⟩
    cases same
    cases here.symm.trans there
    exact late
  · exact fun late => ⟨i, f, rfl, here, late⟩

theorem lateEntry_advance {i : Nat} {f : InFlight} (here : s.flight[i]? = some f) :
    LateEntry s (.advance i) ↔ s.enters f = true ∧ s.phase.flushAhead = false := by
  constructor
  · rintro ⟨j, g, same, there, late⟩
    cases same
    cases here.symm.trans there
    exact late
  · exact fun late => ⟨i, f, rfl, here, late⟩

/-- The frames that come too late are the host's. -/
theorem hostQuiet_iff (ok : Quiesced s) : s.HostQuiet e ↔ ¬ LateTouch s e ∧ ¬ LateEntry s e := by
  have ours {f : InFlight} {i : Nat} (here : s.flight[i]? = some f) (late : s.phase.flushAhead = false) :
      f.source = none := by
    refine ok.host_only ?_ (List.mem_of_getElem? here)
    cases ageing : s.phase.ageing with
    | false => rfl
    | true => rw [Phase.flushAhead_of_ageing ageing] at late; cases late
  cases e with
  | advance i =>
      constructor
      · intro quiet
        refine ⟨fun ⟨j, f, same, here, touches, late⟩ => ?_, fun ⟨j, f, same, here, enters, late⟩ => ?_⟩
        · cases same
          have behind : s.phase.flushAhead = false := by
            cases ahead : s.phase.flushAhead with
            | false => rfl
            | true => rw [Phase.hasTable_of_flushAhead ahead] at late; cases late
          rw [(quiet f here (ours here behind)).1 touches] at late
          cases late
        · cases same
          rw [(quiet f here (ours here late)).2 enters] at late
          cases late
      · rintro ⟨noTouch, noEntry⟩ f here _
        rw [lateTouch_advance here] at noTouch
        rw [lateEntry_advance here] at noEntry
        exact ⟨fun touches => by simpa [touches] using noTouch, fun enters => by simpa [enters] using noEntry⟩
  | _ =>
      refine ⟨fun _ => ⟨?_, ?_⟩, fun _ => trivial⟩
      · rintro ⟨_, _, impossible, _⟩
        cases impossible
      · rintro ⟨_, _, impossible, _⟩
        cases impossible

variable [Jiffies τ]

theorem sound_step (sound : s.fdb.Sound) (move : Move cfg s e s' log) : s'.fdb.Sound := by
  cases move with
  | learn => exact sound.learnLookup
  | insert => exact sound.learnInsert
  | age | flush => exact sound.flush _
  | nodeFree => exact sound.nodeDeleteRcu _
  | _ => exact sound

/-- The ledger goes on from a step, unless the step comes too late. -/
private def Goes (s : Teardown τ) (e : TeardownEvent) (s' : Teardown τ) (log : List FdbHandling)
    (L : Ledger FdbObject) : Prop :=
  (∃ L', L.replay log = some L' ∧ s'.fdb.Books s'.phase.hasTable L' ∧ ¬ LateTouch s e) ∨
    (L.Disturbed log ∧ LateTouch s e)

omit [Jiffies τ] in
private theorem Goes.silent (books : s.fdb.Books s.phase.hasTable L) (fdb : s'.fdb = s.fdb)
    (table : s'.phase.hasTable = s.phase.hasTable) (early : ¬ LateTouch s e) : Goes s e s' [] L :=
  .inl ⟨L, rfl, by rw [fdb, table]; exact books, early⟩

omit [Jiffies τ] in
theorem not_lateTouch (other : ∀ i, e ≠ .advance i) : ¬ LateTouch s e := by
  rintro ⟨i, _, same, _⟩
  exact other i same

omit [Jiffies τ] in
private theorem goes_learn {i : Nat} {f : InFlight} {vlan : UbrVlan} (books : s.fdb.Books s.phase.hasTable L)
    (here : s.flight[i]? = some f) (stage : f.stage = .learn)
    (found : s.sys.ubr.vlanAt f.skb.cb.vlan = .ok vlan) (learning : (f.skb.cb.saLearning && vlan.saLearning) = true)
    (fdb : s'.fdb = (s.fdb.learnLookup s.sys.jiffies vlan f.skb).1) (phase : s'.phase = s.phase) :
    Goes s (.advance i) s' (s.fdb.learnLookup s.sys.jiffies vlan f.skb).2.2 L := by
  have touches : s.touches f = isValidEtherAddr f.skb.frame.hSource := by
    simp only [Teardown.touches, stage, found, learning, Bool.true_and]
  rw [Goes, lateTouch_advance here, touches, fdb, phase]
  cases table : s.phase.hasTable with
  | true =>
      rw [table] at books
      obtain ⟨replayed, kept⟩ := books.learnLookup
      exact .inl ⟨L, replayed, kept, by simp⟩
  | false =>
      rw [table] at books
      cases valid : isValidEtherAddr f.skb.frame.hSource with
      | false =>
          simp only [FdbMemory.learnLookup, valid]
          exact .inl ⟨L, rfl, books, by simp⟩
      | true =>
          obtain ⟨log, same⟩ := FdbMemory.learnLookup_touches (m := s.fdb) valid
          rw [same]
          exact .inr ⟨books.touched_late log, rfl, rfl⟩

omit [Jiffies τ] in
private theorem goes_insert {i : Nat} {f : InFlight} {key : UbrFdbAddr} (sound : s.fdb.Sound)
    (books : s.fdb.Books s.phase.hasTable L) (here : s.flight[i]? = some f) (stage : f.stage = .insert key)
    (fdb : s'.fdb = (s.fdb.learnInsert s.sys.jiffies f.env key f.skb.cb.pidx).1) (phase : s'.phase = s.phase) :
    Goes s (.advance i) s' (s.fdb.learnInsert s.sys.jiffies f.env key f.skb.cb.pidx).2 L := by
  have touches : s.touches f = !f.env.nodeAllocFails := by simp only [Teardown.touches, stage]
  rw [Goes, lateTouch_advance here, touches, fdb, phase]
  cases table : s.phase.hasTable with
  | true =>
      rw [table] at books
      obtain ⟨L', replayed, kept⟩ := books.learnInsert sound
      exact .inl ⟨L', replayed, kept, by simp⟩
  | false =>
      rw [table] at books
      cases alloc : f.env.nodeAllocFails with
      | true =>
          simp only [FdbMemory.learnInsert, alloc]
          exact .inl ⟨L, rfl, books, by simp⟩
      | false =>
          refine .inr ⟨?_, rfl, rfl⟩
          simp only [FdbMemory.learnInsert, alloc, Bool.false_eq_true, if_false]
          split
          · exact books.inserted_late sound _
          · exact books.inserted_late sound _

private theorem goes_look {i : Nat} {f : InFlight} {vlan : UbrVlan} (books : s.fdb.Books s.phase.hasTable L)
    (here : s.flight[i]? = some f) (stage : f.stage = .lookup) (fdb : s'.fdb = s.fdb) (phase : s'.phase = s.phase) :
    Goes s (.advance i) s' (s.fdb.filter cfg s.sys.jiffies f.env vlan f.skb).2 L := by
  have touches : s.touches f = true := by simp only [Teardown.touches, stage]
  rw [Goes, lateTouch_advance here, touches, fdb, phase]
  cases table : s.phase.hasTable with
  | true =>
      rw [table] at books
      exact .inl ⟨L, books.lookup _, books, by simp⟩
  | false =>
      rw [table] at books
      exact .inr ⟨books.touched_late _, rfl, rfl⟩

theorem goes_step (sound : s.fdb.Sound) (books : s.fdb.Books s.phase.hasTable L) (move : Move cfg s e s' log) :
    Goes s e s' log L := by
  cases move with
  | around => exact .silent books rfl rfl (not_lateTouch nofun)
  | handed arrival => exact .silent books rfl rfl (not_lateTouch arrival)
  | arrived arrival => exact .silent books rfl rfl (not_lateTouch arrival)
  | learn here stage found learning => exact goes_learn books here stage found learning rfl rfl
  | pass here stage found still =>
      refine .silent books rfl rfl ?_
      rw [lateTouch_advance here]
      simp only [touches, stage, found, still]
      simp
  | insert here stage => exact goes_insert sound books here stage rfl rfl
  | look here stage => exact goes_look books here stage rfl rfl
  | leave here stage =>
      refine .silent books rfl rfl ?_
      rw [lateTouch_advance here]
      simp only [touches, stage]
      simp
  | @age walk early =>
      have table : s.phase.hasTable = true := Phase.hasTable_of_flushAhead (Phase.flushAhead_of_ageing early)
      rw [table] at books
      obtain ⟨replayed, kept⟩ := books.flush sound walk
      refine .inl ⟨L, replayed, ?_, not_lateTouch nofun⟩
      change FdbMemory.Books _ s.phase.hasTable L
      rw [table]
      exact kept
  | nodeFree queued =>
      obtain ⟨L', replayed, kept⟩ := books.nodeDeleteRcu sound queued
      exact .inl ⟨L', replayed, kept, not_lateTouch nofun⟩
  | enter phase => exact .silent books rfl (by rw [phase]; rfl) (not_lateTouch nofun)
  | remove phase => exact .silent books rfl (by rw [phase]; rfl) (not_lateTouch nofun)
  | cancel phase => exact .silent books rfl (by rw [phase]; rfl) (not_lateTouch nofun)
  | @flush walk phase =>
      rw [phase] at books
      obtain ⟨replayed, kept⟩ := books.flush sound walk
      exact .inl ⟨L, replayed, kept, not_lateTouch nofun⟩
  | destroy phase =>
      rw [phase] at books
      obtain ⟨L', replayed, kept⟩ := books.destroy
      exact .inl ⟨L', replayed, kept, not_lateTouch nofun⟩
  | queue phase => exact .silent books rfl (by rw [phase]; rfl) (not_lateTouch nofun)
  | close phase => exact .silent books rfl (by rw [phase]; rfl) (not_lateTouch nofun)

end Step

section Run

variable [Jiffies τ] {tr : TeardownHistory τ} {s s' : Teardown τ} {e : TeardownEvent} {o : TeardownOutcome}

open Teardown

/-- The ledger of the run is that of the database, or a frame came too late for it. -/
private def Accounted (tr : TeardownHistory τ) (s : Teardown τ) : Prop :=
  (∃ L, Ledger.replay ⟨[.table], []⟩ (handled tr) = some L ∧ s.fdb.Books s.phase.hasTable L ∧
      ∀ t ∈ tr, ¬ LateTouch t.pre t.event) ∨
    (Ledger.Disturbed ⟨[.table], []⟩ (handled tr) ∧ ∃ t ∈ tr, LateTouch t.pre t.event)

private theorem Accounted.step (accounted : Accounted tr s) (sound : s.fdb.Sound) (move : Move cfg s e s' o.handled) :
    Accounted (⟨s, e, o, s'⟩ :: tr) s' := by
  rcases accounted with ⟨L, replayed, books, early⟩ | ⟨disturbed, t, inside, late⟩
  · rcases goes_step sound books move with ⟨L', replayed', books', early'⟩ | ⟨disturbed, late⟩
    · exact .inl ⟨L', Ledger.replay_trans replayed replayed', books', List.forall_mem_cons.mpr ⟨early', early⟩⟩
    · exact .inr ⟨disturbed.after replayed, _, List.mem_cons_self, late⟩
  · exact .inr ⟨disturbed.append, t, List.mem_cons_of_mem _ inside, late⟩

/-- From the flush on the table is empty unless a node came in too late. -/
private def Emptied (tr : TeardownHistory τ) (s : Teardown τ) : Prop :=
  (s.phase.flushAhead = true → ∀ t ∈ tr, ¬ LateEntry t.pre t.event) ∧
    (s.phase.flushAhead = false → (s.fdb.nodes = [] ↔ ∀ t ∈ tr, ¬ LateEntry t.pre t.event))

omit [Jiffies τ] in
private theorem Emptied.kept (emptied : Emptied tr s) (phase : s'.phase.flushAhead = s.phase.flushAhead)
    (nodes : s'.fdb.nodes = [] ↔ s.fdb.nodes = []) (early : ¬ LateEntry s e) :
    Emptied (⟨s, e, o, s'⟩ :: tr) s' := by
  refine ⟨fun ahead => ?_, fun behind => ?_⟩
  · exact List.forall_mem_cons.mpr ⟨early, emptied.1 (phase ▸ ahead)⟩
  · rw [nodes, emptied.2 (phase ▸ behind)]
    exact ⟨fun others => List.forall_mem_cons.mpr ⟨early, others⟩, fun all => (List.forall_mem_cons.mp all).2⟩

omit [Jiffies τ] in
theorem not_lateEntry (other : ∀ i, e ≠ .advance i) : ¬ LateEntry s e := by
  rintro ⟨i, _, same, _⟩
  exact other i same

omit [Jiffies τ] in
theorem not_lateEntry_of_stage {i : Nat} {f : InFlight} (here : s.flight[i]? = some f)
    (stage : ∀ key, f.stage ≠ .insert key) : ¬ LateEntry s (.advance i) := by
  rw [lateEntry_advance here]
  cases at_ : f.stage with
  | insert key => exact absurd at_ (stage key)
  | _ => simp [enters, at_]

omit [Jiffies τ] in
private theorem Emptied.insert (emptied : Emptied tr s) {i : Nat} {f : InFlight} {key : UbrFdbAddr}
    (here : s.flight[i]? = some f) (stage : f.stage = .insert key) (phase : s'.phase = s.phase)
    (fdb : s'.fdb = (s.fdb.learnInsert s.sys.jiffies f.env key f.skb.cb.pidx).1) :
    Emptied (⟨s, .advance i, o, s'⟩ :: tr) s' := by
  have enters : s.enters f =
      (!f.env.nodeAllocFails && !f.env.nodeInsertFails && (s.fdb.lookup key).isNone) := by
    simp only [Teardown.enters, stage]
  have nodes := congrArg FdbMemory.nodes fdb
  rw [FdbMemory.learnInsert_nodes, ← enters] at nodes
  cases entered : s.enters f with
  | false =>
      rw [entered] at nodes
      refine emptied.kept (by rw [phase]) (by rw [nodes]; rfl) ?_
      rw [lateEntry_advance here, entered]
      simp
  | true =>
      rw [entered] at nodes
      have late : LateEntry s (.advance i) ↔ s.phase.flushAhead = false := by
        rw [lateEntry_advance here, entered]
        simp
      refine ⟨fun ahead => ?_, fun behind => ?_⟩
      · rw [phase] at ahead
        have early : ¬ LateEntry s (.advance i) := by
          rw [late, ahead]
          exact nofun
        exact List.forall_mem_cons.mpr ⟨early, emptied.1 ahead⟩
      · rw [phase] at behind
        constructor
        · intro empty
          rw [nodes] at empty
          cases empty
        · exact fun all => absurd (late.mpr behind) (List.forall_mem_cons.mp all).1

private theorem Emptied.step (emptied : Emptied tr s) (move : Move cfg s e s' o.handled) :
    Emptied (⟨s, e, o, s'⟩ :: tr) s' := by
  generalize o.handled = log at move
  cases move with
  | around => exact emptied.kept rfl Iff.rfl (not_lateEntry nofun)
  | handed arrival => exact emptied.kept rfl Iff.rfl (not_lateEntry arrival)
  | arrived arrival => exact emptied.kept rfl Iff.rfl (not_lateEntry arrival)
  | learn here stage =>
      exact emptied.kept rfl FdbMemory.learnLookup_nodes (not_lateEntry_of_stage here (by simp [stage]))
  | pass here stage => exact emptied.kept rfl Iff.rfl (not_lateEntry_of_stage here (by simp [stage]))
  | insert here stage => exact emptied.insert here stage rfl rfl
  | look here stage => exact emptied.kept rfl Iff.rfl (not_lateEntry_of_stage here (by simp [stage]))
  | leave here stage => exact emptied.kept rfl Iff.rfl (not_lateEntry_of_stage here (by simp [stage]))
  | @age walk early =>
      have ahead := Phase.flushAhead_of_ageing early
      refine ⟨fun _ => List.forall_mem_cons.mpr ⟨not_lateEntry nofun, emptied.1 ahead⟩, fun behind => ?_⟩
      have behind : s.phase.flushAhead = false := behind
      rw [ahead] at behind
      cases behind
  | nodeFree => exact emptied.kept rfl Iff.rfl (not_lateEntry nofun)
  | enter phase => exact emptied.kept (by rw [phase]; rfl) Iff.rfl (not_lateEntry nofun)
  | remove phase => exact emptied.kept (by rw [phase]; rfl) Iff.rfl (not_lateEntry nofun)
  | cancel phase => exact emptied.kept (by rw [phase]; rfl) Iff.rfl (not_lateEntry nofun)
  | flush phase complete =>
      have none := emptied.1 (by rw [phase]; rfl)
      refine ⟨nofun, fun _ => ⟨fun _ => ?_, fun _ => FdbMemory.flush_all complete⟩⟩
      exact List.forall_mem_cons.mpr ⟨not_lateEntry nofun, none⟩
  | destroy phase => exact emptied.kept (by rw [phase]; rfl) Iff.rfl (not_lateEntry nofun)
  | queue phase => exact emptied.kept (by rw [phase]; rfl) Iff.rfl (not_lateEntry nofun)
  | close phase => exact emptied.kept (by rw [phase]; rfl) Iff.rfl (not_lateEntry nofun)

omit [Jiffies τ] in
private theorem init_accounted (start : s.Init cfg) : s.fdb.Sound ∧ Accounted [] s ∧ Emptied [] s := by
  obtain ⟨_, fdb, _, phase⟩ := start
  refine ⟨?_, .inl ⟨⟨[.table], []⟩, rfl, ?_, fun t inside => absurd inside List.not_mem_nil⟩, ?_⟩
  · rw [fdb]
    exact ⟨List.nodup_nil, List.nodup_nil, fun ref inside => absurd inside List.not_mem_nil⟩
  · rw [fdb, phase]
    refine ⟨List.nodup_singleton _, by simp [Phase.hasTable, Phase.flushAhead, Phase.ageing], ?_, ?_, ?_⟩
    · simp [Phase.hasTable, Phase.flushAhead, Phase.ageing]
    · simp [FdbMemory.refs]
    · exact fun ref inside => absurd inside List.not_mem_nil
  · rw [Emptied, phase]
    refine ⟨fun _ t inside => absurd inside List.not_mem_nil, fun behind => ?_⟩
    cases behind

private theorem run_accounted (run : Run (teardown τ cfg) (fun _ _ => True) tr s) :
    s.fdb.Sound ∧ Accounted tr s ∧ Emptied tr s := by
  refine run.invariant (I := fun tr s => s.fdb.Sound ∧ Accounted tr s ∧ Emptied tr s)
    (fun _ => init_accounted) ?_
  intro tr s e s' o _ ok enabled _ done
  have move := exec_move enabled done
  exact ⟨sound_step ok.1 move, ok.2.1.step ok.1 move, ok.2.2.step move⟩

private theorem run_hostQuiet (run : Run (teardown τ cfg) (fun _ _ => True) tr s) :
    (∀ t ∈ tr, t.pre.HostQuiet t.event) ↔
      (∀ t ∈ tr, ¬ LateTouch t.pre t.event) ∧ ∀ t ∈ tr, ¬ LateEntry t.pre t.event := by
  have quiesced : ∀ t ∈ tr, Quiesced t.pre := by
    refine run.invariant (I := fun tr _ => ∀ t ∈ tr, Quiesced t.pre) ?_ ?_
    · exact fun _ _ t inside => absurd inside List.not_mem_nil
    · exact fun tr s e s' o before others _ _ _ => List.forall_mem_cons.mpr ⟨.of_run before, others⟩
  constructor
  · intro quiet
    exact ⟨fun t inside => ((hostQuiet_iff (quiesced t inside)).mp (quiet t inside)).1,
      fun t inside => ((hostQuiet_iff (quiesced t inside)).mp (quiet t inside)).2⟩
  · rintro ⟨touch, entry⟩ t inside
    exact (hostQuiet_iff (quiesced t inside)).mpr ⟨touch t inside, entry t inside⟩

/-- While the host is quiet nothing is handled after it is gone or freed twice; and when
    the bridge is gone, the table was left alone from `rhashtable_destroy` on and every
    node was freed exactly once if, and only if, the host was quiet. -/
theorem fdb_left_alone_iff (run : Run (teardown τ cfg) (fun _ _ => True) tr s) :
    ((∀ t ∈ tr, t.pre.HostQuiet t.event) → Ledger.Orderly (handled tr)) ∧
      (s.Finished → (TakenOnce .table (handled tr) ↔ ∀ t ∈ tr, t.pre.HostQuiet t.event)) := by
  obtain ⟨_, accounted, emptied⟩ := run_accounted run
  rw [run_hostQuiet run]
  rcases accounted with ⟨L, replayed, books, early⟩ | ⟨disturbed, t, inside, late⟩
  · have kept := (Ledger.accounts_start FdbObject.table).replayed replayed
    rw [List.nil_append] at kept
    refine ⟨fun _ => kept.orderly, fun finished => ?_⟩
    have behind : s.phase.flushAhead = false := by
      rw [finished.phase]
      rfl
    have live (object : FdbObject) : object ∈ L.live ↔ ∃ n ∈ s.fdb.nodes, object = .node n.ref := by
      cases object with
      | table =>
          rw [books.table, finished.phase]
          simp [Phase.hasTable, Phase.flushAhead, Phase.ageing]
      | node ref =>
          rw [books.nodes, FdbMemory.refs, finished.rcu]
          simp [eq_comm]
    rw [← emptied.2 behind]
    constructor
    · intro disciplined
      refine ⟨early, List.eq_nil_iff_forall_not_mem.mpr fun n here => ?_⟩
      exact kept.live_empty disciplined (.node n.ref) ((live _).mpr ⟨n, here, rfl⟩)
    · rintro ⟨_, empty⟩
      have none : L.live = [] := by
        apply List.eq_nil_iff_forall_not_mem.mpr
        intro object here
        obtain ⟨n, inside, _⟩ := (live object).mp here
        rw [empty] at inside
        cases inside
      have done : Ledger.replay ⟨[.table], []⟩ (handled tr) = some ⟨[], L.gone⟩ := by rw [replayed, ← none]
      exact Ledger.takenOnce_of_replay done
  · have tooLate : ¬ ∀ t ∈ tr, ¬ LateTouch t.pre t.event := fun early => early t inside late
    refine ⟨fun quiet => absurd quiet.1 tooLate, fun _ => ⟨fun disciplined => ?_, fun quiet => absurd quiet.1 tooLate⟩⟩
    exact absurd disciplined.last disturbed.not_last

end Run

/-- The bridge after `ubr_dev_newlink`, which nobody has asked to delete yet. -/
def running (cfg : Config) : Teardown Nat where
  sys := booted cfg
  fdb := { ageingTimeout := 300 * cfg.hz }

theorem running_init (cfg : Config) : (running cfg).Init cfg := ⟨booted_init cfg, rfl, rfl, rfl⟩

theorem run_running (cfg : Config) (es : List TeardownEvent) (test : TeardownHistory Nat → Teardown Nat → Bool)
    (passed : ((teardown Nat cfg).play (fun _ _ => True) es ([], running cfg)).any (fun out => test out.1 out.2) =
      true) : ∃ tr s, Run (teardown Nat cfg) (fun _ _ => True) tr s ∧ test tr s = true :=
  Machine.exists_run_of_play es (running_init cfg) test passed

/-- One frame through the bridge without a break. -/
def wholeFrame : List TeardownEvent := List.replicate 4 (.advance 0)

/-- A station behind a slave and the host are learned, and their nodes are freed. -/
theorem fdb_left_alone_x86 :
    ∃ tr s, Run (teardown Nat x86) (fun _ _ => True) tr s ∧ (s.Finished ∧ s.fdb.nextNode = 2) ∧
      ((∀ t ∈ tr, t.pre.HostQuiet t.event) → Ledger.Orderly (handled tr)) ∧
      (s.Finished → (TakenOnce .table (handled tr) ↔ ∀ t ∈ tr, t.pre.HostQuiet t.event)) := by
  obtain ⟨tr, s, run, test⟩ := run_running x86
    ([.around (.portAdd 1 {}), .rx 1 stationFrame {}] ++ wholeFrame ++
      [.xmit { stationFrame with frame.hSource := 0x020000000001 } {}] ++ wholeFrame ++
      [.dellink, .dellink, .dellink, .flush [.node (macKey 0 0x020000000099), .node (macKey 0 0x020000000001)],
        .dellink, .dellink, .dellink, .nodeFree 0, .nodeFree 1])
    (fun _ s => decide (s.phase = .gone ∧ s.fdb.rcu.isEmpty ∧ s.fdb.nextNode = 2)) (by decide +kernel)
  obtain ⟨gone, freed, made⟩ := of_decide_eq_true test
  exact ⟨tr, s, run, ⟨⟨gone, by simpa using freed⟩, made⟩, fdb_left_alone_iff run⟩

/-- The host sends a frame after `rhashtable_destroy`. -/
theorem host_uses_destroyed_table :
    ¬ ∀ tr s, Run (teardown Nat x86) (fun _ _ => True) tr s →
      Ledger.Orderly (handled tr) ∧ (s.Finished → TakenOnce .table (handled tr)) := by
  intro claim
  obtain ⟨tr, s, run, test⟩ := run_running x86
    [.dellink, .dellink, .flush [], .dellink, .xmit stationFrame {}, .advance 0]
    (fun tr _ => Ledger.disturbs ⟨[.table], []⟩ (handled tr)) (by decide +kernel)
  exact (Ledger.disturbed_of_disturbs test).not_last (claim tr s run).1.last

end UnassumingBridge
