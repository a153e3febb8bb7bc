import UnassumingBridge.Invariants.Entries
import UnassumingBridge.Support.LastSeen

/-! # The forwarding database as a memory of the frames

The machine of the FDB alone: frames pass through `ubr_fdb_forward`, `ubr_fdb_age`
runs when it likes, and time goes on without wrapping. What the table holds is
the last sighting of each station, less some that are too old to matter.
-/

namespace UnassumingBridge

open Support

/-- The database on its own, with a clock that does not wrap. -/
structure FdbSys where
  fdb : UbrFdb Nat
  jiffies : Nat

/-- A frame is forwarded, `ubr_fdb_age` runs, or time passes. -/
inductive FdbEvent where
  | forward (env : FrameEnv) (vlan : UbrVlan) (skb : Skb)
  | age (walk : List WalkItem)
  | tick (n : Nat)

/-- A frame returns the filter that is chosen for it. -/
def FdbSys.exec (cfg : Config) (s : FdbSys) : FdbEvent → Except Fault (FdbSys × Option UbrVec)
  | .forward env vlan skb =>
      let fdb := (ubrFdbForward cfg s.fdb s.jiffies env vlan skb).1
      .ok ({ s with fdb }, some (ubrFdbFilter cfg fdb s.jiffies env vlan skb))
  | .age walk => .ok ({ s with fdb := ubrFdbAge s.fdb s.jiffies walk }, none)
  | .tick n => .ok ({ s with jiffies := s.jiffies + n }, none)

def forwardingDatabase (cfg : Config) : Machine FdbSys FdbEvent (Option UbrVec) Fault where
  Init s := s.fdb.nodes = []
  Enabled _ _ := True
  exec := FdbSys.exec cfg

instance (cfg : Config) (s : FdbSys) (e : FdbEvent) : Decidable ((forwardingDatabase cfg).Enabled s e) :=
  .isTrue trivial

/-- No entry is lost for want of memory. -/
def FdbSys.StoresAll (_ : FdbSys) : FdbEvent → Prop
  | .forward env _ _ => env.nodeAllocFails = false ∧ env.nodeInsertFails = false
  | _ => True

instance (s : FdbSys) : (e : FdbEvent) → Decidable (s.StoresAll e)
  | .forward env _ _ => inferInstanceAs (Decidable (env.nodeAllocFails = false ∧ env.nodeInsertFails = false))
  | .age .. | .tick .. => .isTrue trivial

/-- A frame that has passed, with the VLAN it was in. -/
structure Passage where
  time : Nat
  vlan : UbrVlan
  skb : Skb

abbrev FdbHistory := List (Transition FdbSys FdbEvent (Option UbrVec))

def passageOf (t : Transition FdbSys FdbEvent (Option UbrVec)) : Option Passage :=
  match t.event with
  | .forward _ vlan skb => some ⟨t.pre.jiffies, vlan, skb⟩
  | _ => none

theorem passageOf_some {t : Transition FdbSys FdbEvent (Option UbrVec)} {p : Passage}
    (passed : passageOf t = some p) : ∃ env, t.event = .forward env p.vlan p.skb := by
  simp only [passageOf] at passed
  split at passed
  · rename_i env vlan skb event
    cases passed
    exact ⟨env, event⟩
  · cases passed

/-- The frames of a run, newest first. -/
def passages (tr : FdbHistory) : List Passage := tr.filterMap passageOf

/-- The frame came from station `m` of VLAN `vid`, with learning on at its port and in
    its VLAN. -/
def Passage.Shows (vid : Vid) (m : Mac) (p : Passage) : Prop :=
  p.skb.cb.saLearning = true ∧ p.vlan.saLearning = true ∧ p.vlan.vid = vid ∧ p.skb.frame.hSource = m

instance (vid : Vid) (m : Mac) (p : Passage) : Decidable (p.Shows vid m) := by
  unfold Passage.Shows
  infer_instance

/-- Where a frame for station `m` should go, from the frames up to and including it. -/
def lastSeenFilter (timeout now : Nat) (ps : List Passage) (vlan : UbrVlan) (m : Mac) : UbrVec :=
  match ps.find? (·.Shows vlan.vid m) with
  | some p =>
      if isValidEtherAddr m ∧ now ≤ p.time + timeout then Bitmap.zero.set p.skb.cb.pidx else vlan.ucflood
  | none => vlan.ucflood

/-- What learning is asked to remember of a frame. -/
def Passage.sighting (p : Passage) : Option (Sighting UbrFdbAddr UbrVec) :=
  if p.skb.cb.saLearning && p.vlan.saLearning && isValidEtherAddr p.skb.frame.hSource then
    some ⟨macKey p.vlan.vid p.skb.frame.hSource, Bitmap.zero.set p.skb.cb.pidx, p.time⟩
  else none

def UbrFdb.entries (fdb : UbrFdb Nat) (k : UbrFdbAddr) : Option (UbrVec × Nat) :=
  (fdb.lookup k).map fun node => (node.vec, node.tstamp)

/-- What the table holds after some frames. -/
structure Remembers (fdb : UbrFdb Nat) (now : Nat) (ps : List Passage) : Prop where
  tracks : LastSeen.Tracks fdb.ageingTimeout now fdb.entries (ps.filterMap Passage.sighting)
  single : fdb.Single
  dynamic : ∀ k node, fdb.lookup k = some node → node.proto = .dynamic

variable {cfg : Config} {fdb : UbrFdb Nat} {now : Nat} {ps : List Passage} {env : FrameEnv} {vlan : UbrVlan}
  {skb : Skb}

theorem macKey_inj {vid vid' : Vid} {m m' : Mac} : macKey vid m = macKey vid' m' ↔ vid = vid' ∧ m = m' := by
  constructor
  · intro same
    have parts : vid = vid' ∧ m ++ 0#80 = m' ++ 0#80 := by simpa [macKey, UbrFdbAddr.setMac] using same
    exact ⟨parts.1, (BitVec.append_left_inj 0#80).mp parts.2⟩
  · rintro ⟨rfl, rfl⟩
    rfl

theorem entries_learned (vlan : UbrVlan) (skb : Skb) (ok : Remembers fdb now ps)
    (stores : env.nodeAllocFails = false ∧ env.nodeInsertFails = false) (k : UbrFdbAddr) :
    (ubrFdbLearned fdb now env vlan skb).entries k =
      match Passage.sighting ⟨now, vlan, skb⟩ with
      | some seen => if seen.key = k then some (seen.place, seen.time) else fdb.entries k
      | none => fdb.entries k := by
  simp only [ubrFdbLearned, Passage.sighting]
  cases learns : skb.cb.saLearning && vlan.saLearning with
  | false => rfl
  | true =>
      cases valid : isValidEtherAddr skb.frame.hSource with
      | false =>
          simp only [if_true, ubrFdbLearn_invalid valid]
          rfl
      | true =>
          simp only [if_true, Bool.and_self, UbrFdb.entries, lookup_learn, valid, true_and,
            eq_comm (a := k)]
          split
          · cases known : fdb.lookup k with
            | none => simp [learnedEntry, stores.1, stores.2]
            | some node =>
                obtain ⟨p, vec⟩ := ok.single k node known
                simp only [learnedEntry, ok.dynamic k node known, if_true, Option.map_some, seenOn_vec vec]
                rfl
          · rfl

/-- The lookup and the ageing work agree on what counts. -/
theorem current_node {node : UbrFdbNode Nat} (dynamic : node.proto = .dynamic) :
    LastSeen.current fdb.ageingTimeout now (some (node.vec, node.tstamp)) =
      if ubrFdbNodeIsOld fdb now node then none else some node.vec := by
  simp only [LastSeen.current, ubrFdbNodeIsOld, dynamic, Jiffies.timeAfter, Jiffies.later]
  grind

namespace Remembers

theorem empty (nothing : fdb.nodes = []) : Remembers fdb now [] := by
  have missing (k : UbrFdbAddr) : fdb.lookup k = none := by
    simp [UbrFdb.lookup, nothing, Table.lookup]
  have bare : fdb.entries = fun _ => none := by
    funext k
    simp only [UbrFdb.entries, missing, Option.map_none]
  refine ⟨?_, fun k node found => ?_, fun k node found => ?_⟩
  · rw [bare]
    exact .empty
  · cases (missing k).symm.trans found
  · cases (missing k).symm.trans found

theorem learned (ok : Remembers fdb now ps) (stores : env.nodeAllocFails = false ∧ env.nodeInsertFails = false) :
    Remembers (ubrFdbLearned fdb now env vlan skb) now (⟨now, vlan, skb⟩ :: ps) := by
  refine ⟨?_, single_learned ok.single, ?_⟩
  · have stored := entries_learned vlan skb ok stores
    rw [learned_timeout, List.filterMap_cons]
    cases sighting : Passage.sighting ⟨now, vlan, skb⟩ with
    | none =>
        simp only [sighting] at stored
        intro k
        rw [stored]
        exact ok.tracks k
    | some seen =>
        simp only [sighting] at stored
        exact ok.tracks.see seen stored
  · intro k node found
    rcases lookup_learned ok.single found with old | ⟨_, _, _, dynamic⟩
    · exact ok.dynamic k node old
    · exact dynamic

theorem aged (ok : Remembers fdb now ps) (walk : List WalkItem) : Remembers (ubrFdbAge fdb now walk) now ps := by
  refine ⟨?_, fun k node found => ok.single k node (lookup_of_age found),
    fun k node found => ok.dynamic k node (lookup_of_age found)⟩
  rw [age_timeout]
  refine ok.tracks.drop fun k => ?_
  rcases lookup_age fdb now walk k with kept | ⟨node, found, old, gone⟩
  · exact .inl (congrArg (Option.map _) kept)
  · refine .inr ⟨by rw [UbrFdb.entries, gone]; rfl, ?_⟩
    rw [UbrFdb.entries, found]
    exact (current_node (ok.dynamic k node found)).trans (if_pos old)

theorem ticked (ok : Remembers fdb now ps) (n : Nat) : Remembers fdb (now + n) ps :=
  ⟨ok.tracks.later (Nat.le_add_right now n), ok.single, ok.dynamic⟩

theorem filter (ok : Remembers fdb now ps) : ubrFdbFilter cfg fdb now env vlan skb =
    (LastSeen.current fdb.ageingTimeout now (LastSeen.latest (ps.filterMap Passage.sighting)
      (ubrFdbDestKey cfg env vlan skb))).getD (floodVec vlan skb.frame.hDest) := by
  rw [← ok.tracks.answer, UbrFdb.entries]
  simp only [ubrFdbFilter]
  cases found : fdb.lookup (ubrFdbDestKey cfg env vlan skb) with
  | none => rfl
  | some node =>
      simp only [Option.map_some, current_node (ok.dynamic _ node found)]
      split
      · rfl
      · rfl

end Remembers

theorem sighting_some {p : Passage} {seen : Sighting UbrFdbAddr UbrVec} (sees : p.sighting = some seen) :
    p.skb.cb.saLearning = true ∧ p.vlan.saLearning = true ∧ isValidEtherAddr p.skb.frame.hSource = true ∧
      seen = ⟨macKey p.vlan.vid p.skb.frame.hSource, Bitmap.zero.set p.skb.cb.pidx, p.time⟩ := by
  simp only [Passage.sighting] at sees
  split at sees
  · rename_i learns
    cases sees
    simpa [and_assoc] using learns
  · cases sees

theorem latest_station {vid : Vid} {m : Mac} (valid : isValidEtherAddr m = true) :
    LastSeen.latest (ps.filterMap Passage.sighting) (macKey vid m) =
      (ps.find? (·.Shows vid m)).map fun p => (Bitmap.zero.set p.skb.cb.pidx, p.time) := by
  induction ps with
  | nil => rfl
  | cons p ps ih =>
      rw [List.filterMap_cons, List.find?_cons]
      cases sees : p.sighting with
      | none =>
          have hidden : ¬ p.Shows vid m := by
            rintro ⟨port, both, _, source⟩
            simp [Passage.sighting, port, both, source, valid] at sees
          simpa [hidden] using ih
      | some seen =>
          obtain ⟨port, both, _, rfl⟩ := sighting_some sees
          have shows_iff : p.Shows vid m ↔ macKey p.vlan.vid p.skb.frame.hSource = macKey vid m := by
            simp [Passage.Shows, port, both, macKey_inj]
          simp only [LastSeen.latest_cons, ← shows_iff]
          by_cases mine : p.Shows vid m
          · simp [mine]
          · simp [mine, ih]

/-- Only stations with a valid address are ever sighted. -/
theorem latest_foreign {k : UbrFdbAddr} (foreign : ∀ vid m, isValidEtherAddr m = true → macKey vid m ≠ k) :
    LastSeen.latest (ps.filterMap Passage.sighting) k = none := by
  simp only [LastSeen.latest, Option.map_eq_none_iff, List.find?_eq_none, List.mem_filterMap]
  rintro seen ⟨p, _, sees⟩ mine
  obtain ⟨_, _, valid, rfl⟩ := sighting_some sees
  exact foreign _ _ valid (of_decide_eq_true mine)

theorem destKey_unicast (unicast : isMulticastEtherAddr skb.frame.hDest = false) :
    ubrFdbDestKey cfg env vlan skb = macKey vlan.vid skb.frame.hDest := by
  simp [ubrFdbDestKey, unicast, macKey]

theorem destKey_foreign (group : isMulticastEtherAddr skb.frame.hDest = true) (vid : Vid) (m : Mac)
    (valid : isValidEtherAddr m = true) : macKey vid m ≠ ubrFdbDestKey cfg env vlan skb := by
  intro same
  simp only [ubrFdbDestKey] at same
  split at same
  · cases congrArg UbrFdbAddr.type same
  · split at same
    · cases congrArg UbrFdbAddr.type same
    · have mine : m = skb.frame.hDest := (macKey_inj.mp same).2
      simp [isValidEtherAddr, mine, group] at valid

theorem Remembers.decision (ok : Remembers fdb now ps) : ubrFdbFilter cfg fdb now env vlan skb =
    if isMulticastEtherAddr skb.frame.hDest then floodVec vlan skb.frame.hDest
    else lastSeenFilter fdb.ageingTimeout now ps vlan skb.frame.hDest := by
  rw [ok.filter]
  cases group : isMulticastEtherAddr skb.frame.hDest with
  | true =>
      rw [latest_foreign (destKey_foreign group)]
      rfl
  | false =>
      have flood : floodVec vlan skb.frame.hDest = vlan.ucflood := by simp [floodVec, group]
      rw [destKey_unicast group, flood]
      cases valid : isValidEtherAddr skb.frame.hDest with
      | true =>
          rw [latest_station valid]
          cases seen : ps.find? (·.Shows vlan.vid skb.frame.hDest) with
          | none => simp [lastSeenFilter, seen, LastSeen.current]
          | some p =>
              simp only [lastSeenFilter, seen, LastSeen.current, Option.map_some, valid, true_and]
              split
              · rfl
              · rfl
      | false =>
          have foreign (vid : Vid) (m : Mac) (good : isValidEtherAddr m = true) :
              macKey vid m ≠ macKey vlan.vid skb.frame.hDest := by
            intro same
            rw [(macKey_inj.mp same).2, valid] at good
            cases good
          rw [latest_foreign foreign]
          simp only [lastSeenFilter, valid, Bool.false_eq_true, false_and, if_false]
          cases ps.find? (·.Shows vlan.vid skb.frame.hDest) with
          | none => rfl
          | some p => rfl

theorem remembers_of_run {tr : FdbHistory} {s : FdbSys}
    (run : Run (forwardingDatabase cfg) FdbSys.StoresAll tr s) :
    Remembers s.fdb s.jiffies (passages tr) := by
  refine run.invariant (I := fun tr s => Remembers s.fdb s.jiffies (passages tr)) ?_ ?_
  · intro s nothing
    exact .empty nothing
  · intro tr s e s' ret _ ok _ stores done
    cases e with
    | forward env vlan skb =>
        cases done
        exact ok.learned stores
    | age walk =>
        cases done
        exact ok.aged walk
    | tick n =>
        cases done
        exact ok.ticked n

theorem decision_of_run {t : Transition FdbSys FdbEvent (Option UbrVec)} {tr : FdbHistory} {s : FdbSys}
    (run : Run (forwardingDatabase cfg) FdbSys.StoresAll (t :: tr) s) (frame : t.event = .forward env vlan skb) :
    t.ret = some (if isMulticastEtherAddr skb.frame.hDest then floodVec vlan skb.frame.hDest
      else lastSeenFilter t.pre.fdb.ageingTimeout t.pre.jiffies (passages (t :: tr)) vlan skb.frame.hDest) := by
  cases run with
  | @step _ pre e post ret before _ stores done =>
      change e = .forward env vlan skb at frame
      subst frame
      cases done
      have ok : Remembers _ pre.jiffies (⟨pre.jiffies, vlan, skb⟩ :: passages tr) :=
        (remembers_of_run before).learned stores
      simp only [ubrFdbForward, ok.decision, learned_timeout]
      rfl

/-- The filter is the singleton of the port where the destination was last seen, and
    nothing depends on ageing: runs that saw the same frames decide alike. -/
theorem fdb_refines_history {t : Transition FdbSys FdbEvent (Option UbrVec)} {tr : FdbHistory} {s : FdbSys}
    (run : Run (forwardingDatabase cfg) FdbSys.StoresAll (t :: tr) s) (frame : t.event = .forward env vlan skb) :
    (isMulticastEtherAddr skb.frame.hDest = false →
      t.ret = some (lastSeenFilter t.pre.fdb.ageingTimeout t.pre.jiffies (passages (t :: tr)) vlan
        skb.frame.hDest)) ∧
    ∀ t' tr' s', Run (forwardingDatabase cfg) FdbSys.StoresAll (t' :: tr') s' →
      (∃ env' vlan' skb', t'.event = .forward env' vlan' skb') →
      passages (t' :: tr') = passages (t :: tr) → t'.pre.fdb.ageingTimeout = t.pre.fdb.ageingTimeout →
      t'.ret = t.ret := by
  have decided := decision_of_run run frame
  constructor
  · intro unicast
    rw [decided, unicast]
    rfl
  · rintro t' tr' s' run' ⟨env', vlan', skb', frame'⟩ same timeout
    have head : passageOf t' = some ⟨t'.pre.jiffies, vlan', skb'⟩ := by rw [passageOf, frame']
    have head' : passageOf t = some ⟨t.pre.jiffies, vlan, skb⟩ := by rw [passageOf, frame]
    have current : (⟨t'.pre.jiffies, vlan', skb'⟩ : Passage) = ⟨t.pre.jiffies, vlan, skb⟩ := by
      simp only [passages, List.filterMap_cons, head, head'] at same
      exact (List.cons.inj same).1
    obtain ⟨time, rfl, rfl⟩ := Passage.mk.inj current
    rw [decided, decision_of_run run' frame', same, timeout, time]

/-- Two frames of one station come in on two ports, ageing runs, and a frame is sent
    to the station. -/
theorem fdb_refines_history_x86 :
    ∃ t tr s p, Run (forwardingDatabase x86) FdbSys.StoresAll (t :: tr) s ∧ passageOf t = some p ∧
      t.ret = some (Bitmap.zero.set 2) ∧
      t.ret = some (lastSeenFilter t.pre.fdb.ageingTimeout t.pre.jiffies (passages (t :: tr)) p.vlan
        p.skb.frame.hDest) := by
  have start : (forwardingDatabase x86).Init { fdb := { ageingTimeout := 75000 }, jiffies := 0 } := rfl
  obtain ⟨history, s, run, test⟩ := Machine.exists_run_of_play (M := forwardingDatabase x86)
    (C := FdbSys.StoresAll)
    [.forward {} (newVlan 0) { stationFrame with cb := { pidx := 1, saLearning := true } }, .tick 10,
      .forward {} (newVlan 0) { stationFrame with cb := { pidx := 2, saLearning := true } }, .tick 75000,
      .age [.node (macKey 0 stationFrame.frame.hSource)],
      .forward {} (newVlan 0) { stationFrame with frame.hDest := stationFrame.frame.hSource }]
    start
    (fun tr _ => tr.head?.any fun t => (passageOf t).any fun p =>
      !isMulticastEtherAddr p.skb.frame.hDest && decide (t.ret = some (Bitmap.zero.set 2)))
    (by decide +kernel)
  cases history with
  | nil => cases test
  | cons t tr =>
      have asked : (passageOf t).any _ = true := test
      obtain ⟨p, passed, test⟩ := (Option.any_eq_true ..).mp asked
      simp only [Bool.and_eq_true, Bool.not_eq_true', decide_eq_true_eq] at test
      obtain ⟨unicast, filter⟩ := test
      obtain ⟨env, frame⟩ := passageOf_some passed
      exact ⟨t, tr, s, p, run, passed, filter, (fdb_refines_history run frame).1 unicast⟩

end UnassumingBridge
