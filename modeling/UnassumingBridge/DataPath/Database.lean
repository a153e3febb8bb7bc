import UnassumingBridge.DataPath.History
import UnassumingBridge.DataPath.Flush

/-! # The stations that the database knows

The machine of the FDB with every flush, on any clock. Only stations get into the table,
so the destination of group traffic is never found in it. The database of a bridge is
always a database of this machine.
-/

namespace UnassumingBridge

open Support

variable {τ : Type}

/-- The FDB and the clock that it reads. -/
structure Database (τ : Type) where
  fdb : UbrFdb τ
  jiffies : τ

/-- What happens to the database of a bridge. -/
inductive DatabaseEvent where
  /-- a frame at `ubr_fdb_forward`, with the object behind its VLAN pointer -/
  | frame (env : FrameEnv) (vlan : UbrVlan) (skb : Skb)
  | age (walk : List WalkItem)
  | flush (op : UbrFdbFlushOp) (walk : List WalkItem)
  | tick (n : Nat)

/-- The entry of a station: learned from its frames, and with the one port it was last seen on. -/
def UbrFdbNode.IsStation (node : UbrFdbNode τ) : Prop :=
  (∃ vid mac, isValidEtherAddr mac = true ∧ node.addr = macKey vid mac) ∧ node.proto = .dynamic ∧
    ∃ p, node.vec = Bitmap.zero.set p

/-- What `ubr_fdb_learn` keeps true of the table. -/
structure StationsOnly (fdb : UbrFdb τ) : Prop where
  unique : Table.Unique UbrFdbNode.addr fdb.nodes
  stations : ∀ node ∈ fdb.nodes, node.IsStation

/-- The filter of a frame that no entry of the table is for. -/
def groupFilter (vlan : UbrVlan) (hDest : Mac) : UbrVec :=
  if isBroadcastEtherAddr hDest then vlan.bcflood else vlan.mcflood

namespace UbrFdbNode.IsStation

variable {node : UbrFdbNode τ} {now : τ} {p : Pidx}

theorem new (now : τ) (p : Pidx) {vid : Vid} {mac : Mac} (valid : isValidEtherAddr mac = true) :
    (⟨macKey vid mac, Bitmap.zero.set p, .dynamic, now⟩ : UbrFdbNode τ).IsStation :=
  ⟨⟨vid, mac, valid, rfl⟩, rfl, p, rfl⟩

theorem seenOn (station : node.IsStation) : (node.seenOn p now).IsStation := by
  obtain ⟨addr, dynamic, q, single⟩ := station
  exact ⟨addr, dynamic, p, seenOn_vec single⟩

end UbrFdbNode.IsStation

namespace StationsOnly

variable {fdb : UbrFdb τ} {now : τ} {env : FrameEnv} {vlan : UbrVlan} {skb : Skb}

theorem empty (timeout : Nat) : StationsOnly ({ ageingTimeout := timeout } : UbrFdb τ) := ⟨List.nodup_nil, nofun⟩

theorem learn (ok : StationsOnly fdb) : StationsOnly (ubrFdbLearn fdb now env vlan skb) where
  unique := unique_learn ok.unique
  stations := by
    cases valid : isValidEtherAddr skb.frame.hSource with
    | false =>
        rw [ubrFdbLearn_invalid valid]
        exact ok.stations
    | true =>
        cases known : fdb.lookup (macKey vlan.vid skb.frame.hSource) with
        | some node =>
            have dynamic := (ok.stations node (Table.mem_of_lookup known)).2.1
            rw [ubrFdbLearn_dynamic valid known dynamic]
            intro n inside
            obtain ⟨old, before, same⟩ := List.mem_map.mp inside
            split at same
            · exact same ▸ (ok.stations old before).seenOn
            · exact same ▸ ok.stations old before
        | none =>
            by_cases fails : env.nodeAllocFails ∨ env.nodeInsertFails
            · rw [ubrFdbLearn_failed valid known fails]
              exact ok.stations
            · rw [ubrFdbLearn_new valid known fails]
              exact List.forall_mem_cons.mpr ⟨.new now skb.cb.pidx valid, ok.stations⟩

theorem learned (ok : StationsOnly fdb) : StationsOnly (ubrFdbLearned fdb now env vlan skb) := by
  simp only [ubrFdbLearned]
  split
  · exact ok.learn
  · exact ok

theorem flush [Jiffies τ] (ok : StationsOnly fdb) (op : UbrFdbFlushOp) (walk : List WalkItem) :
    StationsOnly (ubrFdbFlush fdb op now walk).1 where
  unique := unique_flush walk ok.unique
  stations node inside := by
    have found := Table.lookup_of_mem (unique_flush walk ok.unique) inside
    rcases lookup_flush fdb op now walk node.addr with kept | ⟨_, _, _, gone⟩
    · exact ok.stations node (Table.mem_of_lookup (kept.symm.trans found))
    · cases gone.symm.trans found

/-- No station has the key of a group. -/
theorem lookup_group {cfg : Config} (ok : StationsOnly fdb) (group : isMulticastEtherAddr skb.frame.hDest = true) :
    fdb.lookup (ubrFdbDestKey cfg env vlan skb) = none := by
  apply Table.lookup_eq_none.mpr
  intro node inside
  obtain ⟨⟨vid, mac, valid, addr⟩, _⟩ := ok.stations node inside
  rw [addr]
  exact destKey_foreign group vid mac valid

theorem filter_group [Jiffies τ] {cfg : Config} (ok : StationsOnly fdb)
    (group : isMulticastEtherAddr skb.frame.hDest = true) :
    ubrFdbFilter cfg fdb now env vlan skb = groupFilter vlan skb.frame.hDest := by
  simp only [ubrFdbFilter, ok.lookup_group group, floodVec, group, groupFilter, if_true]

end StationsOnly

variable [Jiffies τ] {cfg : Config}

/-- A frame returns its control block's vector. -/
def Database.exec (cfg : Config) (s : Database τ) : DatabaseEvent → Except Fault (Database τ × Option UbrVec)
  | .frame env vlan skb =>
      let (fdb, skb) := ubrFdbForward cfg s.fdb s.jiffies env vlan skb
      .ok ({ s with fdb }, some skb.cb.vec)
  | .age walk => .ok ({ s with fdb := ubrFdbAge s.fdb s.jiffies walk }, none)
  | .flush op walk => .ok ({ s with fdb := (ubrFdbFlush s.fdb op s.jiffies walk).1 }, none)
  | .tick n => .ok ({ s with jiffies := Jiffies.later s.jiffies n }, none)

/-- The table starts as `ubr_fdb_newlink` leaves it; any timeout will do. -/
def database (τ : Type) [Jiffies τ] (cfg : Config) : Machine (Database τ) DatabaseEvent (Option UbrVec) Fault where
  Init s := ∃ timeout, s.fdb = { ageingTimeout := timeout }
  Enabled _ _ := True
  exec := Database.exec cfg

instance (cfg : Config) (s : Database τ) (e : DatabaseEvent) : Decidable ((database τ cfg).Enabled s e) :=
  .isTrue trivial

theorem newlink_init {env : NewlinkEnv} {fdb : UbrFdb τ} (made : ubrFdbNewlink cfg env = .ok fdb) (now : τ) :
    (database τ cfg).Init ⟨fdb, now⟩ := by
  simp only [ubrFdbNewlink] at made
  split at made
  · cases made
  · cases made
    exact ⟨_, rfl⟩

/-- A bridge does to its database what the machine does. -/
theorem database_of_bridge {s : Sys τ} (reached : Reachable (bridge τ cfg) s) :
    Reachable (database τ cfg) ⟨s.ubr.fdb, s.jiffies⟩ := by
  refine reached.invariant (I := fun s => Reachable (database τ cfg) ⟨s.ubr.fdb, s.jiffies⟩) ?_ ?_
  · intro s init
    obtain ⟨dev, devAddr, same⟩ := init_ubr init
    exact ⟨[], .init ⟨300 * cfg.hz, by rw [same]; rfl⟩⟩
  · intro s e s' o ⟨tr, run⟩ enabled done
    have effect := exec_fdb enabled done
    cases exec_around done with
    | ticked only =>
        subst only
        exact ⟨_, run.step (e := .tick _) trivial trivial rfl⟩
    | still _ clock | device _ clock =>
        rw [clock]
        generalize s'.ubr.fdb = fdb at effect
        cases effect with
        | kept => exact ⟨tr, run⟩
        | @aged walk => exact ⟨_, run.step (e := .age walk) trivial trivial rfl⟩
        | @received _ _ env _ vlan _ copy | @sent _ env vlan _ copy =>
            exact ⟨_, run.step (e := .frame env vlan copy) trivial trivial rfl⟩

theorem stationsOnly_of_reachable {s : Database τ} (reached : Reachable (database τ cfg) s) : StationsOnly s.fdb := by
  refine reached.invariant (I := fun s => StationsOnly s.fdb) ?_ ?_
  · intro s ⟨timeout, same⟩
    exact same ▸ .empty timeout
  · intro s e s' o ok _ done
    cases e with
    | frame env vlan skb =>
        cases done
        exact ok.learned
    | age walk =>
        cases done
        exact ok.flush ageingOp walk
    | flush op walk =>
        cases done
        exact ok.flush op walk
    | tick n =>
        cases done
        exact ok

/-- In a database that the pipeline has filled, group traffic goes to every member. -/
theorem group_traffic_floods {s : Database τ} (reached : Reachable (database τ cfg) s) :
    StationsOnly s.fdb ∧ ∀ env vlan skb, isMulticastEtherAddr skb.frame.hDest = true →
      (ubrFdbForward cfg s.fdb s.jiffies env vlan skb).1.lookup (ubrFdbDestKey cfg env vlan skb) = none ∧
        (ubrFdbForward cfg s.fdb s.jiffies env vlan skb).2.cb.vec =
          skb.cb.vec.and (groupFilter vlan skb.frame.hDest) := by
  have ok := stationsOnly_of_reachable reached
  refine ⟨ok, fun env vlan skb group => ?_⟩
  have learned : StationsOnly (ubrFdbLearned s.fdb s.jiffies env vlan skb) := ok.learned
  constructor
  · exact learned.lookup_group group
  · simp only [ubrFdbForward, learned.filter_group group]

/-- The address of the station has the bytes of the group 224.0.0.5. -/
theorem group_traffic_floods_x86 : ∃ s : Database Nat, Reachable (database Nat x86) s ∧ s.fdb.nodes.length = 1 ∧
    ∀ env vlan skb, isMulticastEtherAddr skb.frame.hDest = true →
      (ubrFdbForward x86 s.fdb s.jiffies env vlan skb).1.lookup (ubrFdbDestKey x86 env vlan skb) = none ∧
        (ubrFdbForward x86 s.fdb s.jiffies env vlan skb).2.cb.vec =
          skb.cb.vec.and (groupFilter vlan skb.frame.hDest) := by
  let seen : Skb := { stationFrame with frame.hSource := 0xe00000050000, cb := { saLearning := true } }
  obtain ⟨tr, s, run, test⟩ := Machine.exists_run_of_play (M := database Nat x86) (C := fun _ _ => True)
    [.frame {} (newVlan 0) seen] (s := ⟨{ ageingTimeout := 300 * x86.hz }, 0⟩) ⟨_, rfl⟩
    (fun _ (s : Database Nat) => s.fdb.nodes.length == 1) (by decide +kernel)
  exact ⟨s, run.reachable, eq_of_beq test, (group_traffic_floods run.reachable).2⟩

end UnassumingBridge
