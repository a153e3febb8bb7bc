import UnassumingBridge.DataPath.Database
import UnassumingBridge.DataPath.Delivery
import UnassumingBridge.Invariants.Order
import UnassumingBridge.Support.Clock
import UnassumingBridge.Support.LearningSwitch

/-! # What the database tells of a station

The table of a bridge and the sightings of a learning switch, address by address. They
need not agree on what has lapsed: ageing takes old entries out of the table, and the
entries of a port outlive it.
-/

namespace UnassumingBridge

open Support

/-- The ports of a vector. -/
def UbrVec.ports (vec : UbrVec) : Set Pidx := { k | k ∈ vec }

theorem ports_set (vec : UbrVec) (k : Pidx) : UbrVec.ports (vec.set k) = insert k (UbrVec.ports vec) := by
  ext j
  simp [UbrVec.ports]

theorem ports_clear (vec : UbrVec) (k : Pidx) : UbrVec.ports (vec.clear k) = UbrVec.ports vec \ {k} := by
  ext j
  simp [UbrVec.ports, and_comm]

/-- The clock says that the deadline of an entry has passed. -/
def Lapsed {w : Nat} (timeout : Nat) (now : BitVec w) (node : UbrFdbNode (BitVec w)) : Prop :=
  node.proto = .dynamic ∧ Jiffies.timeAfter now (Jiffies.later node.tstamp timeout) = true

theorem isOld_iff_lapsed {w : Nat} {fdb : UbrFdb (BitVec w)} {now : BitVec w} {node : UbrFdbNode (BitVec w)} :
    ubrFdbNodeIsOld fdb now node = true ↔ Lapsed fdb.ageingTimeout now node := by
  simp [ubrFdbNodeIsOld, Lapsed]

/-- What an entry tells when a station was seen like this, by a clock of `w` bits. The age
    of a sighting is counted in real ticks. -/
inductive Known {w : Nat} (timeout : Nat) (now : BitVec w) :
    Option (UbrFdbNode (BitVec w)) → Option (Pidx × Nat) → Prop where
  | current {node k age} (vec : node.vec = Bitmap.zero.set k) (dynamic : node.proto = .dynamic)
      (elapsed : now = node.tstamp + BitVec.ofNat w age) (recent : age ≤ timeout) :
      Known timeout now (some node) (some (k, age))
  | lapsed {entry seen} (old : ∀ node ∈ entry, Lapsed timeout now node) (missed : ∀ p ∈ seen, timeout < p.2) :
      Known timeout now entry seen

namespace Known

variable {w timeout : Nat} {now : BitVec w} {entry : Option (UbrFdbNode (BitVec w))} {seen : Option (Pidx × Nat)}

theorem unknown : Known timeout now none none := .lapsed nofun nofun

section Clock

variable (wide : 0 < w) (half : timeout < 2 ^ (w - 1))
include wide half

/-- The clock is right about a sighting of half its range ago at most. -/
theorem lapsed_iff {node : UbrFdbNode (BitVec w)} {age : Nat} (dynamic : node.proto = .dynamic)
    (elapsed : now = node.tstamp + BitVec.ofNat w age) (near : age ≤ timeout + 2 ^ (w - 1)) :
    Lapsed timeout now node ↔ timeout < age := by
  unfold Lapsed
  rw [and_iff_right dynamic]
  exact Clock.expired_iff wide elapsed half near

/-- What has lapsed stays so when the clock goes on, and what is current becomes so in time. -/
theorem tick (known : Known timeout now entry seen) {n : Nat} (short : n ≤ 2 ^ (w - 1))
    (stays : ∀ node ∈ entry, Lapsed timeout now node → Lapsed timeout (now + BitVec.ofNat w n) node) :
    Known timeout (now + BitVec.ofNat w n) entry (LearningSwitch.older n seen) := by
  cases known with
  | @current node k age vec dynamic elapsed recent =>
      have later : now + BitVec.ofNat w n = node.tstamp + BitVec.ofNat w (age + n) := by
        rw [elapsed, BitVec.ofNat_add, BitVec.add_assoc]
      by_cases lately : age + n ≤ timeout
      · exact .current vec dynamic later lately
      · have passed := (lapsed_iff wide half dynamic later (by omega)).mpr (Nat.lt_of_not_le lately)
        refine .lapsed (fun other inside => ?_) fun p inside => ?_
        · cases inside
          exact passed
        · cases inside
          exact Nat.lt_of_not_le lately
  | lapsed old missed =>
      refine .lapsed (fun node inside => stays node inside (old node inside)) fun p inside => ?_
      obtain ⟨q, before, rfl⟩ := Option.map_eq_some_iff.mp inside
      have late := missed q before
      exact Nat.lt_add_right n late

theorem unplug (known : Known timeout now entry seen) {k : Pidx}
    (silent : ∀ node ∈ entry, ¬ Lapsed timeout now node → k ∉ node.vec) :
    Known timeout now entry (LearningSwitch.without k seen) := by
  cases known with
  | @current node j age vec dynamic elapsed recent =>
      have young : ¬ Lapsed timeout now node := by
        rw [lapsed_iff wide half dynamic elapsed (Nat.le_add_right_of_le recent)]
        exact Nat.not_lt_of_le recent
      have other : j ≠ k := by
        intro mine
        subst mine
        exact silent node rfl young (vec ▸ Bitmap.mem_set.mpr (.inl rfl))
      have stays : LearningSwitch.without k (some (j, age)) = some (j, age) := by
        simp [LearningSwitch.without, other]
      rw [stays]
      exact .current vec dynamic elapsed recent
  | lapsed old missed =>
      exact .lapsed old fun p inside => missed p (Option.eq_some_of_filter_eq_some inside)

theorem age (known : Known timeout now entry seen) (old : ∀ node ∈ entry, Lapsed timeout now node) :
    Known timeout now none seen := by
  refine .lapsed nofun fun p inside => ?_
  cases known with
  | @current node k age vec dynamic elapsed recent =>
      have late := (lapsed_iff wide half dynamic elapsed (Nat.le_add_right_of_le recent)).mp (old node rfl)
      exact absurd recent (Nat.not_le_of_lt late)
  | lapsed _ missed => exact missed p inside

theorem place (known : Known timeout now entry seen) {isOld : UbrFdbNode (BitVec w) → Bool}
    (decides : ∀ node, isOld node = true ↔ Lapsed timeout now node) :
    (entry.filter fun node => !isOld node).map UbrFdbNode.vec =
      (seen.bind fun p => if p.2 ≤ timeout then some p.1 else none).map Bitmap.zero.set := by
  cases known with
  | @current node k age vec dynamic elapsed recent =>
      have young : isOld node = false := by
        rw [← Bool.not_eq_true, decides, lapsed_iff wide half dynamic elapsed (Nat.le_add_right_of_le recent)]
        exact Nat.not_lt_of_le recent
      simp [young, recent, vec]
  | lapsed old missed =>
      have gone : (entry.filter fun node => !isOld node) = none := by
        rw [Option.filter_eq_none_iff]
        intro node inside
        simp [(decides node).mpr (old node inside)]
      have lost : (seen.bind fun p => if p.2 ≤ timeout then some p.1 else none) = none := by
        rw [Option.bind_eq_none_iff]
        intro p inside
        exact if_neg (Nat.not_le_of_lt (missed p inside))
      rw [gone, lost]
      rfl

end Clock

theorem learn {env : FrameEnv} (works : ¬ (env.nodeAllocFails ∨ env.nodeInsertFails)) (k : Pidx) (key : UbrFdbAddr)
    (stations : ∀ node ∈ entry, node.IsStation) :
    Known timeout now (learnedEntry env k now key entry) (some (k, 0)) := by
  have here : now = now + BitVec.ofNat w 0 := (BitVec.add_zero now).symm
  cases entry with
  | none =>
      have new : Known timeout now (some ⟨key, Bitmap.zero.set k, .dynamic, now⟩) (some (k, 0)) :=
        .current rfl rfl here (Nat.zero_le timeout)
      simpa only [learnedEntry, if_neg works] using new
  | some node =>
      obtain ⟨_, dynamic, q, single⟩ := stations node rfl
      have moved : Known timeout now (some (node.seenOn k now)) (some (k, 0)) :=
        .current (seenOn_vec single) dynamic here (Nat.zero_le timeout)
      simpa only [learnedEntry, if_pos dynamic] using moved

end Known

section Table

variable {w : Nat} {cfg : Config} {fdb : UbrFdb (BitVec w)} {now : BitVec w} {env : FrameEnv} {vlan : UbrVlan}
    {skb : Skb}

theorem lookup_learned_key (learning : skb.cb.saLearning = true) (plain : vlan.Plain) (vid : Vid) (m : Mac) :
    (ubrFdbLearned fdb now env vlan skb).lookup (macKey vid m) =
      if isValidEtherAddr skb.frame.hSource = true ∧ vid = vlan.vid ∧ m = skb.frame.hSource then
        learnedEntry env skb.cb.pidx now (macKey vid m) (fdb.lookup (macKey vid m))
      else fdb.lookup (macKey vid m) := by
  simp only [ubrFdbLearned, learning, plain.saLearning, Bool.and_self, if_true, lookup_learn, macKey_inj]

theorem lookup_group_key (ok : StationsOnly fdb) {m : Mac} (group : isMulticastEtherAddr m = true) (vid : Vid) :
    fdb.lookup (macKey vid m) = none := by
  apply Table.lookup_eq_none.mpr
  intro node inside same
  obtain ⟨⟨vid', mac, valid, addr⟩, _⟩ := ok.stations node inside
  have mine : mac = m := (macKey_inj.mp (addr.symm.trans same)).2
  simp [isValidEtherAddr, mine, group] at valid

/-- A destination stands for the port where it was seen lately, and for every port when
    it was not. -/
theorem mem_destinationPorts (wide : 0 < w) (half : fdb.ageingTimeout < 2 ^ (w - 1)) (ok : StationsOnly fdb)
    (plain : vlan.Plain) {seen : Option (Pidx × Nat)}
    (known : Known fdb.ageingTimeout now (fdb.lookup (macKey vlan.vid skb.frame.hDest)) seen) (q : Pidx) :
    q ∈ destinationPorts cfg fdb now env vlan skb ↔
      ∀ p ∈ seen.bind fun p => if p.2 ≤ fdb.ageingTimeout then some p.1 else none, q = p := by
  have place := known.place wide half fun node => (isOld_iff_lapsed : ubrFdbNodeIsOld fdb now node = true ↔ _)
  have flood (m : Mac) : (if isBroadcastEtherAddr m then vlan.bcflood
      else if isMulticastEtherAddr m then vlan.mcflood else vlan.ucflood) = .fill := by
    rw [plain.mcflood, plain.bcflood, plain.ucflood, ite_self, ite_self]
  have entry : fdb.lookup (ubrFdbDestKey cfg env vlan skb) = fdb.lookup (macKey vlan.vid skb.frame.hDest) := by
    cases group : isMulticastEtherAddr skb.frame.hDest with
    | true => rw [ok.lookup_group group, lookup_group_key ok group]
    | false => rw [destKey_unicast group]
  simp only [destinationPorts, flood, entry]
  cases current : (fdb.lookup (macKey vlan.vid skb.frame.hDest)).filter fun node => !ubrFdbNodeIsOld fdb now node with
  | none =>
      rw [current] at place
      rw [Option.map_eq_none_iff.mp place.symm]
      simp
  | some node =>
      rw [current] at place
      obtain ⟨k, lately, vec⟩ := Option.map_eq_some_iff.mp place.symm
      rw [lately]
      simp [← vec]

end Table
end UnassumingBridge
