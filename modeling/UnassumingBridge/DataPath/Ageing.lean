import UnassumingBridge.DataPath.Database
import UnassumingBridge.Kernel.Nodes
import UnassumingBridge.Support.Clock

/-! # Ageing on a clock that wraps

`jiffies` is a counter of `w` bits. What its values say about the age of an entry is
right only while no entry gets older than the timeout by more than half the range, which
is the work of `ubr_fdb_age`.
-/

namespace UnassumingBridge

open Support

variable {τ : Type}

abbrev DatabaseHistory (τ : Type) := List (Transition (Database τ) DatabaseEvent (Option UbrVec))

/-- The frame makes learning write the entry of the key. -/
def DatabaseEvent.Refreshes (k : UbrFdbAddr) : DatabaseEvent → Prop
  | .frame _ vlan skb => skb.cb.saLearning = true ∧ vlan.saLearning = true ∧
      isValidEtherAddr skb.frame.hSource = true ∧ k = macKey vlan.vid skb.frame.hSource
  | _ => False

instance (k : UbrFdbAddr) : (e : DatabaseEvent) → Decidable (e.Refreshes k)
  | .frame _ vlan skb => inferInstanceAs (Decidable (skb.cb.saLearning = true ∧ vlan.saLearning = true ∧
      isValidEtherAddr skb.frame.hSource = true ∧ k = macKey vlan.vid skb.frame.hSource))
  | .age _ | .flush .. | .tick _ => .isFalse id

/-- The real ticks that an event takes. -/
def DatabaseEvent.ticks : DatabaseEvent → Nat
  | .tick n => n
  | _ => 0

def DatabaseEvent.isAge : DatabaseEvent → Bool
  | .age _ => true
  | _ => false

/-- The real ticks since the entry of a key was last refreshed, when an event comes after that. -/
def DatabaseEvent.ageAfter (k : UbrFdbAddr) (e : DatabaseEvent) (age : Nat) : Nat :=
  if e.Refreshes k then 0 else age + e.ticks

section AgeAfter

variable {k : UbrFdbAddr} {e : DatabaseEvent} (age : Nat)

theorem ageAfter_refreshed (refreshes : e.Refreshes k) : e.ageAfter k age = 0 := if_pos refreshes

theorem ageAfter_other (other : ¬ e.Refreshes k) : e.ageAfter k age = age + e.ticks := if_neg other

end AgeAfter

/-- The real ticks since the last frame that refreshed the entry of a key. -/
def sinceRefresh (k : UbrFdbAddr) : DatabaseHistory τ → Nat
  | [] => 0
  | t :: tr => t.event.ageAfter k (sinceRefresh k tr)

/-- The real ticks since `ubr_fdb_age` last ran, or since the table was made. -/
def sinceAgeing : DatabaseHistory τ → Nat
  | [] => 0
  | t :: tr => if t.event.isAge then 0 else sinceAgeing tr + t.event.ticks

/-- `ubr_fdb_age` was never more than `limit` ticks late. -/
def Punctual (limit : Nat) (tr : DatabaseHistory τ) : Prop := ∀ before, before <:+ tr → sinceAgeing before ≤ limit

instance (limit : Nat) (tr : DatabaseHistory τ) : Decidable (Punctual limit tr) :=
  decidable_of_iff (∀ before ∈ tr.tails, sinceAgeing before ≤ limit) (by simp only [List.mem_tails, Punctual])

/-- The walker does what is promised of it, and fails with nothing but `-EAGAIN`. -/
def WalksAll [Jiffies τ] (op : UbrFdbFlushOp) (s : Database τ) (walk : List WalkItem) : Prop :=
  Walk op s.jiffies s.fdb [] walk ∧ ∀ item ∈ walk, item.fails = false

def Database.AgesWhole [Jiffies τ] (s : Database τ) : DatabaseEvent → Prop
  | .age walk => WalksAll ageingOp s walk
  | _ => True

instance [Jiffies τ] (s : Database τ) : (e : DatabaseEvent) → Decidable (s.AgesWhole e)
  | .age walk => inferInstanceAs (Decidable (Walk ageingOp s.jiffies s.fdb [] walk ∧ ∀ item ∈ walk, item.fails = false))
  | .frame .. | .flush .. | .tick _ => .isTrue trivial

theorem flush_ok [Jiffies τ] {fdb : UbrFdb τ} {op : UbrFdbFlushOp} {now : τ} {walk : List WalkItem}
    (whole : ∀ item ∈ walk, item.fails = false) : (ubrFdbFlush fdb op now walk).2 = .ok () := by
  induction walk generalizing fdb with
  | nil => rfl
  | cons item walk ih =>
      obtain ⟨first, others⟩ := List.forall_mem_cons.mp whole
      cases item with
      | again => exact ih others
      | error e => cases first
      | node addr =>
          simp only [ubrFdbFlush]
          split
          · exact ih others
          · split
            · exact ih others
            · exact ih others

theorem lookup_whole_age [Jiffies τ] {s : Database τ} {walk : List WalkItem} (ok : StationsOnly s.fdb)
    (whole : WalksAll ageingOp s walk) (k : UbrFdbAddr) (node : UbrFdbNode τ) :
    (ubrFdbAge s.fdb s.jiffies walk).lookup k = some node ↔
      s.fdb.lookup k = some node ∧ ubrFdbNodeIsOld s.fdb s.jiffies node = false := by
  have flushed := flush_exact ok.unique whole.1 (flush_ok whole.2)
  constructor
  · intro found
    have inside := Table.mem_of_lookup found
    rw [ubrFdbAge, flushed.remaining] at inside
    have spared := (List.mem_filter.mp inside).2
    refine ⟨lookup_of_age found, ?_⟩
    rw [← ageing_selects]
    by_contra selected
    have fits := selects_iff.mp (by simpa using selected)
    simp [fits] at spared
  · intro ⟨found, recent⟩
    rcases lookup_age s.fdb s.jiffies walk k with kept | ⟨other, same, old, _⟩
    · exact kept.trans found
    · cases found.symm.trans same
      cases recent.symm.trans old

section Learning

variable {fdb : UbrFdb τ} {now : τ} {env : FrameEnv} {vlan : UbrVlan} {skb : Skb} {k : UbrFdbAddr} {node : UbrFdbNode τ}

theorem learned_stamp (ok : StationsOnly fdb) (found : (ubrFdbLearned fdb now env vlan skb).lookup k = some node) :
    ((DatabaseEvent.frame env vlan skb).Refreshes k ∧ node.tstamp = now) ∨
      (¬ (DatabaseEvent.frame env vlan skb).Refreshes k ∧ fdb.lookup k = some node) := by
  by_cases refreshes : (DatabaseEvent.frame env vlan skb).Refreshes k
  · obtain ⟨port, both, valid, mine⟩ := refreshes
    refine .inl ⟨⟨port, both, valid, mine⟩, ?_⟩
    simp only [ubrFdbLearned, port, both, Bool.and_self, if_true] at found
    rw [lookup_learn, if_pos ⟨valid, mine⟩] at found
    cases known : fdb.lookup k with
    | some old =>
        have dynamic := (ok.stations old (Table.mem_of_lookup known)).2.1
        rw [known, learnedEntry, if_pos dynamic] at found
        cases found
        rfl
    | none =>
        rw [known, learnedEntry] at found
        split at found
        · cases found
        · cases found
          rfl
  · refine .inr ⟨refreshes, ?_⟩
    simp only [ubrFdbLearned] at found
    split at found
    · rename_i learns
      rw [lookup_learn] at found
      split at found
      · rename_i mine
        obtain ⟨port, both⟩ := (Bool.and_eq_true _ _).mp learns
        exact absurd ⟨port, both, mine⟩ refreshes
      · exact found
    · exact found

end Learning

section Wrapping

variable {w : Nat} {cfg : Config} {tr : DatabaseHistory (BitVec w)} {s : Database (BitVec w)} {limit : Nat}

/-- What the counter knows of every entry, modulo its range, and how old an entry can be. -/
structure Stamped (tr : DatabaseHistory (BitVec w)) (s : Database (BitVec w)) : Prop where
  stamp k node : s.fdb.lookup k = some node → s.jiffies = node.tstamp + BitVec.ofNat w (sinceRefresh k tr)
  bounded k node : s.fdb.lookup k = some node → sinceRefresh k tr ≤ s.fdb.ageingTimeout + sinceAgeing tr

/-- What the wrapped comparison says of a dynamic entry of a known real age. -/
theorem isOld_iff {fdb : UbrFdb (BitVec w)} {now : BitVec w} {node : UbrFdbNode (BitVec w)} {age : Nat} (wide : 0 < w)
    (dynamic : node.proto = .dynamic) (half : fdb.ageingTimeout < 2 ^ (w - 1))
    (elapsed : now = node.tstamp + BitVec.ofNat w age) (recent : age ≤ fdb.ageingTimeout + 2 ^ (w - 1)) :
    ubrFdbNodeIsOld fdb now node = true ↔ fdb.ageingTimeout < age := by
  have sign := Clock.expired_iff wide elapsed half recent
  simp only [ubrFdbNodeIsOld, dynamic, Jiffies.timeAfter, Jiffies.later, beq_self_eq_true, Bool.true_and]
  exact sign

theorem exec_timeout {τ : Type} [Jiffies τ] {s s' : Database τ} {e : DatabaseEvent} {o : Option UbrVec}
    (done : s.exec cfg e = .ok (s', o)) : s'.fdb.ageingTimeout = s.fdb.ageingTimeout := by
  cases e with
  | frame env vlan skb =>
      cases done
      exact learned_timeout
  | age walk =>
      cases done
      exact age_timeout walk
  | flush op walk =>
      cases done
      exact flush_timeout walk
  | tick n =>
      cases done
      rfl

namespace Stamped

theorem isOld (stamped : Stamped tr s) (ok : StationsOnly s.fdb) (wide : 0 < w)
    (half : s.fdb.ageingTimeout < 2 ^ (w - 1)) (punctual : sinceAgeing tr ≤ 2 ^ (w - 1)) {k : UbrFdbAddr}
    {node : UbrFdbNode (BitVec w)} (found : s.fdb.lookup k = some node) :
    ubrFdbNodeIsOld s.fdb s.jiffies node = true ↔ s.fdb.ageingTimeout < sinceRefresh k tr := by
  have dynamic := (ok.stations node (Table.mem_of_lookup found)).2.1
  have bounded := stamped.bounded k node found
  exact isOld_iff wide dynamic half (stamped.stamp k node found) (by omega)

section Step

variable {s' : Database (BitVec w)} {e : DatabaseEvent} {o : Option UbrVec} {k : UbrFdbAddr}
  {node : UbrFdbNode (BitVec w)}

/-- An entry that the event does not refresh ages by the ticks of the event. -/
theorem sinceRefresh_left (other : ¬ e.Refreshes k) :
    sinceRefresh k (⟨s, e, o, s'⟩ :: tr) = sinceRefresh k tr + e.ticks := ageAfter_other _ other

theorem bounded_left (stamped : Stamped tr s) (done : s.exec cfg e = .ok (s', o)) (before : s.fdb.lookup k = some node)
    (other : ¬ e.Refreshes k) (notAge : e.isAge = false) : sinceRefresh k (⟨s, e, o, s'⟩ :: tr) ≤
      s'.fdb.ageingTimeout + sinceAgeing (⟨s, e, o, s'⟩ :: tr) := by
  have bounded := stamped.bounded k node before
  have clock : sinceAgeing (⟨s, e, o, s'⟩ :: tr) = sinceAgeing tr + e.ticks := by simp [sinceAgeing, notAge]
  rw [sinceRefresh_left other, clock, exec_timeout done]
  omega

theorem lookup_of_flush {op : UbrFdbFlushOp} {walk : List WalkItem}
    (found : (ubrFdbFlush s.fdb op s.jiffies walk).1.lookup k = some node) : s.fdb.lookup k = some node := by
  rcases lookup_flush s.fdb op s.jiffies walk k with kept | ⟨_, _, _, gone⟩
  · exact kept ▸ found
  · cases gone.symm.trans found

theorem step (cfg : Config) (stamped : Stamped tr s)
    (ok : StationsOnly s.fdb) (wide : 0 < w) (half : s.fdb.ageingTimeout < 2 ^ (w - 1))
    (punctual : sinceAgeing tr ≤ 2 ^ (w - 1)) (whole : s.AgesWhole e) (done : s.exec cfg e = .ok (s', o)) :
    Stamped (⟨s, e, o, s'⟩ :: tr) s' := by
  have executed := done
  cases e with
  | tick n =>
      cases done
      refine ⟨fun k node found => ?_, fun k node found => stamped.bounded_left executed found id rfl⟩
      have before : s.jiffies = node.tstamp + BitVec.ofNat w (sinceRefresh k tr) := stamped.stamp k node found
      rw [sinceRefresh_left id, DatabaseEvent.ticks, BitVec.ofNat_add, ← BitVec.add_assoc, ← before]
      rfl
  | frame env vlan skb =>
      cases done
      refine ⟨fun k node found => ?_, fun k node found => ?_⟩
      · rcases learned_stamp ok found with ⟨refreshes, now⟩ | ⟨other, before⟩
        · rw [sinceRefresh, ageAfter_refreshed _ refreshes, now]
          exact (BitVec.add_zero s.jiffies).symm
        · rw [sinceRefresh_left other]
          exact stamped.stamp k node before
      · rcases learned_stamp ok found with ⟨refreshes, _⟩ | ⟨other, before⟩
        · rw [sinceRefresh, ageAfter_refreshed _ refreshes]
          exact Nat.zero_le _
        · exact stamped.bounded_left executed before other rfl
  | flush op walk =>
      cases done
      refine ⟨fun k node found => ?_, fun k node found => ?_⟩
      · rw [sinceRefresh_left id]
        exact stamped.stamp k node (lookup_of_flush found)
      · exact stamped.bounded_left executed (lookup_of_flush found) id rfl
  | age walk =>
      cases done
      refine ⟨fun k node found => ?_, fun k node found => ?_⟩
      · rw [sinceRefresh_left id]
        exact stamped.stamp k node (lookup_of_age found)
      · obtain ⟨before, recent⟩ := (lookup_whole_age ok whole _ _).mp found
        have young : ¬ s.fdb.ageingTimeout < sinceRefresh k tr := by
          rw [← stamped.isOld ok wide half punctual before, recent]
          exact Bool.false_ne_true
        have instant : (DatabaseEvent.age walk).ticks = 0 := rfl
        rw [sinceRefresh_left id, exec_timeout executed, instant]
        omega

end Step

end Stamped

/-- A run in which `ubr_fdb_age` is not late leaves every entry with a stamp that can be read. -/
theorem stamped_of_run (run : Run (database (BitVec w) cfg) Database.AgesWhole tr s) (wide : 0 < w)
    (half : s.fdb.ageingTimeout < 2 ^ (w - 1)) (short : limit ≤ 2 ^ (w - 1)) (punctual : Punctual limit tr) :
    Stamped tr s := by
  revert half punctual
  refine run.invariant
    (I := fun tr s => s.fdb.ageingTimeout < 2 ^ (w - 1) → Punctual limit tr → Stamped tr s) ?_ ?_
  · intro s ⟨timeout, same⟩ _ _
    have nothing (k : UbrFdbAddr) (node : UbrFdbNode (BitVec w)) : s.fdb.lookup k ≠ some node := by
      rw [same]
      exact nofun
    exact ⟨fun k node found => absurd found (nothing k node), fun k node found => absurd found (nothing k node)⟩
  · intro tr s e s' o before stamped _ whole done half punctual
    rw [exec_timeout done] at half
    have earlier : Punctual limit tr := fun part inside => punctual part (inside.trans (List.suffix_cons _ tr))
    exact (stamped half earlier).step cfg (stationsOnly_of_reachable before.reachable) wide half
      ((earlier tr List.suffix_rfl).trans short) whole done

/-- A frame is sent to the entry of its destination, when that was refreshed within the
    timeout, the frame itself included. -/
def UsesCurrent (cfg : Config) (tr : DatabaseHistory τ) (s : Database τ) [Jiffies τ] (env : FrameEnv) (vlan : UbrVlan)
    (skb : Skb) : Prop :=
  ubrFdbFilter cfg (ubrFdbLearned s.fdb s.jiffies env vlan skb) s.jiffies env vlan skb =
    (((ubrFdbLearned s.fdb s.jiffies env vlan skb).lookup (ubrFdbDestKey cfg env vlan skb)).filter fun _ =>
      (DatabaseEvent.frame env vlan skb).ageAfter (ubrFdbDestKey cfg env vlan skb)
        (sinceRefresh (ubrFdbDestKey cfg env vlan skb) tr) ≤ s.fdb.ageingTimeout).elim
      (floodVec vlan skb.frame.hDest) UbrFdbNode.vec

theorem filter_of_age [Jiffies τ] {fdb : UbrFdb τ} {now : τ} {env : FrameEnv} {vlan : UbrVlan} {skb : Skb}
    {current : Prop} [Decidable current]
    (known : ∀ node, fdb.lookup (ubrFdbDestKey cfg env vlan skb) = some node →
      (ubrFdbNodeIsOld fdb now node = true ↔ ¬ current)) :
    ubrFdbFilter cfg fdb now env vlan skb =
      ((fdb.lookup (ubrFdbDestKey cfg env vlan skb)).filter fun _ => current).elim
        (floodVec vlan skb.frame.hDest) UbrFdbNode.vec := by
  simp only [ubrFdbFilter]
  cases found : fdb.lookup (ubrFdbDestKey cfg env vlan skb) with
  | none => rfl
  | some node =>
      by_cases fresh : current
      · have recent : ubrFdbNodeIsOld fdb now node = false := by
          by_contra old
          exact (known node found).mp (by simpa using old) fresh
        simp [recent, fresh, Option.filter]
      · have old := (known node found).mpr fresh
        simp [old, fresh, Option.filter]

/-- As long as `ubr_fdb_age` is not late by more than half the range of the clock, the wrapped
    comparison tells the real age of every entry. -/
theorem ageing_survives_wrap (wide : 0 < w) (run : Run (database (BitVec w) cfg) Database.AgesWhole tr s)
    (half : s.fdb.ageingTimeout < 2 ^ (w - 1)) (short : limit ≤ 2 ^ (w - 1)) (punctual : Punctual limit tr) :
    (∀ node ∈ s.fdb.nodes, node.proto = .dynamic →
      (ubrFdbNodeIsOld s.fdb s.jiffies node = true ↔ s.fdb.ageingTimeout < sinceRefresh node.addr tr)) ∧
    (∀ walk, WalksAll ageingOp s walk → ∀ node, node ∈ (ubrFdbAge s.fdb s.jiffies walk).nodes ↔
      node ∈ s.fdb.nodes ∧ sinceRefresh node.addr tr ≤ s.fdb.ageingTimeout) ∧
    ∀ env vlan skb, UsesCurrent cfg tr s env vlan skb := by
  have ok := stationsOnly_of_reachable run.reachable
  have stamped := stamped_of_run run wide half short punctual
  have recent : sinceAgeing tr ≤ 2 ^ (w - 1) := (punctual tr List.suffix_rfl).trans short
  have age {k : UbrFdbAddr} {node : UbrFdbNode (BitVec w)} (found : s.fdb.lookup k = some node) :=
    stamped.isOld ok wide half recent found
  refine ⟨fun node inside _ => age (Table.lookup_of_mem ok.unique inside), fun walk whole node => ?_,
    fun env vlan skb => ?_⟩
  · have left := lookup_whole_age ok whole node.addr node
    have ok' : StationsOnly (ubrFdbAge s.fdb s.jiffies walk) := ok.flush ageingOp walk
    constructor
    · intro inside
      obtain ⟨found, young⟩ := left.mp (Table.lookup_of_mem ok'.unique inside)
      refine ⟨Table.mem_of_lookup found, ?_⟩
      by_contra old
      rw [(age found).mpr (Nat.lt_of_not_le old)] at young
      cases young
    · intro ⟨inside, young⟩
      have found : s.fdb.lookup node.addr = some node := Table.lookup_of_mem ok.unique inside
      have spared : ubrFdbNodeIsOld s.fdb s.jiffies node = false := by
        by_contra old
        have older := (age found).mp (by simpa using old)
        omega
      have kept := left.mpr ⟨found, spared⟩
      exact Table.mem_of_lookup kept
  · apply filter_of_age
    intro node found
    have timeout : (ubrFdbLearned s.fdb s.jiffies env vlan skb).ageingTimeout = s.fdb.ageingTimeout := learned_timeout
    have after := stamped.step cfg (e := .frame env vlan skb) ok wide half recent trivial rfl
    have known := after.isOld ok.learned wide (timeout.symm ▸ half) recent found
    rw [Nat.not_le, ← timeout]
    exact known

end Wrapping

/-- A byte of jiffies that wraps between the learning of a station and its next test. -/
theorem ageing_survives_wrap_byte : ∃ (tr : DatabaseHistory (BitVec 8)) (s : Database (BitVec 8)),
    Run (database (BitVec 8) x86) Database.AgesWhole tr s ∧ s.fdb.nodes.length = 1 ∧ s.jiffies = 114#8 ∧
    ∀ node ∈ s.fdb.nodes, node.proto = .dynamic →
      (ubrFdbNodeIsOld s.fdb s.jiffies node = true ↔ s.fdb.ageingTimeout < sinceRefresh node.addr tr) := by
  obtain ⟨tr, s, run, test⟩ := Machine.exists_run_of_play (M := database (BitVec 8) x86) (C := Database.AgesWhole)
    [.frame {} (newVlan 0) { stationFrame with cb := { saLearning := true } }, .tick 60,
      .age [.node (macKey 0 stationFrame.frame.hSource)], .tick 60]
    (s := ⟨{ ageingTimeout := 100 }, 250#8⟩) ⟨100, rfl⟩
    (fun tr (s : Database (BitVec 8)) => s.fdb.nodes.length == 1 && s.jiffies == 114#8 &&
      s.fdb.ageingTimeout == 100 && decide (Punctual 120 tr)) (by decide +kernel)
  simp only [Bool.and_eq_true, beq_iff_eq, decide_eq_true_eq] at test
  obtain ⟨⟨⟨one, wrapped⟩, timeout⟩, punctual⟩ := test
  have half : s.fdb.ageingTimeout < 2 ^ (8 - 1) := by omega
  exact ⟨tr, s, run, one, wrapped, (ageing_survives_wrap (by decide) run half (by decide) punctual).1⟩

end UnassumingBridge
