import UnassumingBridge.Effects.Fdb
import UnassumingBridge.Invariants.Ports

/-! # FDB entries and the ports they name

An entry names a port by its index. Nothing removes the entries of a port that is
deleted, so an entry speaks of the port it was learned on only when the port has
stayed, or when every entry of a deleted port had aged by then.
-/

namespace UnassumingBridge

open Support

variable {τ : Type} {cfg : Config}

/-- The slot and the frame with which an event enters the bridge, and what the helpers
    do with it. -/
def Sys.entry (s : Sys τ) : Event → Option (Pidx × Skb × FrameEnv)
  | .rx dev skb env => (s.slotOf dev).map fun p => (p, skb, env)
  | .xmit skb env => some (0, skb, env)
  | _ => none

/-- The step stored the entry, for the source address of a frame that came in on `p`, as
    the ingress stage left that frame. -/
structure LearnedBy (cfg : Config) (p : Pidx) (node : UbrFdbNode τ) (t : Transition (Sys τ) Event Outcome) :
    Prop where
  frame : ∃ skb env verdict copy vid, t.pre.entry t.event = some (p, skb, env) ∧
    ubrVlanIngress cfg t.pre.ubr env (t.pre.onPort p skb) = .ok (verdict, some copy) ∧
    node.addr = macKey vid copy.frame.hSource
  stored : t.post.ubr.fdb.lookup node.addr = some node
  time : node.tstamp = t.pre.jiffies

/-- The step takes a port away from slot `p` or puts one there. -/
def Replugs (p : Pidx) (t : Transition (Sys τ) Event Outcome) : Prop :=
  (∃ dev, t.event = .portDel dev ∧ t.pre.slotOf dev = some p) ∨ ∃ dev, addedAt p t = some dev

/-- The entry was learned on the port that slot `p` still holds. -/
def SameIncarnation (cfg : Config) (tr : History τ) (p : Pidx) (node : UbrFdbNode τ) : Prop :=
  ∃ after t before, tr = after ++ t :: before ∧ LearnedBy cfg p node t ∧ ∀ a ∈ after, ¬ Replugs p a

variable [Jiffies τ]

/-- A port is removed when no entry in use names it, and no entry comes back to life
    because the clock wraps. -/
def Sys.KeepsEntries (s : Sys τ) : Event → Prop
  | .portDel dev => ∀ k ∈ s.slotOf dev, ∀ node ∈ s.ubr.fdb.nodes,
      ubrFdbNodeIsOld s.ubr.fdb s.jiffies node = false → k ∉ node.vec
  | .tick n => ∀ node ∈ s.ubr.fdb.nodes, ubrFdbNodeIsOld s.ubr.fdb s.jiffies node = true →
      ubrFdbNodeIsOld s.ubr.fdb (Jiffies.later s.jiffies n) node = true
  | _ => True

instance (s : Sys τ) : (e : Event) → Decidable (s.KeepsEntries e)
  | .portDel dev => inferInstanceAs (Decidable (∀ k ∈ s.slotOf dev, ∀ node ∈ s.ubr.fdb.nodes,
      ubrFdbNodeIsOld s.ubr.fdb s.jiffies node = false → k ∉ node.vec))
  | .tick n => inferInstanceAs (Decidable (∀ node ∈ s.ubr.fdb.nodes,
      ubrFdbNodeIsOld s.ubr.fdb s.jiffies node = true →
        ubrFdbNodeIsOld s.ubr.fdb (Jiffies.later s.jiffies n) node = true))
  | .rx .. | .xmit .. | .age .. | .portAdd .. | .portCleanup .. | .vlanAdd .. | .vlanDel ..
  | .vlanFree .. | .vlanAttach .. | .vlanDetach .. | .portSet .. | .devChange .. => .isTrue trivial

/-- Every port of an entry that is not aged is in use, and the entry was learned on it. -/
def EntriesCurrent (cfg : Config) (tr : History τ) (s : Sys τ) : Prop :=
  ∀ k node, s.ubr.fdb.lookup k = some node → ubrFdbNodeIsOld s.ubr.fdb s.jiffies node = false →
    ∀ p ∈ node.vec, p ∈ s.ubr.busy ∧ SameIncarnation cfg tr p node

theorem fdbOk_of_reachable {s : Sys τ} (reached : Reachable (bridge τ cfg) s) : FdbOk s.ubr.fdb := by
  refine reached.invariant (I := fun s => FdbOk s.ubr.fdb) ?_ ?_
  · intro s init
    obtain ⟨dev, devAddr, same⟩ := init_ubr init
    rw [same]
    exact ⟨List.nodup_nil, nofun⟩
  · intro s e s' o ok enabled done
    exact ok.step (exec_fdb enabled done)

section Step

variable {s s' : Sys τ} {e : Event} {o : Outcome} {tr : History τ} {p : Pidx} {node : UbrFdbNode τ}

omit [Jiffies τ] in
theorem SameIncarnation.cons {t : Transition (Sys τ) Event Outcome} (same : SameIncarnation cfg tr p node)
    (kept : ¬ Replugs p t) : SameIncarnation cfg (t :: tr) p node := by
  obtain ⟨after, learned, before, rfl, stored, untouched⟩ := same
  refine ⟨t :: after, learned, before, rfl, stored, ?_⟩
  intro a inside
  rcases List.mem_cons.mp inside with rfl | later
  · exact kept
  · exact untouched a later

/-- A port that an entry in use names stays where it is. -/
private theorem port_stays (safe : s.KeepsEntries e) (enabled : s.Enabled e)
    (done : s.exec cfg e = .ok (s', o)) (stored : node ∈ s.ubr.fdb.nodes)
    (young : ubrFdbNodeIsOld s.ubr.fdb s.jiffies node = false) (named : p ∈ node.vec)
    (inUse : p ∈ s.ubr.busy) : p ∈ s'.ubr.busy ∧ ¬ Replugs p ⟨s, e, o, s'⟩ := by
  have notRemoved : ∀ dev, e = .portDel dev → s.slotOf dev ≠ some p := by
    rintro dev rfl slave
    exact safe p slave node stored young named
  constructor
  · cases (exec_effect enabled done).ports with
    | kept busy | addFailed _ _ _ busy | cleaned _ busy => exact busy ▸ inUse
    | added _ _ busy => exact busy ▸ Bitmap.mem_set.mpr (.inr inUse)
    | @deleted dev k _ slave _ busy =>
        refine busy ▸ Bitmap.mem_clear.mpr ⟨?_, inUse⟩
        rintro rfl
        exact notRemoved dev rfl slave
  · rintro (⟨dev, rfl, slave⟩ | ⟨dev, added⟩)
    · exact notRemoved dev rfl slave
    · obtain ⟨env, _, begun, _⟩ := (addedAt_some done).mp added
      exact initSlot_idle begun inUse

private theorem entry_stays (current : EntriesCurrent cfg tr s) (safe : s.KeepsEntries e)
    (enabled : s.Enabled e) (done : s.exec cfg e = .ok (s', o)) {k : UbrFdbAddr}
    (found : s.ubr.fdb.lookup k = some node) (young : ubrFdbNodeIsOld s.ubr.fdb s.jiffies node = false)
    (named : p ∈ node.vec) : p ∈ s'.ubr.busy ∧ SameIncarnation cfg (⟨s, e, o, s'⟩ :: tr) p node := by
  obtain ⟨inUse, same⟩ := current k node found young p named
  obtain ⟨stays, kept⟩ :=
    port_stays safe enabled done (Table.mem_of_lookup found) young named inUse
  exact ⟨stays, same.cons kept⟩

private theorem entry_starts (onFdb : e.OnFdb) (enabled : s.Enabled e) (done : s.exec cfg e = .ok (s', o))
    {skb copy : Skb} {env : FrameEnv} {verdict : Bool} {vid : Vid} {q : Pidx}
    (enters : s.entry e = some (q, skb, env)) (inUse : q ∈ s.ubr.busy)
    (ingress : ubrVlanIngress cfg s.ubr env (s.onPort q skb) = .ok (verdict, some copy))
    (addr : node.addr = macKey vid copy.frame.hSource) (stored : s'.ubr.fdb.lookup node.addr = some node)
    (time : node.tstamp = s.jiffies) (vec : node.vec = Bitmap.zero.set q) (named : p ∈ node.vec) :
    p ∈ s'.ubr.busy ∧ SameIncarnation cfg (⟨s, e, o, s'⟩ :: tr) p node := by
  rw [vec] at named
  have same : p = q := (Bitmap.mem_set.mp named).resolve_right (Bitmap.mem_zero p)
  subst same
  obtain ⟨fdb, quiet⟩ := onFdb_quiet onFdb enabled done
  refine ⟨quiet ▸ inUse, [], ⟨s, e, o, s'⟩, tr, rfl,
    ⟨⟨skb, env, verdict, copy, vid, enters, ingress, addr⟩, stored, time⟩, ?_⟩
  intro a inside
  cases inside

private theorem entry_untimed (ok : FdbOk s.ubr.fdb) (slaves : SlavesOk s)
    (slots : ∀ k, SlotOk k (s.ubr.ports k)) (current : EntriesCurrent cfg tr s) (safe : s.KeepsEntries e)
    (enabled : s.Enabled e) (done : s.exec cfg e = .ok (s', o)) {k : UbrFdbAddr}
    (found : s'.ubr.fdb.lookup k = some node) (young : ubrFdbNodeIsOld s'.ubr.fdb s.jiffies node = false)
    (named : p ∈ node.vec) : p ∈ s'.ubr.busy ∧ SameIncarnation cfg (⟨s, e, o, s'⟩ :: tr) p node := by
  have addr : node.addr = k := Table.key_of_lookup found
  have stored : s'.ubr.fdb.lookup node.addr = some node := addr ▸ found
  have effect := exec_fdb enabled done
  generalize s'.ubr.fdb = fdb at effect found young
  cases effect with
  | kept => exact entry_stays current safe enabled done found young named
  | @aged walk =>
      rw [isOld_congr (age_timeout walk)] at young
      exact entry_stays current safe enabled done (lookup_of_age found) young named
  | @received dev skb env q vlan verdict copy slave through ingress =>
      rw [isOld_congr learned_timeout] at young
      rcases lookup_learned ok.single found with old | ⟨mine, time, vec, _⟩
      · exact entry_stays current safe enabled done old young named
      · have enters : s.entry (.rx dev skb env) = some (q, skb, env) := by simp [Sys.entry, slave]
        rw [through] at vec
        exact entry_starts trivial enabled done enters (slaves.slaves dev q slave).1 ingress (addr.trans mine)
          stored time vec named
  | @sent skb env vlan verdict copy through ingress =>
      rw [isOld_congr learned_timeout] at young
      rcases lookup_learned ok.single found with old | ⟨mine, time, vec, _⟩
      · exact entry_stays current safe enabled done old young named
      · have host : (s.ubr.ports 0).ingressCb.pidx = 0 := by
          cases dev : (s.ubr.ports 0).dev with
          | none => exact (slots 0).empty dev
          | some d => exact (slots 0).pidx (by rw [dev]; rfl)
        rw [through, host] at vec
        exact entry_starts trivial enabled done rfl slaves.host ingress (addr.trans mine) stored time vec named

theorem entriesCurrent_step (ok : FdbOk s.ubr.fdb) (slaves : SlavesOk s)
    (slots : ∀ k, SlotOk k (s.ubr.ports k)) (current : EntriesCurrent cfg tr s) (safe : s.KeepsEntries e)
    (enabled : s.Enabled e) (done : s.exec cfg e = .ok (s', o)) :
    EntriesCurrent cfg (⟨s, e, o, s'⟩ :: tr) s' := by
  intro k node found young p named
  cases exec_around done with
  | still _ clock | device _ clock =>
      rw [clock] at young
      exact entry_untimed ok slaves slots current safe enabled done found young named
  | ticked moved =>
      rw [moved] at found young
      have before : ubrFdbNodeIsOld s.ubr.fdb s.jiffies node = false := by
        by_contra aged
        have later := safe node (Table.mem_of_lookup found) (by simpa using aged)
        rw [young] at later
        cases later
      exact entry_stays current safe enabled done found before named

end Step

theorem entriesCurrent_of_run {tr : History τ} {s : Sys τ} (run : Run (bridge τ cfg) Sys.KeepsEntries tr s) :
    EntriesCurrent cfg tr s := by
  refine run.invariant (I := EntriesCurrent cfg) ?_ ?_
  · intro s init k node found
    obtain ⟨dev, devAddr, same⟩ := init_ubr init
    rw [same] at found
    cases found
  · intro tr s e s' o before current enabled guard done
    exact entriesCurrent_step (fdbOk_of_reachable before.reachable) (.of_reachable before.reachable)
      (slotOk_of_reachable before.reachable) current guard enabled done

/-- Apart from flooding, frames are steered to ports that still hold the device behind
    which the address was seen. -/
theorem entries_name_their_port {tr : History τ} {s : Sys τ}
    (run : Run (bridge τ cfg) Sys.KeepsEntries tr s) :
    EntriesCurrent cfg tr s ∧
      ∀ env vlan skb, ∀ p ∈ ubrFdbFilter cfg s.ubr.fdb s.jiffies env vlan skb,
        p ∈ floodVec vlan skb.frame.hDest ∨
          ∃ node, s.ubr.fdb.lookup (ubrFdbDestKey cfg env vlan skb) = some node ∧ p ∈ s.ubr.busy ∧
            SameIncarnation cfg tr p node := by
  have current := entriesCurrent_of_run run
  refine ⟨current, ?_⟩
  intro env vlan skb p chosen
  simp only [ubrFdbFilter] at chosen
  split at chosen
  · rename_i node found
    split at chosen
    · exact .inl chosen
    · rename_i young
      exact .inr ⟨node, found, current _ node found (by simpa using young) p chosen⟩
  · exact .inl chosen

/-- A frame from the station `02:00:00:00:00:99` to an unknown one. -/
def stationFrame : Skb where
  frame := { hDest := 0x020000000098, hSource := 0x020000000099, hProto := 0x0800, payload := [] }
  protocol := x86.htons 0x0800

/-- The first port is removed when the entry learned on it has aged, and the station
    is seen again on the port that gets the index. -/
theorem entries_name_their_port_x86 :
    ∃ tr s, Run (bridge Nat x86) Sys.KeepsEntries tr s ∧
      (s.ubr.fdb.lookup (macKey 0 0x020000000099)).any (1 ∈ ·.vec) = true ∧ EntriesCurrent x86 tr s ∧
      ∀ env vlan skb, ∀ p ∈ ubrFdbFilter x86 s.ubr.fdb s.jiffies env vlan skb,
        p ∈ floodVec vlan skb.frame.hDest ∨
          ∃ node, s.ubr.fdb.lookup (ubrFdbDestKey x86 env vlan skb) = some node ∧ p ∈ s.ubr.busy ∧
            SameIncarnation x86 tr p node := by
  obtain ⟨tr, s, run, learned⟩ := run_booted x86 Sys.KeepsEntries
    [.portAdd 1 {}, .rx 1 stationFrame {}, .tick 75001, .portDel 1, .portCleanup 1, .portAdd 2 {},
      .rx 2 stationFrame {}]
    (fun _ s => (s.ubr.fdb.lookup (macKey 0 0x020000000099)).any (1 ∈ ·.vec)) (by decide +kernel)
  exact ⟨tr, s, run, learned, entries_name_their_port run⟩

/-- The entry of a station outlives the port it was seen on. -/
theorem entries_outlive_port :
    ¬ ∀ tr s, Run (bridge Nat x86) (fun _ _ => True) tr s → EntriesCurrent x86 tr s := by
  intro claim
  obtain ⟨tr, s, run, test⟩ := run_booted x86 (fun _ _ => True)
    [.portAdd 1 {}, .rx 1 stationFrame {}, .portDel 1]
    (fun _ s => decide (1 ∉ s.ubr.busy ∧ ∃ node ∈ s.ubr.fdb.lookup (macKey 0 0x020000000099),
      ubrFdbNodeIsOld s.ubr.fdb s.jiffies node = false ∧ 1 ∈ node.vec))
    (by decide +kernel)
  obtain ⟨gone, node, found, young, named⟩ := of_decide_eq_true test
  exact gone (claim tr s run _ node found young 1 named).1

end UnassumingBridge
