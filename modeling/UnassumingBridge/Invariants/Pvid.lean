import UnassumingBridge.Invariants.Ports
import UnassumingBridge.Invariants.Registry

/-! # The cached VLAN of a port

`ingress_cb.vlan` is a copy of what a lookup of the port's PVID should return.
Port initialisation, the port command and the VLAN commands keep it up to date.
A lookup that meets a deleted VLAN breaks it.
-/

namespace UnassumingBridge

open Support

variable {τ : Type} {cfg : Config}

/-- A port's cached VLAN is the one of its PVID, and it filters when the PVID is not 0. -/
structure Coherent (s : Ubr τ) (p : UbrPort) : Prop where
  vlan : ∀ r, p.ingressCb.vlan = some r ↔ s.LiveVid p.pvid r
  filtering : p.ingressCb.vlanFiltering = true ↔ p.pvid ≠ 0

/-- Ports are plugged into clean slots, and no port caches a VLAN that was deleted. -/
def Sys.KeepsPvids (cfg : Config) (s : Sys τ) : Event → Prop
  | .portAdd dev env => ∀ k ∈ s.initSlot dev,
      k ∉ s.ubr.portRcu ∧ (s.completes dev env k = true → s.ubr.stale cfg 0 = false)
  | .portSet port pvid => (ubrPortFind s.ubr port).toBool = true → s.ubr.stale cfg pvid = false
  | _ => True

instance (s : Sys τ) : (e : Event) → Decidable (s.KeepsPvids cfg e)
  | .portAdd dev env => inferInstanceAs (Decidable (∀ k ∈ s.initSlot dev,
      k ∉ s.ubr.portRcu ∧ (s.completes dev env k = true → s.ubr.stale cfg 0 = false)))
  | .portSet port pvid => inferInstanceAs (Decidable
      ((ubrPortFind s.ubr port).toBool = true → s.ubr.stale cfg pvid = false))
  | .rx .. | .xmit .. | .age .. | .tick .. | .portDel .. | .portCleanup .. | .vlanAdd .. | .vlanDel ..
  | .vlanFree .. | .vlanAttach .. | .vlanDetach .. | .devChange .. => .isTrue trivial

theorem Sys.KeepsPvids.addsOntoIdle {s : Sys τ} {e : Event} (safe : s.KeepsPvids cfg e) :
    s.AddsOntoIdle e := by
  cases e with
  | portAdd dev env => exact fun k begun => (safe k begun).1
  | _ => trivial

theorem stale_eq {s : Ubr τ} {vid : Vid} {r : VlanRef} (found : ubrVlanFind cfg s vid = .ok (some r)) :
    s.stale cfg vid = decide (r ∈ s.vlanRcu) := by
  simp only [Ubr.stale, found]

theorem liveVid_iff_of_find {s : Ubr τ} {vid : Vid} {r : VlanRef} (vlans : VlansOk cfg s)
    (found : ubrVlanFind cfg s vid = .ok (some r)) (alive : s.stale cfg vid = false) (x : VlanRef) :
    s.LiveVid vid x ↔ x = r := by
  rw [stale_eq found] at alive
  have live : s.LiveVid vid r := liveVid_of_find found (of_decide_eq_false alive)
  constructor
  · intro other
    exact liveVid_unique vlans other live
  · intro same
    exact same ▸ live

/-- What an event does to the slot `k` of a port that is busy afterwards, and to the
    VLANs the slot could refer to. -/
inductive SlotEffect (cfg : Config) (s : Sys τ) (k : Pidx) : Event → Ubr τ → Prop where
  | kept {e u} (inUse : k ∈ s.ubr.busy) (slot : u.ports k = s.ubr.ports k)
      (same : ∀ vid r, u.LiveVid vid r ↔ s.ubr.LiveVid vid r) : SlotEffect cfg s k e u
  | added {vid zallocFails} (inUse : k ∈ s.ubr.busy) (missing : ubrVlanFind cfg s.ubr vid = .ok none) :
      SlotEffect cfg s k (.vlanAdd vid zallocFails) (s.ubr.register cfg vid)
  | dropped {vid r v} (inUse : k ∈ s.ubr.busy) (live : s.ubr.Live r v) (named : v.vid = vid) :
      SlotEffect cfg s k (.vlanDel vid) (s.ubr.dropVlan r v)
  | pvidSet {port pvid vlan u} (found : ubrPortFind s.ubr port = .ok k)
      (walked : ubrVlanFind cfg s.ubr pvid = .ok vlan) (slot : u.ports k = (s.ubr.ports k).setPvid pvid vlan)
      (same : ∀ vid r, u.LiveVid vid r ↔ s.ubr.LiveVid vid r) : SlotEffect cfg s k (.portSet port pvid) u
  | plugged {dev env r u} (begun : s.initSlot dev = some k) (whole : s.completes dev env k = true)
      (walked : ubrVlanFind cfg s.ubr 0 = .ok (some r)) (slot : u.ports k = ({} : UbrPort).init k dev (some r))
      (same : ∀ vid r, u.LiveVid vid r ↔ s.ubr.LiveVid vid r) : SlotEffect cfg s k (.portAdd dev env) u

theorem Effect.slot {s : Sys τ} {e : Event} {u : Ubr τ} (ports : PortsOk s) (safe : s.AddsOntoIdle e)
    (effect : Effect cfg s e u) {k : Pidx} (inUse : k ∈ u.busy) : SlotEffect cfg s k e u := by
  cases effect with
  | quiet fdb => exact .kept inUse rfl fun _ _ => Iff.rfl
  | vlanAdded missing => exact .added inUse missing
  | vlanDeleted found live same fresh => exact .dropped inUse ⟨live, fresh⟩ same
  | vlanFreed queued => exact .kept inUse rfl fun _ _ => liveVid_freed queued
  | attached found live same slot => exact .kept inUse rfl fun _ _ => liveVid_putVlan live rfl
  | detached found live same slot => exact .kept inUse rfl fun _ _ => liveVid_putVlan live rfl
  | @pvidSet port pvid j vlan slot found =>
      by_cases here : k = j
      · subst here
        exact .pvidSet slot found (Ubr.putPort_self ..) fun _ _ => Iff.rfl
      · exact .kept inUse (Ubr.putPort_other _ _ here) fun _ _ => Iff.rfl
  | @portAdded dev env j r v begun whole found live =>
      by_cases here : k = j
      · subst here
        have clean := ports.clean k (initSlot_idle begun) (safe k begun)
        exact .plugged begun whole found (by rw [plug_self, clean]) fun _ _ => liveVid_putVlan live rfl
      · exact .kept ((Bitmap.mem_set.mp inUse).resolve_left here) (plug_other _ v here)
          fun _ _ => liveVid_putVlan live rfl
  | @portAddFailed dev env j r v begun broken found live idle =>
      obtain ⟨other, before⟩ := Bitmap.mem_clear.mp inUse
      exact .kept ((Bitmap.mem_set.mp before).resolve_left other)
        ((Ubr.putPort_other _ _ other).trans (plug_other _ v other)) fun _ _ => liveVid_putVlan live rfl
  | @portDeleted dev j slave owned idle =>
      exact .kept (Bitmap.mem_clear.mp inUse).2 rfl fun _ _ => Iff.rfl
  | @portCleaned j queued once =>
      have other : k ≠ j := fun here => ports.pendingIdle j queued (here ▸ inUse)
      exact .kept inUse (Ubr.putPort_other _ _ other) fun _ _ => Iff.rfl

namespace Coherent

section Operations

variable {s u : Ubr τ} {p : UbrPort}

theorem congr (ok : Coherent s p) (same : ∀ vid r, u.LiveVid vid r ↔ s.LiveVid vid r) : Coherent u p where
  vlan r := (ok.vlan r).trans (same p.pvid r).symm
  filtering := ok.filtering

theorem init {r : VlanRef} (vlans : VlansOk cfg s) (found : ubrVlanFind cfg s 0 = .ok (some r))
    (alive : s.stale cfg 0 = false) (k : Pidx) (dev : Dev) :
    Coherent s (({} : UbrPort).init k dev (some r)) where
  vlan x := by
    have live := liveVid_iff_of_find vlans found alive x
    constructor
    · intro cached
      cases cached
      exact live.mpr rfl
    · intro other
      cases live.mp other
      rfl
  filtering := by simp [UbrPort.init]

theorem setPvid {pvid : Vid} {vlan : Option VlanRef} (vlans : VlansOk cfg s)
    (found : ubrVlanFind cfg s pvid = .ok vlan) (alive : s.stale cfg pvid = false) :
    Coherent s (p.setPvid pvid vlan) where
  vlan x := by
    cases vlan with
    | none =>
        constructor
        · intro cached
          cases cached
        · intro live
          exact absurd live (not_liveVid_of_find_none vlans found)
    | some r =>
        have live := liveVid_iff_of_find vlans found alive x
        constructor
        · intro cached
          cases cached
          exact live.mpr rfl
        · intro other
          cases live.mp other
          rfl
  filtering := by simp [UbrPort.setPvid]

theorem added {vid : Vid} {k : Pidx} (vlans : VlansOk cfg s) (missing : ubrVlanFind cfg s vid = .ok none)
    (inUse : k ∈ s.busy) (ok : Coherent s (s.ports k)) :
    Coherent (s.register cfg vid) ((s.register cfg vid).ports k) := by
  by_cases mine : (s.ports k).pvid = vid
  · have slot : (s.register cfg vid).ports k =
        { s.ports k with ingressCb.vlan := some s.nextVlan } := by
      simp [Ubr.register, Ubr.cachePvid, Ubr.addVlan, inUse, mine]
    rw [slot]
    refine ⟨fun x => ?_, ok.filtering⟩
    rw [liveVid_register vlans missing, if_pos mine, Option.some.injEq, eq_comm]
  · have slot : (s.register cfg vid).ports k = s.ports k := by
      simp [Ubr.register, Ubr.cachePvid, Ubr.addVlan, mine]
    rw [slot]
    refine ⟨fun x => ?_, ok.filtering⟩
    rw [liveVid_register vlans missing, if_neg mine]
    exact ok.vlan x

theorem dropped {r : VlanRef} {v : UbrVlan} {k : Pidx} (vlans : VlansOk cfg s) (live : s.Live r v)
    (inUse : k ∈ s.busy) (ok : Coherent s (s.ports k)) :
    Coherent (s.dropVlan r v) ((s.dropVlan r v).ports k) := by
  have this : s.LiveVid v.vid r := ⟨v, live, rfl⟩
  by_cases mine : (s.ports k).pvid = v.vid
  · have slot : (s.dropVlan r v).ports k = { s.ports k with ingressCb.vlan := none } := by
      simp [Ubr.dropVlan, Ubr.putVlan, Ubr.cachePvid, inUse, mine]
    rw [slot]
    refine ⟨fun x => ?_, ok.filtering⟩
    rw [liveVid_dropVlan]
    constructor
    · intro cached
      cases cached
    · rintro ⟨other, before⟩
      rw [mine] at before
      exact absurd (liveVid_unique vlans before this) other
  · have slot : (s.dropVlan r v).ports k = s.ports k := by
      simp [Ubr.dropVlan, Ubr.putVlan, Ubr.cachePvid, mine]
    rw [slot]
    refine ⟨fun x => ?_, ok.filtering⟩
    rw [liveVid_dropVlan, ok.vlan x]
    constructor
    · intro before
      refine ⟨?_, before⟩
      rintro rfl
      obtain ⟨w, other, vids⟩ := before
      cases live.1.symm.trans other.1
      exact mine vids.symm
    · exact And.right

end Operations

theorem step {s : Sys τ} {e : Event} {u : Ubr τ} (vlans : VlansOk cfg s.ubr)
    (ok : ∀ k ∈ s.ubr.busy, Coherent s.ubr (s.ubr.ports k)) (safe : s.KeepsPvids cfg e) {k : Pidx}
    (effect : SlotEffect cfg s k e u) : Coherent u (u.ports k) := by
  cases effect with
  | kept inUse slot same => exact slot ▸ (ok k inUse).congr same
  | added inUse missing => exact Coherent.added vlans missing inUse (ok k inUse)
  | dropped inUse live named => exact Coherent.dropped vlans live inUse (ok k inUse)
  | pvidSet found walked slot same =>
      have alive := safe (by rw [found]; rfl)
      exact slot ▸ (setPvid vlans walked alive).congr same
  | @plugged dev env r _ begun whole walked slot same =>
      have alive := (safe k begun).2 whole
      exact slot ▸ (init vlans walked alive k dev).congr same

end Coherent

theorem fresh_stale (dev : Dev) (devAddr : Mac) : (freshUbr cfg dev devAddr : Ubr τ).stale cfg 0 = false := by
  rw [stale_eq (fresh_find dev devAddr)]
  rfl

variable [Jiffies τ]

/-- While ports are plugged into clean slots and no deleted VLAN is cached, what a port caches is its PVID. -/
theorem pvid_cache_coherent {tr : History τ} {s : Sys τ}
    (run : Run (bridge τ cfg) (Sys.KeepsPvids cfg) tr s) :
    ∀ k ∈ s.ubr.busy, Coherent s.ubr (s.ubr.ports k) := by
  refine run.invariant (I := fun _ s => ∀ k ∈ s.ubr.busy, Coherent s.ubr (s.ubr.ports k)) ?_ ?_
  · intro s init k inUse
    obtain ⟨dev, devAddr, same⟩ := init_ubr init
    rw [same, fresh_busy] at inUse
    rw [same, fresh_port, if_pos inUse]
    exact .init (.fresh dev devAddr) (fresh_find dev devAddr) (fresh_stale dev devAddr) 0 dev
  · intro tr s e s' o before ok enabled guard done
    have ports : PortsOk s := .of_run (fun _ _ => Sys.KeepsPvids.addsOntoIdle) before
    intro k inUse
    exact Coherent.step (vlansOk_of_reachable before.reachable) ok guard
      ((exec_effect enabled done).slot ports guard.addsOntoIdle inUse)

/-- A PVID that is set before its VLAN exists, and a second port after a VLAN is gone. -/
theorem pvid_cache_coherent_x86 :
    ∃ tr s, Run (bridge Nat x86) (Sys.KeepsPvids x86) tr s ∧ (2 : Pidx) ∈ s.ubr.busy ∧
      ∀ k ∈ s.ubr.busy, Coherent s.ubr (s.ubr.ports k) := by
  obtain ⟨tr, s, run, busy⟩ := run_booted x86 (Sys.KeepsPvids x86)
    [.portAdd 1 {}, .portSet (some 1) 7, .vlanAdd 7 false, .vlanDel 7, .portAdd 2 {}, .portSet (some 2) 8,
      .vlanAdd 8 false]
    (fun _ s => decide (2 ∈ s.ubr.busy)) (by decide +kernel)
  exact ⟨tr, s, run, of_decide_eq_true busy, pvid_cache_coherent run⟩

/-- The port command stores what the lookup returns, a deleted VLAN in this run. -/
theorem pvid_cache_dangles :
    ¬ ∀ tr s, Run (bridge Nat x86) (fun _ _ => True) tr s →
      ∀ k ∈ s.ubr.busy, Coherent s.ubr (s.ubr.ports k) := by
  intro claim
  obtain ⟨tr, s, run, test⟩ := run_booted x86 (fun _ _ => True)
    [.vlanAdd 7 false, .vlanDel 7, .portAdd 1 {}, .portSet (some 1) 7]
    (fun _ s => decide (1 ∈ s.ubr.busy ∧ (s.ubr.ports 1).ingressCb.vlan = some 1 ∧ 1 ∈ s.ubr.vlanRcu))
    (by decide +kernel)
  obtain ⟨busy, cached, deleted⟩ := of_decide_eq_true test
  obtain ⟨v, live, _⟩ := ((claim tr s run 1 busy).vlan 1).mp cached
  exact live.2 deleted

end UnassumingBridge
