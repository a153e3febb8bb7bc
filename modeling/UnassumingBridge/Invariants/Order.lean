import UnassumingBridge.Effects.Delivery
import UnassumingBridge.Invariants.Entries
import UnassumingBridge.Invariants.Membership
import UnassumingBridge.Invariants.Pvid
import UnassumingBridge.Invariants.VlanMap

/-! # A bridge that is used in order

No registered VLAN is deleted, ports leave their VLANs and their entries before they go,
their slots are cleaned before they are used again, and every frame and every attachment
is of a VLAN that exists. No helper fails on a frame, ports that filter see no tag of
another protocol, egress finds the protocols, and the clock is looked at often enough. The
invariants that hold then, put together.
-/

namespace UnassumingBridge

open Support

variable {τ : Type} {cfg : Config}

/-- The VID that a frame brings along to a slot; 0 stands for none. No VID comes out when a
    helper frees the buffer. -/
def Sys.brought (cfg : Config) (s : Sys τ) (k : Pidx) (skb : Skb) (env : FrameEnv) : Option Vid :=
  if (s.ubr.ports k).ingressCb.vlanFiltering then
    (ubrVlanNormalise cfg s.ubr.vlanProto env { skb with cb := (s.ubr.ports k).ingressCb }).map Prod.snd
  else some 0

/-- The VID by which a slot forwards a frame that has brought `vid` along. -/
def UbrPort.classify (p : UbrPort) (vid : Vid) : Vid :=
  if p.pvid = 0 then 0 else if vid = 0 then p.pvid else vid

/-- The helpers that make clones and entries do not fail. -/
def FrameEnv.Works (env : FrameEnv) : Prop :=
  (∀ q, env.cloneFails q = false) ∧ env.nodeAllocFails = false ∧ env.nodeInsertFails = false

instance (env : FrameEnv) : Decidable env.Works :=
  inferInstanceAs (Decidable ((∀ q, env.cloneFails q = false) ∧ env.nodeAllocFails = false ∧
    env.nodeInsertFails = false))

/-- The frame brings a VID along with which it is of a registered VLAN. -/
def Sys.Classifies (cfg : Config) (s : Sys τ) (k : Pidx) (skb : Skb) (env : FrameEnv) : Prop :=
  ∃ vid ∈ s.brought cfg k skb env, s.ubr.registered cfg ((s.ubr.ports k).classify vid) = true

instance (s : Sys τ) (k : Pidx) (skb : Skb) (env : FrameEnv) : Decidable (s.Classifies cfg k skb env) :=
  decidable_of_iff
    ((s.brought cfg k skb env).any (fun vid => s.ubr.registered cfg ((s.ubr.ports k).classify vid)) = true)
    (Option.any_eq_true ..)

/-- Frames and attachments are of registered VLANs. -/
def Sys.NamesVlans (cfg : Config) (s : Sys τ) : Event → Prop
  | .rx dev skb env => ∀ k ∈ s.slotOf dev, s.Classifies cfg k skb env
  | .xmit skb env => s.Classifies cfg 0 skb env
  | .vlanAttach vid port _ | .vlanDetach vid port =>
      (ubrPortFind s.ubr (some port)).toBool = true → s.ubr.registered cfg vid = true
  | _ => True

instance (s : Sys τ) : (e : Event) → Decidable (s.NamesVlans cfg e)
  | .rx dev skb env => inferInstanceAs (Decidable (∀ k ∈ s.slotOf dev, s.Classifies cfg k skb env))
  | .xmit skb env => inferInstanceAs (Decidable (s.Classifies cfg 0 skb env))
  | .vlanAttach vid port _ | .vlanDetach vid port => inferInstanceAs (Decidable
      ((ubrPortFind s.ubr (some port)).toBool = true → s.ubr.registered cfg vid = true))
  | .age .. | .tick .. | .portAdd .. | .portDel .. | .portCleanup .. | .vlanAdd .. | .vlanDel ..
  | .vlanFree .. | .portSet .. | .devChange .. => .isTrue trivial

/-- No helper fails on the frame. -/
def Sys.HelpersWork (s : Sys τ) (e : Event) : Prop := ∀ x ∈ s.entry e, x.2.2.Works

/-- A frame with a tag of another protocol comes in only where that tag is left alone. -/
def Sys.OwnTags (cfg : Config) (s : Sys τ) (e : Event) : Prop :=
  ∀ x ∈ s.entry e, (s.ubr.ports x.1).ingressCb.vlanFiltering = true → ¬ x.2.1.Foreign cfg s.ubr.vlanProto

/-- What the ingress stage makes of a frame that it accepts. -/
def Sys.accepted (cfg : Config) (s : Sys τ) (x : Pidx × Skb × FrameEnv) : Option Skb :=
  match ubrVlanIngress cfg s.ubr x.2.2 (s.onPort x.1 x.2.1) with
  | .ok (true, copy) => copy
  | _ => none

theorem accepted_some {s : Sys τ} {x : Pidx × Skb × FrameEnv} {copy : Skb} :
    s.accepted cfg x = some copy ↔ ubrVlanIngress cfg s.ubr x.2.2 (s.onPort x.1 x.2.1) = .ok (true, some copy) := by
  unfold Sys.accepted
  split
  · rename_i accepted
    rw [accepted]
    simp
  · rename_i rejected
    exact ⟨nofun, fun accepted => absurd accepted (rejected (some copy))⟩

/-- Egress finds a protocol in what it would send to the members of the frame's VLAN. -/
def Sys.FindsProtocols (cfg : Config) (s : Sys τ) (e : Event) : Prop :=
  ∀ x ∈ s.entry e, ∀ copy ∈ s.accepted cfg x, ∀ vlan ∈ (s.ubr.vlanAt copy.cb.vlan).toOption,
    ∀ q ∈ vlan.members, FindsProtocol cfg x.2.2 s.ubr.vlanProto vlan copy q

instance (s : Sys τ) (e : Event) : Decidable (s.HelpersWork e) :=
  inferInstanceAs (Decidable (∀ x ∈ s.entry e, x.2.2.Works))

instance (s : Sys τ) (e : Event) : Decidable (s.OwnTags cfg e) :=
  inferInstanceAs (Decidable (∀ x ∈ s.entry e,
    (s.ubr.ports x.1).ingressCb.vlanFiltering = true → ¬ x.2.1.Foreign cfg s.ubr.vlanProto))

instance (s : Sys τ) (e : Event) : Decidable (s.FindsProtocols cfg e) :=
  inferInstanceAs (Decidable (∀ x ∈ s.entry e, ∀ copy ∈ s.accepted cfg x,
    ∀ vlan ∈ (s.ubr.vlanAt copy.cb.vlan).toOption, ∀ q ∈ vlan.members,
      FindsProtocol cfg x.2.2 s.ubr.vlanProto vlan copy q))

/-- What is asked of a frame depends on the bridge and on where the frame comes in. -/
theorem frames_alike (cfg : Config) {s t : Sys τ} {e : Event} (ubr : s.ubr = t.ubr) (entry : s.entry e = t.entry e) :
    (s.HelpersWork e ↔ t.HelpersWork e) ∧ (s.OwnTags cfg e ↔ t.OwnTags cfg e) ∧
      (s.FindsProtocols cfg e ↔ t.FindsProtocols cfg e) := by
  simp only [Sys.HelpersWork, Sys.OwnTags, Sys.FindsProtocols, Sys.accepted, Sys.onPort, ubr, entry, iff_self, and_self]

theorem frames_of_none (cfg : Config) {s : Sys τ} {e : Event} (nothing : s.entry e = none) :
    s.HelpersWork e ∧ s.OwnTags cfg e ∧ s.FindsProtocols cfg e := by
  refine ⟨fun x enters => ?_, fun x enters => ?_, fun x enters => ?_⟩ <;> cases nothing.symm.trans enters

/-- Time does not go on by more than half of the range of a clock of `w` bits at once. -/
def Event.Timely (w : Nat) : Event → Prop
  | .tick n => n ≤ 2 ^ (w - 1)
  | _ => True

instance (w : Nat) : (e : Event) → Decidable (e.Timely w)
  | .tick n => inferInstanceAs (Decidable (n ≤ 2 ^ (w - 1)))
  | .rx .. | .xmit .. | .age .. | .portAdd .. | .portDel .. | .portCleanup .. | .vlanAdd .. | .vlanDel ..
  | .vlanFree .. | .vlanAttach .. | .vlanDetach .. | .portSet .. | .devChange .. => .isTrue trivial

/-- What using the bridge in order means for one event. -/
structure Sys.InOrder {w : Nat} (cfg : Config) (s : Sys (BitVec w)) (e : Event) : Prop where
  vlans : s.KeepsVlans cfg e
  members : s.KeepsMembers cfg e
  slots : s.AddsOntoIdle e
  entries : s.KeepsEntries e
  names : s.NamesVlans cfg e
  works : s.HelpersWork e
  tags : s.OwnTags cfg e
  protocols : s.FindsProtocols cfg e
  clock : e.Timely w

instance {w : Nat} (s : Sys (BitVec w)) (e : Event) : Decidable (s.InOrder cfg e) :=
  decidable_of_iff (s.KeepsVlans cfg e ∧ s.KeepsMembers cfg e ∧ s.AddsOntoIdle e ∧ s.KeepsEntries e ∧
      s.NamesVlans cfg e ∧ s.HelpersWork e ∧ s.OwnTags cfg e ∧ s.FindsProtocols cfg e ∧ e.Timely w)
    ⟨fun ⟨vlans, members, slots, entries, names, works, tags, protocols, clock⟩ =>
        ⟨vlans, members, slots, entries, names, works, tags, protocols, clock⟩,
      fun ok => ⟨ok.vlans, ok.members, ok.slots, ok.entries, ok.names, ok.works, ok.tags, ok.protocols, ok.clock⟩⟩

/-- A VLAN as `ubr_vlan_new` makes it, whoever its members are. -/
structure UbrVlan.Plain (v : UbrVlan) : Prop where
  saLearning : v.saLearning = true
  mcflood : v.mcflood = .fill
  bcflood : v.bcflood = .fill
  ucflood : v.ucflood = .fill

theorem UbrVlan.Plain.attach {v : UbrVlan} (k : Pidx) (tagged : Bool) (plain : v.Plain) :
    (v.attach k tagged).Plain := by
  cases tagged with
  | true => exact ⟨plain.saLearning, plain.mcflood, plain.bcflood, plain.ucflood⟩
  | false => exact ⟨plain.saLearning, plain.mcflood, plain.bcflood, plain.ucflood⟩

/-- What holds of a bridge as long as everything is in order. -/
structure Tidy (cfg : Config) (s : Sys τ) : Prop where
  vlans : VlansOk cfg s.ubr
  deleted : NoneDeleted s.ubr
  ports : PortsOk s
  slots : ∀ k, SlotOk k (s.ubr.ports k)
  slaves : SlavesOk s
  members : MembersOk s.ubr
  pvids : ∀ k ∈ s.ubr.busy, Coherent s.ubr (s.ubr.ports k)
  host : ∃ r, s.ubr.LiveVid 0 r
  plain : ∀ r v, s.ubr.heap r = some v → v.Plain
  learning : ∀ k ∈ s.ubr.busy, (s.ubr.ports k).ingressCb.saLearning = true

namespace Tidy

section Facts

variable {s : Sys τ} {vid : Vid} {r : VlanRef} {v : UbrVlan}

theorem live (ok : Tidy cfg s) (object : s.ubr.heap r = some v) : s.ubr.Live r v := by
  refine ⟨object, ?_⟩
  rw [ok.deleted.empty]
  exact List.not_mem_nil

theorem stale (ok : Tidy cfg s) (vid : Vid) : s.ubr.stale cfg vid = false := by
  unfold Ubr.stale
  split
  · rw [ok.deleted.empty]
    rfl
  · rfl

theorem registered_iff (ok : Tidy cfg s) : s.ubr.registered cfg vid = true ↔
    ∃ r v, ubrVlanFind cfg s.ubr vid = .ok (some r) ∧ s.ubr.heap r = some v ∧ v.vid = vid := by
  rw [UnassumingBridge.registered_iff]
  constructor
  · rintro ⟨r, v, found, live, same⟩
    exact ⟨r, v, found, live.1, same⟩
  · rintro ⟨r, v, found, object, same⟩
    exact ⟨r, v, found, ok.live object, same⟩

theorem registered_of_liveVid (ok : Tidy cfg s) (live : s.ubr.LiveVid vid r) : s.ubr.registered cfg vid = true := by
  have found := (ok.deleted.find_some ok.vlans).mpr live
  rw [registered_eq found, ok.deleted.empty]
  rfl

theorem host_registered (ok : Tidy cfg s) : s.ubr.registered cfg 0 = true := by
  obtain ⟨r, live⟩ := ok.host
  exact ok.registered_of_liveVid live

end Facts

section Step

variable {w : Nat} {s s' : Sys (BitVec w)} {e : Event} {o : Outcome}

/-- Additions succeed once they have a slot. -/
theorem completes (ok : Tidy cfg s) (members : s.KeepsMembers cfg e) {dev : Dev} {env : PortAddEnv} {k : Pidx}
    (adds : e = .portAdd dev env) (begun : s.initSlot dev = some k) : s.completes dev env k = true := by
  subst adds
  rw [members k begun]
  exact ok.host_registered

theorem keepsPvids (ok : Tidy cfg s) (order : s.InOrder cfg e) : s.KeepsPvids cfg e := by
  cases e with
  | portAdd dev env => exact fun k begun => ⟨order.slots k begun, fun _ => ok.stale 0⟩
  | portSet port pvid => exact fun _ => ok.stale pvid
  | _ => trivial

private theorem plain_put (ok : Tidy cfg s) {x : VlanRef} {w : UbrVlan} (live : s.ubr.heap x = some w) (w' : UbrVlan)
    (same : w.Plain → w'.Plain) (r : VlanRef) (v : UbrVlan) (written : (s.ubr.putVlan x w').heap r = some v) :
    v.Plain := by
  rcases putVlan_heap written with ⟨rfl, rfl⟩ | ⟨_, old⟩
  · exact same (ok.plain _ w live)
  · exact ok.plain r v old

private theorem plain_step (ok : Tidy cfg s) {u : Ubr (BitVec w)} (effect : Effect cfg s e u) (r : VlanRef)
    (v : UbrVlan)
    (object : u.heap r = some v) : v.Plain := by
  cases effect with
  | quiet | pvidSet | portDeleted | portCleaned => exact ok.plain r v object
  | @vlanAdded vid _ missing =>
      have added : (s.ubr.addVlan cfg vid).heap r = some v := object
      rcases addVlan_heap_cases added with ⟨_, rfl⟩ | ⟨_, old⟩
      · exact ⟨rfl, rfl, rfl, rfl⟩
      · exact ok.plain r v old
  | @vlanDeleted vid x w found live =>
      exact ok.plain_put live { w with members := .zero } (fun ⟨a, b, c, d⟩ => ⟨a, b, c, d⟩) r v object
  | @attached vid port tagged x w k found live =>
      exact ok.plain_put live (w.attach k (tagged != 0)) (UbrVlan.Plain.attach k _) r v object
  | @detached vid port x w k found live =>
      exact ok.plain_put live (w.detach k) (fun ⟨a, b, c, d⟩ => ⟨a, b, c, d⟩) r v object
  | @portAdded dev env k x w begun whole found live =>
      exact ok.plain_put live (w.attach k false) (UbrVlan.Plain.attach k _) r v object
  | @portAddFailed dev env k x w begun broken found live =>
      exact ok.plain_put live (w.attach k false) (UbrVlan.Plain.attach k _) r v object
  | vlanFreed queued =>
      rw [ok.deleted.empty] at queued
      cases queued

private theorem learning_step (ok : Tidy cfg s) {u : Ubr (BitVec w)} (effect : PortEffect s e u) (k : Pidx)
    (inUse : k ∈ u.busy) : (u.ports k).ingressCb.saLearning = true := by
  cases effect with
  | kept busy _ wiring => exact (wiring k).saLearning.trans (ok.learning k (busy ▸ inUse))
  | @added dev env j r _ begun whole busy _ ports =>
      rw [ports]
      by_cases here : k = j
      · subst here
        rw [Function.update_self]
        rfl
      · rw [Function.update_of_ne here]
        rw [busy] at inUse
        exact ok.learning k ((Bitmap.mem_set.mp inUse).resolve_left here)
  | @addFailed dev env j _ begun broken idle busy _ ports =>
      have other : k ≠ j := fun here => initSlot_idle begun (here ▸ busy ▸ inUse)
      rw [ports, Function.update_of_ne other]
      exact ok.learning k (busy ▸ inUse)
  | @deleted dev j _ slave idle busy _ ports =>
      rw [busy] at inUse
      rw [ports]
      exact ok.learning k (Bitmap.mem_clear.mp inUse).2
  | @cleaned j _ queued busy _ ports =>
      have other : k ≠ j := fun here => ok.ports.pendingIdle j queued (here ▸ busy ▸ inUse)
      rw [ports, Function.update_of_ne other]
      exact ok.learning k (busy ▸ inUse)

private theorem host_step (ok : Tidy cfg s) (safe : s.KeepsVlans cfg e) {u : Ubr (BitVec w)}
    (effect : Effect cfg s e u) : ∃ r, u.LiveVid 0 r := by
  obtain ⟨r, live⟩ := ok.host
  have keeps (notAdd : ∀ vid fails, e ≠ .vlanAdd vid fails) (notDel : ∀ vid, e ≠ .vlanDel vid) : ∃ r, u.LiveVid 0 r :=
    ⟨r, (liveVid_kept effect notAdd notDel 0 r).mpr live⟩
  cases e with
  | vlanAdd vid fails =>
      cases effect with
      | quiet => exact ⟨r, live⟩
      | vlanAdded missing =>
          have other : (0 : Vid) ≠ vid := by
            rintro rfl
            exact not_liveVid_of_find_none ok.vlans missing live
          exact ⟨r, (liveVid_register ok.vlans missing 0).mpr (by rwa [if_neg other])⟩
  | vlanDel vid =>
      cases effect with
      | quiet => exact ⟨r, live⟩
      | vlanDeleted found object same fresh =>
          have gone : s.ubr.registered cfg vid = false := safe
          rw [registered_eq found] at gone
          exact absurd fresh (by simpa using gone)
  | _ => exact keeps nofun nofun

theorem step (ok : Tidy cfg s) (enabled : s.Enabled e) (order : s.InOrder cfg e)
    (done : s.exec cfg e = .ok (s', o)) : Tidy cfg s' := by
  have effect := exec_effect enabled done
  exact {
    vlans := ok.vlans.step effect
    deleted := ok.deleted.step order.vlans effect
    ports := ok.ports.step order.slots effect.ports
    slots := SlotOk.step ok.slots effect.ports
    slaves := ok.slaves.step enabled done
    members := ok.members.step order.members ok.vlans effect
    pvids := fun k inUse =>
      Coherent.step ok.vlans ok.pvids (ok.keepsPvids order) (effect.slot ok.ports order.slots inUse)
    host := ok.host_step order.vlans effect
    plain := ok.plain_step effect
    learning := ok.learning_step effect.ports }

theorem init (start : s.Init cfg) : Tidy cfg s := by
  have run : Run (bridge (BitVec w) cfg) (fun _ _ => True) [] s := .init start
  obtain ⟨dev, devAddr, same⟩ := init_ubr start
  have deleted : NoneDeleted s.ubr := same ▸ .fresh dev devAddr
  have vlans := vlansOk_of_reachable run.reachable
  refine ⟨vlans, deleted, .init start, slotOk_of_reachable run.reachable, .of_reachable run.reachable,
    same ▸ .fresh dev devAddr, ?_, ?_, ?_, ?_⟩
  · intro k inUse
    rw [same, fresh_busy] at inUse
    rw [same, fresh_port, if_pos inUse]
    exact .init (.fresh dev devAddr) (fresh_find dev devAddr) (fresh_stale dev devAddr) 0 dev
  · exact ⟨0, (deleted.find_some vlans).mp (same ▸ fresh_find dev devAddr)⟩
  · intro r v object
    rw [same] at object
    rcases putVlan_heap object with ⟨_, rfl⟩ | ⟨_, old⟩
    · exact ⟨rfl, rfl, rfl, rfl⟩
    · have added : ((zeroedUbr dev devAddr : Ubr (BitVec w)).addVlan cfg 0).heap r = some v := old
      rcases addVlan_heap_cases added with ⟨_, rfl⟩ | ⟨_, empty⟩
      · exact ⟨rfl, rfl, rfl, rfl⟩
      · cases empty
  · intro k inUse
    rw [same, fresh_busy] at inUse
    rw [same, fresh_port, if_pos inUse]
    rfl

theorem of_run {tr : History (BitVec w)} (run : Run (bridge (BitVec w) cfg) (Sys.InOrder cfg) tr s) : Tidy cfg s :=
  run.invariant (I := fun _ s => Tidy cfg s) (fun _ => Tidy.init)
    fun _ _ _ _ _ _ ok enabled order done => ok.step enabled order done

end Step
end Tidy
end UnassumingBridge
