import UnassumingBridge.Effects.Fresh

/-! # The port table

Three things make up the table: the busy bits, the slots, and the slots whose
cleanup is still queued. `PortEffect` is what an event does to them. As long as
`ubr_port_add` takes no slot with a queued cleanup, `PortsOk` holds.
-/

namespace UnassumingBridge

open Support

variable {τ : Type} {cfg : Config}

/-- The parts of a slot that only `ubr_port_init` and the cleanup write. -/
structure SameWiring (p q : UbrPort) : Prop where
  dev : q.dev = p.dev
  pidx : q.ingressCb.pidx = p.ingressCb.pidx
  saLearning : q.ingressCb.saLearning = p.ingressCb.saLearning
  ctrl : q.ingressCb.ctrl = p.ingressCb.ctrl
  vec : q.ingressCb.vec = p.ingressCb.vec

theorem SameWiring.refl (p : UbrPort) : SameWiring p p := ⟨rfl, rfl, rfl, rfl, rfl⟩

/-- What an executed event can have done to the slots. -/
inductive PortEffect (s : Sys τ) : Event → Ubr τ → Prop where
  | kept {e u} (busy : u.busy = s.ubr.busy) (rcu : u.portRcu = s.ubr.portRcu)
      (wiring : ∀ k, SameWiring (s.ubr.ports k) (u.ports k))
      (unused : ∀ k, k ∉ s.ubr.busy → u.ports k = s.ubr.ports k) : PortEffect s e u
  | added {dev env k r u} (begun : s.initSlot dev = some k) (whole : s.completes dev env k = true)
      (busy : u.busy = s.ubr.busy.set k) (rcu : u.portRcu = s.ubr.portRcu)
      (ports : u.ports = Function.update s.ubr.ports k ((s.ubr.ports k).init k dev (some r))) :
      PortEffect s (.portAdd dev env) u
  | addFailed {dev env k u} (begun : s.initSlot dev = some k) (broken : s.completes dev env k = false)
      (idle : k ∉ s.ubr.portRcu) (busy : u.busy = s.ubr.busy) (rcu : u.portRcu = s.ubr.portRcu)
      (ports : u.ports = Function.update s.ubr.ports k {}) : PortEffect s (.portAdd dev env) u
  | deleted {dev k u} (slave : s.slotOf dev = some k) (idle : k ∉ s.ubr.portRcu)
      (busy : u.busy = s.ubr.busy.clear k) (rcu : u.portRcu = s.ubr.portRcu ++ [k])
      (ports : u.ports = s.ubr.ports) : PortEffect s (.portDel dev) u
  | cleaned {k u} (queued : k ∈ s.ubr.portRcu) (busy : u.busy = s.ubr.busy)
      (rcu : u.portRcu = s.ubr.portRcu.erase k) (ports : u.ports = Function.update s.ubr.ports k {}) :
      PortEffect s (.portCleanup k) u

theorem initSlot_idle {s : Sys τ} {dev : Dev} {k : Pidx} (begun : s.initSlot dev = some k) :
    k ∉ s.ubr.busy :=
  Bitmap.notMem_of_findFirstZero (initSlot_some.mp begun).2

private theorem cachePvid_wiring (s : Ubr τ) (vid : Vid) (vlan : Option VlanRef) (k : Pidx) :
    SameWiring (s.ports k) ((s.cachePvid vid vlan).ports k) := by
  simp only [Ubr.cachePvid]
  split
  · exact ⟨rfl, rfl, rfl, rfl, rfl⟩
  · exact .refl _

private theorem cachePvid_unused (s : Ubr τ) (vid : Vid) (vlan : Option VlanRef) (k : Pidx)
    (unused : k ∉ s.busy) : (s.cachePvid vid vlan).ports k = s.ports k := by
  simp [Ubr.cachePvid, unused]

theorem Effect.ports {s : Sys τ} {e : Event} {u : Ubr τ} (effect : Effect cfg s e u) :
    PortEffect s e u := by
  cases effect with
  | quiet | vlanFreed | attached | detached =>
      exact .kept rfl rfl (fun k => .refl _) (fun k _ => rfl)
  | @vlanAdded vid _ missing =>
      refine .kept rfl rfl (fun k => ?_) (fun k unused => ?_)
      · exact cachePvid_wiring (s.ubr.addVlan cfg vid) vid _ k
      · exact cachePvid_unused (s.ubr.addVlan cfg vid) vid _ k unused
  | @vlanDeleted vid r v found live same fresh =>
      refine .kept rfl rfl (fun k => ?_) (fun k unused => ?_)
      · exact cachePvid_wiring s.ubr v.vid none k
      · exact cachePvid_unused s.ubr v.vid none k unused
  | @pvidSet port pvid k vlan slot found =>
      have inUse := (ubrPortFind_ok slot).1
      refine .kept rfl rfl (fun j => ?_) (fun j unused => ?_)
      · by_cases here : j = k
        · subst here
          rw [Ubr.putPort_self]
          exact ⟨rfl, rfl, rfl, rfl, rfl⟩
        · rw [Ubr.putPort_other _ _ here]
          exact .refl _
      · exact Ubr.putPort_other _ _ fun here => unused (here ▸ inUse)
  | portAdded begun whole found live => exact .added begun whole rfl rfl rfl
  | @portAddFailed dev env k r v begun broken found live idle =>
      refine .addFailed begun broken idle ?_ rfl ?_
      · have free := initSlot_idle begun
        apply Bitmap.ext_mem
        intro j
        simp only [Ubr.unplug, Ubr.putPort, Ubr.plug, Bitmap.mem_clear, Bitmap.mem_set]
        by_cases here : j = k
        · simp [here, free]
        · simp [here]
      · simp [Ubr.unplug, Ubr.putPort, Ubr.plug, Ubr.putVlan]
  | portDeleted slave owned idle => exact .deleted slave idle rfl rfl rfl
  | portCleaned queued once => exact .cleaned queued rfl rfl rfl

/-- What a slot with a device looks like, busy or not. -/
structure SlotOk (k : Pidx) (p : UbrPort) : Prop where
  ctrl : p.ingressCb.ctrl = false
  pidx : p.dev.isSome → p.ingressCb.pidx = k
  vec : p.dev.isSome → p.ingressCb.vec = Bitmap.fill.clear k
  empty : p.dev = none → p.ingressCb.pidx = 0

namespace SlotOk

theorem zeroed (k : Pidx) : SlotOk k {} := ⟨rfl, nofun, nofun, fun _ => rfl⟩

theorem init {k : Pidx} {p : UbrPort} (ok : SlotOk k p) (dev : Dev) (vlan : Option VlanRef) :
    SlotOk k (p.init k dev vlan) :=
  ⟨ok.ctrl, fun _ => rfl, fun _ => rfl, nofun⟩

theorem wiring {k : Pidx} {p q : UbrPort} (ok : SlotOk k p) (same : SameWiring p q) : SlotOk k q where
  ctrl := same.ctrl.trans ok.ctrl
  pidx plugged := same.pidx.trans (ok.pidx (same.dev ▸ plugged))
  vec plugged := same.vec.trans (ok.vec (same.dev ▸ plugged))
  empty gone := same.pidx.trans (ok.empty (same.dev ▸ gone))

theorem step {s : Sys τ} {e : Event} {u : Ubr τ} (ok : ∀ k, SlotOk k (s.ubr.ports k))
    (effect : PortEffect s e u) (j : Pidx) : SlotOk j (u.ports j) := by
  have written (k : Pidx) (p : UbrPort) (good : SlotOk k p) :
      SlotOk j (Function.update s.ubr.ports k p j) := by
    by_cases here : j = k
    · subst here
      simpa using good
    · simpa [here] using ok j
  cases effect with
  | kept _ _ wiring _ => exact (ok j).wiring (wiring j)
  | added _ _ _ _ ports => exact ports ▸ written _ _ ((ok _).init _ _)
  | addFailed _ _ _ _ _ ports => exact ports ▸ written _ _ (.zeroed _)
  | deleted _ _ _ _ ports => exact ports ▸ ok j
  | cleaned _ _ _ ports => exact ports ▸ written _ _ (.zeroed _)

end SlotOk

theorem fresh_port (dev : Dev) (devAddr : Mac) (k : Pidx) :
    (freshUbr cfg dev devAddr : Ubr τ).ports k =
      if k = 0 then ({} : UbrPort).init 0 dev (some 0) else {} := by
  by_cases here : k = 0
  · subst here
    simp [freshUbr, linkedUbr, Ubr.plug, Ubr.putPort, Ubr.putVlan, Ubr.addVlan, zeroedUbr]
  · simp [freshUbr, linkedUbr, Ubr.plug, Ubr.putPort, Ubr.putVlan, Ubr.addVlan, zeroedUbr, here]

theorem fresh_busy (dev : Dev) (devAddr : Mac) (k : Pidx) :
    k ∈ (freshUbr cfg dev devAddr : Ubr τ).busy ↔ k = 0 := by
  simp [freshUbr, linkedUbr, Ubr.plug, Ubr.putPort, Ubr.putVlan, Ubr.addVlan, zeroedUbr]

theorem slotOk_of_reachable [Jiffies τ] {s : Sys τ} (reached : Reachable (bridge τ cfg) s) (k : Pidx) :
    SlotOk k (s.ubr.ports k) := by
  refine reached.invariant (I := fun s => ∀ k, SlotOk k (s.ubr.ports k)) ?_ ?_ k
  · intro s init j
    obtain ⟨dev, devAddr, same⟩ := init_ubr init
    rw [same, fresh_port]
    split
    · rename_i here
      subst here
      exact (SlotOk.zeroed 0).init dev (some 0)
    · exact .zeroed j
  · intro s e s' o ok enabled done
    exact SlotOk.step ok (exec_effect enabled done).ports

/-- No addition takes a slot whose cleanup is queued. -/
def Sys.AddsOntoIdle (s : Sys τ) : Event → Prop
  | .portAdd dev _ => ∀ k ∈ s.initSlot dev, k ∉ s.ubr.portRcu
  | _ => True

instance (s : Sys τ) : (e : Event) → Decidable (s.AddsOntoIdle e)
  | .portAdd dev _ => inferInstanceAs (Decidable (∀ k ∈ s.initSlot dev, k ∉ s.ubr.portRcu))
  | .rx .. | .xmit .. | .age .. | .tick .. | .portDel .. | .portCleanup .. | .vlanAdd .. | .vlanDel ..
  | .vlanFree .. | .vlanAttach .. | .vlanDetach .. | .portSet .. | .devChange .. => .isTrue trivial

/-- What devices and busy bits say about each other. -/
structure SlavesOk (s : Sys τ) : Prop where
  host : 0 ∈ s.ubr.busy
  slaves : ∀ dev k, s.slotOf dev = some k → k ∈ s.ubr.busy ∧ k ≠ 0
  apart : ∀ d e k, s.slotOf d = some k → s.slotOf e = some k → d = e

namespace SlavesOk

variable [Jiffies τ] {s s' : Sys τ} {e : Event} {o : Outcome}

/-- A slave stays plugged in, and a device that becomes one is plugged in by that. -/
private theorem slave_busy (ok : SlavesOk s) (enabled : s.Enabled e) (done : s.exec cfg e = .ok (s', o))
    {d : Dev} {k : Pidx} (slave : s'.slotOf d = some k) : k ∈ s'.ubr.busy ∧ k ≠ 0 := by
  rcases exec_slotOf enabled done slave with ⟨old, notDel⟩ | ⟨env, rfl, begun, whole⟩
  · obtain ⟨inUse, notHost⟩ := ok.slaves d k old
    refine ⟨?_, notHost⟩
    cases (exec_effect enabled done).ports with
    | kept busy | addFailed _ _ _ busy | cleaned _ busy => exact busy ▸ inUse
    | added _ _ busy => exact busy ▸ Bitmap.mem_set.mpr (.inr inUse)
    | @deleted dev j _ gone _ busy =>
        have other : k ≠ j := by
          intro same
          subst same
          exact notDel (by rw [ok.apart d dev k old gone])
        exact busy ▸ Bitmap.mem_clear.mpr ⟨other, inUse⟩
  · obtain ⟨r, v, _, _, plugged⟩ := portAdd_plug done begun whole
    refine ⟨?_, fun host => initSlot_idle begun (host ▸ ok.host)⟩
    rw [plugged]
    exact Bitmap.mem_set.mpr (.inl rfl)

omit [Jiffies τ] in
private theorem host_busy (ok : SlavesOk s) {u : Ubr τ} (effect : PortEffect s e u) : 0 ∈ u.busy := by
  cases effect with
  | kept busy | addFailed _ _ _ busy | cleaned _ busy => exact busy ▸ ok.host
  | added _ _ busy => exact busy ▸ Bitmap.mem_set.mpr (.inr ok.host)
  | @deleted dev k _ slave _ busy =>
      exact busy ▸ Bitmap.mem_clear.mpr ⟨(ok.slaves dev k slave).2.symm, ok.host⟩

theorem step (ok : SlavesOk s) (enabled : s.Enabled e) (done : s.exec cfg e = .ok (s', o)) : SlavesOk s' where
  host := ok.host_busy (exec_effect enabled done).ports
  slaves _ _ slave := ok.slave_busy enabled done slave
  apart d d' k first second := by
    rcases exec_slotOf enabled done first with ⟨old, _⟩ | ⟨env, rfl, begun, _⟩
    · rcases exec_slotOf enabled done second with ⟨old', _⟩ | ⟨env, rfl, begun, _⟩
      · exact ok.apart d d' k old old'
      · exact absurd (ok.slaves d k old).1 (initSlot_idle begun)
    · rcases exec_slotOf enabled done second with ⟨old', _⟩ | ⟨env', same, _⟩
      · exact absurd (ok.slaves d' k old').1 (initSlot_idle begun)
      · cases same
        rfl

theorem of_reachable {s : Sys τ} (reached : Reachable (bridge τ cfg) s) : SlavesOk s := by
  refine reached.invariant (I := SlavesOk) ?_ fun _ _ _ _ => SlavesOk.step
  intro s init
  obtain ⟨dev, devAddr, same⟩ := init_ubr init
  have foreign (d : Dev) (k : Pidx) : s.slotOf d ≠ some k := by
    rw [init.2 d]
    exact nofun
  exact ⟨by rw [same, fresh_busy], fun d k slave => absurd slave (foreign d k),
    fun d e k slave => absurd slave (foreign d k)⟩

end SlavesOk

/-- What the busy bits, the queue of cleanups and the slots say about each other. -/
structure PortsOk (s : Sys τ) : Prop where
  pendingIdle : ∀ k ∈ s.ubr.portRcu, k ∉ s.ubr.busy
  pendingOnce : s.ubr.portRcu.Nodup
  clean : ∀ k, k ∉ s.ubr.busy → k ∉ s.ubr.portRcu → s.ubr.ports k = {}
  served : ∀ k ∈ s.ubr.busy, (s.ubr.ports k).dev.isSome

namespace PortsOk

theorem init {s : Sys τ} (init : s.Init cfg) : PortsOk s := by
  obtain ⟨dev, devAddr, same⟩ := init_ubr init
  refine ⟨?_, ?_, ?_, ?_⟩
  · rw [same]
    exact nofun
  · rw [same]
    exact List.nodup_nil
  · intro k unused _
    rw [same, fresh_busy] at unused
    rw [same, fresh_port, if_neg unused]
  · intro k inUse
    rw [same, fresh_busy] at inUse
    rw [same, fresh_port, if_pos inUse]
    rfl

variable {s s' : Sys τ} {e : Event} {o : Outcome}

private theorem table (ok : PortsOk s) (safe : s.AddsOntoIdle e) (effect : PortEffect s e s'.ubr) :
    (∀ k ∈ s'.ubr.portRcu, k ∉ s'.ubr.busy) ∧ s'.ubr.portRcu.Nodup ∧
      (∀ k, k ∉ s'.ubr.busy → k ∉ s'.ubr.portRcu → s'.ubr.ports k = {}) ∧
      ∀ k ∈ s'.ubr.busy, (s'.ubr.ports k).dev.isSome := by
  cases effect with
  | kept busy rcu wiring unused =>
      rw [busy, rcu]
      refine ⟨ok.pendingIdle, ok.pendingOnce, fun k idle gone => ?_, fun k inUse => ?_⟩
      · rw [unused k idle]
        exact ok.clean k idle gone
      · rw [(wiring k).dev]
        exact ok.served k inUse
  | @added dev env k r _ begun whole busy rcu ports =>
      have idle : k ∉ s.ubr.portRcu := safe k begun
      rw [busy, rcu, ports]
      refine ⟨fun j queued inUse => ?_, ok.pendingOnce, fun j unused gone => ?_, fun j inUse => ?_⟩
      · rcases Bitmap.mem_set.mp inUse with rfl | old
        · exact idle queued
        · exact ok.pendingIdle j queued old
      · have other : j ≠ k := fun here => unused (Bitmap.mem_set.mpr (.inl here))
        rw [Function.update_of_ne other]
        exact ok.clean j (fun old => unused (Bitmap.mem_set.mpr (.inr old))) gone
      · rcases Bitmap.mem_set.mp inUse with rfl | old
        · simp [UbrPort.init]
        · have other : j ≠ k := fun here => initSlot_idle begun (here ▸ old)
          rw [Function.update_of_ne other]
          exact ok.served j old
  | @addFailed dev env k _ begun broken idle busy rcu ports =>
      rw [busy, rcu, ports]
      refine ⟨ok.pendingIdle, ok.pendingOnce, fun j unused gone => ?_, fun j inUse => ?_⟩
      · by_cases here : j = k
        · rw [here, Function.update_self]
        · rw [Function.update_of_ne here]
          exact ok.clean j unused gone
      · have other : j ≠ k := fun here => initSlot_idle begun (here ▸ inUse)
        rw [Function.update_of_ne other]
        exact ok.served j inUse
  | @deleted dev k _ slave idle busy rcu ports =>
      rw [busy, rcu, ports]
      refine ⟨fun j queued inUse => ?_, ?_, fun j unused gone => ?_, fun j inUse => ?_⟩
      · obtain ⟨other, old⟩ := Bitmap.mem_clear.mp inUse
        rcases List.mem_append.mp queued with before | now
        · exact ok.pendingIdle j before old
        · exact other (List.mem_singleton.mp now)
      · rw [List.nodup_append]
        refine ⟨ok.pendingOnce, List.nodup_singleton k, fun a before b now => ?_⟩
        cases List.mem_singleton.mp now
        intro same
        exact idle (same ▸ before)
      · have other : j ≠ k := fun here => gone (by simp [here])
        refine ok.clean j (fun old => unused (Bitmap.mem_clear.mpr ⟨other, old⟩)) ?_
        exact fun before => gone (List.mem_append.mpr (.inl before))
      · exact ok.served j (Bitmap.mem_clear.mp inUse).2
  | @cleaned k _ queued busy rcu ports =>
      rw [busy, rcu, ports]
      refine ⟨fun j stays => ok.pendingIdle j (List.mem_of_mem_erase stays),
        ok.pendingOnce.erase k, fun j unused gone => ?_, fun j inUse => ?_⟩
      · by_cases here : j = k
        · rw [here, Function.update_self]
        · rw [Function.update_of_ne here]
          exact ok.clean j unused fun old => gone ((List.mem_erase_of_ne here).mpr old)
      · have other : j ≠ k := fun here => ok.pendingIdle k queued (here ▸ inUse)
        rw [Function.update_of_ne other]
        exact ok.served j inUse

theorem step (ok : PortsOk s) (safe : s.AddsOntoIdle e) (effect : PortEffect s e s'.ubr) : PortsOk s' := by
  obtain ⟨pendingIdle, pendingOnce, clean, served⟩ := ok.table safe effect
  exact ⟨pendingIdle, pendingOnce, clean, served⟩

theorem of_run [Jiffies τ] {C : Sys τ → Event → Prop} (safe : ∀ s e, C s e → s.AddsOntoIdle e)
    {tr : History τ} {s : Sys τ} (run : Run (bridge τ cfg) C tr s) : PortsOk s :=
  run.invariant (I := fun _ s => PortsOk s) (fun _ => PortsOk.init)
    fun _ s e _ _ _ ok enabled guard done => ok.step (safe s e guard) (exec_effect enabled done).ports

end PortsOk

/-- A slot that filters has a device. -/
def Ubr.FiltersPlugged (u : Ubr τ) : Prop :=
  ∀ k, (u.ports k).ingressCb.vlanFiltering = true → (u.ports k).dev.isSome

namespace Ubr.FiltersPlugged

variable {u : Ubr τ} {s : Sys τ} {e : Event}

theorem putPort (ok : u.FiltersPlugged) (k : Pidx) (p : UbrPort)
    (good : p.ingressCb.vlanFiltering = true → p.dev.isSome) : (u.putPort k p).FiltersPlugged := by
  intro j set
  by_cases here : j = k
  · subst here
    rw [Ubr.putPort_self] at set ⊢
    exact good set
  · rw [Ubr.putPort_other _ _ here] at set ⊢
    exact ok j set

theorem cachePvid (ok : u.FiltersPlugged) (vid : Vid) (vlan : Option VlanRef) :
    (u.cachePvid vid vlan).FiltersPlugged := by
  intro j set
  simp only [Ubr.cachePvid] at set ⊢
  split at set
  · rename_i here
    rw [if_pos here]
    exact ok j set
  · rename_i other
    rw [if_neg other]
    exact ok j set

theorem plug (ok : u.FiltersPlugged) (k : Pidx) (dev : Dev) (r : VlanRef) (v : UbrVlan) :
    (u.plug k dev r v).FiltersPlugged :=
  ok.putPort k ((u.ports k).init k dev (some r)) fun _ => rfl

theorem of_effect (ok : s.ubr.FiltersPlugged) (effect : Effect cfg s e u) : u.FiltersPlugged := by
  cases effect with
  | quiet | vlanFreed | attached | detached | portDeleted => exact ok
  | vlanAdded => exact cachePvid (u := s.ubr.addVlan cfg _) ok _ _
  | vlanDeleted => exact cachePvid (u := s.ubr) ok _ _
  | @pvidSet port pvid k vlan slot found =>
      have bound : (s.ubr.ports k).dev = port := (ubrPortFind_ok slot).2
      cases port with
      | none => cases slot
      | some d => exact ok.putPort _ _ fun _ => by simp [UbrPort.setPvid, bound]
  | @portAdded dev env k r v => exact ok.plug k dev r v
  | @portAddFailed dev env k r v =>
      have plugged := ok.plug k dev r v
      exact putPort (u := { s.ubr.plug k dev r v with busy := _ }) plugged _ _ nofun
  | portCleaned => exact putPort (u := s.ubr) ok _ _ nofun

end Ubr.FiltersPlugged

theorem plugged_of_filtering [Jiffies τ] {s : Sys τ} (reached : Reachable (bridge τ cfg) s) {p : Pidx}
    (filtering : (s.ubr.ports p).ingressCb.vlanFiltering = true) : (s.ubr.ports p).dev.isSome := by
  refine reached.invariant (I := fun s => s.ubr.FiltersPlugged) ?_ ?_ p filtering
  · intro s init k set
    obtain ⟨dev, devAddr, same⟩ := init_ubr init
    rw [same, fresh_port] at set
    split at set
    · cases set
    · cases set
  · intro s e s' o ok enabled done
    exact ok.of_effect (exec_effect enabled done)

/-- The device that a step has added at slot `k`. -/
def addedAt (k : Pidx) (t : Transition (Sys τ) Event Outcome) : Option Dev :=
  match t.event with
  | .portAdd dev _ => if t.ret.ret = .ok () ∧ t.pre.initSlot dev = some k then some dev else none
  | _ => none

theorem addedAt_some [Jiffies τ] {s s' : Sys τ} {e : Event} {o : Outcome} {k : Pidx} {dev : Dev}
    (done : s.exec cfg e = .ok (s', o)) :
    addedAt k ⟨s, e, o, s'⟩ = some dev ↔
      ∃ env, e = .portAdd dev env ∧ s.initSlot dev = some k ∧ s.completes dev env k = true := by
  constructor
  · intro added
    cases e with
    | portAdd d env =>
        simp only [addedAt] at added
        split at added
        · rename_i success
          cases added
          obtain ⟨j, begun, whole⟩ := (portAdd_ret done).mp success.1
          cases begun.symm.trans success.2
          exact ⟨env, rfl, begun, whole⟩
        · cases added
    | _ => cases added
  · rintro ⟨env, rfl, begun, whole⟩
    have success := (portAdd_ret done).mpr ⟨k, begun, whole⟩
    simp [addedAt, success, begun]

end UnassumingBridge
