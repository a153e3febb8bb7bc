import UnassumingBridge.Support.Rcu
import UnassumingBridge.Effects.Grace
import UnassumingBridge.Invariants.Membership
import UnassumingBridge.DataPath.Transit

/-! # Grace periods protect frames in flight

A frame in flight holds a pointer to its VLAN and the indices of the ports that it has
still to come to. The callbacks that release both wait for the frames that were in flight
when they were queued, and that is enough as long as no frame enters a VLAN that was
deleted, ports leave their VLANs before they go, and no slot is taken again too early.
-/

namespace UnassumingBridge

open Support
open Support.Rcu

variable {τ : Type} {cfg : Config}

/-- A port is not released while a command is about to make it a member of a VLAN. -/
def Transit.KeepsJoining (s : Transit τ) : Event → Prop
  | .portDel dev => ∀ k ∈ s.sys.slotOf dev, ∀ w ∈ s.writes, w.joins ≠ some k
  | _ => True

/-- The VLAN that the ingress stage finds for the frame was not deleted. -/
def Ubr.EntersLive (cfg : Config) (s : Ubr τ) (env : FrameEnv) (skb : Skb) : Prop :=
  ∀ out ∈ (ubrVlanIngress cfg s env skb).toOption, ∀ copy ∈ out.2, ∀ r ∈ copy.cb.vlan, r ∉ s.vlanRcu

def Grace.Careful (cfg : Config) (s : Grace τ) : TransitEvent → Prop
  | .around e => s.transit.sys.KeepsMembers cfg e ∧ s.transit.sys.AddsOntoIdle e ∧ s.transit.KeepsJoining e
  | .rx dev skb env => ∀ k ∈ s.transit.sys.slotOf dev,
      s.ubr.EntersLive cfg env { skb with cb := (s.ubr.ports k).ingressCb }
  | .xmit skb env => s.ubr.EntersLive cfg env { skb with cb := (s.ubr.ports 0).ingressCb }
  | .attach .. | .detach .. | .write | .egress .. => True

instance (s : Transit τ) : (e : Event) → Decidable (s.KeepsJoining e)
  | .portDel dev => inferInstanceAs (Decidable (∀ k ∈ s.sys.slotOf dev, ∀ w ∈ s.writes, w.joins ≠ some k))
  | .rx .. | .xmit .. | .age .. | .tick .. | .portAdd .. | .portCleanup .. | .vlanAdd .. | .vlanDel ..
  | .vlanFree .. | .vlanAttach .. | .vlanDetach .. | .portSet .. | .devChange .. => .isTrue trivial

instance (s : Ubr τ) (env : FrameEnv) (skb : Skb) : Decidable (s.EntersLive cfg env skb) :=
  inferInstanceAs (Decidable (∀ out ∈ (ubrVlanIngress cfg s env skb).toOption, ∀ copy ∈ out.2,
    ∀ r ∈ copy.cb.vlan, r ∉ s.vlanRcu))

instance (s : Grace τ) : (e : TransitEvent) → Decidable (s.Careful cfg e)
  | .around e => inferInstanceAs (Decidable (s.transit.sys.KeepsMembers cfg e ∧ s.transit.sys.AddsOntoIdle e ∧
      s.transit.KeepsJoining e))
  | .rx dev skb env => inferInstanceAs (Decidable (∀ k ∈ s.transit.sys.slotOf dev,
      s.ubr.EntersLive cfg env { skb with cb := (s.ubr.ports k).ingressCb }))
  | .xmit skb env => inferInstanceAs (Decidable (s.ubr.EntersLive cfg env { skb with cb := (s.ubr.ports 0).ingressCb }))
  | .attach .. | .detach .. | .write | .egress .. => .isTrue trivial

/-- Members of VLANs that were not deleted are ports. -/
def Ubr.MembersBusy (s : Ubr τ) : Prop := ∀ r v, s.Live r v → ∀ k ∈ v.members, k ∈ s.busy

namespace Ubr.MembersBusy

theorem put {s : Ubr τ} {r : VlanRef} {v w : UbrVlan} (ok : s.MembersBusy) (live : s.heap r = some v)
    (busy : s.Live r v → ∀ k ∈ w.members, k ∈ s.busy) : (s.putVlan r w).MembersBusy := by
  intro x u stays
  rcases live_putVlan live stays with ⟨rfl, rfl, before⟩ | ⟨_, before⟩
  · exact busy before
  · exact ok x u before

theorem attach {s : Ubr τ} {r : VlanRef} {v : UbrVlan} {k : Pidx} (ok : s.MembersBusy) (live : s.heap r = some v)
    (inUse : k ∈ s.busy) (tagged : Bool) : (s.putVlan r (v.attach k tagged)).MembersBusy := by
  refine ok.put live fun before j member => ?_
  rcases Bitmap.mem_set.mp member with rfl | old
  · exact inUse
  · exact ok r v before j old

theorem step {s : Sys τ} {e : Event} {u : Ubr τ} (ok : s.ubr.MembersBusy) (safe : s.KeepsMembers cfg e)
    (vlans : VlansOk cfg s.ubr) (effect : Effect cfg s e u) : u.MembersBusy := by
  cases effect with
  | quiet | pvidSet | portCleaned => exact ok
  | vlanAdded missing =>
      intro x u live
      rcases live_addVlan (show (s.ubr.addVlan cfg _).Live x u from live) with ⟨_, rfl⟩ | old
      · exact fun j member => absurd member (Bitmap.mem_zero j)
      · exact ok x u old
  | vlanDeleted found live same fresh => exact fun x u left => ok x u (live_dropVlan.mp left).2
  | vlanFreed queued => exact fun x u left => ok x u ((live_freed queued).mp left)
  | attached found live same slot => exact ok.attach live (ubrPortFind_ok slot).1 _
  | detached found live same slot =>
      exact ok.put live fun before j member => ok _ _ before j (Bitmap.mem_clear.mp member).2
  | @portAdded dev env k r v begun whole found live =>
      have grown : Ubr.MembersBusy { s.ubr with busy := s.ubr.busy.set k } :=
        fun r v live j member => Bitmap.mem_set.mpr (.inr (ok r v live j member))
      have joined : Ubr.MembersBusy ({ s.ubr with busy := s.ubr.busy.set k }.putVlan r (v.attach k false)) :=
        grown.attach live (Bitmap.mem_set.mpr (.inl rfl)) false
      exact joined
  | @portAddFailed dev env k r v begun broken found live idle =>
      -- the VLAN 0 that the slot was put into is a deleted one
      have gone : s.ubr.registered cfg 0 = false := (safe k begun).symm.trans broken
      rw [registered_eq found] at gone
      intro x u left j member
      have before : s.ubr.Live x u := by
        rcases live_putVlan live left with ⟨_, _, alive⟩ | ⟨_, alive⟩
        · exact absurd alive.2 (by simpa using gone)
        · exact alive
      have inUse := ok x u before j member
      have other : j ≠ k := fun here => initSlot_idle begun (here ▸ inUse)
      exact Bitmap.mem_clear.mpr ⟨other, Bitmap.mem_set.mpr (.inr inUse)⟩
  | @portDeleted dev k slave owned idle =>
      intro x u left j member
      have other : j ≠ k := by
        intro here
        exact safe k slave x (vlans.bounded x u left.1) u left.1 left.2 (here ▸ member)
      exact Bitmap.mem_clear.mpr ⟨other, ok x u left j member⟩

end Ubr.MembersBusy

/-- A VLAN that was deleted and is not freed yet. -/
def Ubr.Retired (s : Ubr τ) (r : VlanRef) : Prop := (∃ v, s.heap r = some v) ∧ r ∈ s.vlanRcu

section Release

variable {s : Sys τ} {e : Event} {u : Ubr τ} {r : VlanRef} {v : UbrVlan}

theorem Effect.object (effect : Effect cfg s e u) (vlans : VlansOk cfg s.ubr) (there : s.ubr.heap r = some v)
    (stays : e ≠ .vlanFree r) : ∃ w, u.heap r = some w := by
  have put {x : VlanRef} {w : UbrVlan} : ∃ v', (s.ubr.putVlan x w).heap r = some v' := by
    by_cases here : r = x
    · exact ⟨w, by simp [Ubr.putVlan, here]⟩
    · exact ⟨v, by simpa [Ubr.putVlan, here] using there⟩
  cases effect with
  | quiet | pvidSet | portDeleted | portCleaned => exact ⟨v, there⟩
  | vlanAdded missing =>
      have old : r ≠ s.ubr.nextVlan := Nat.ne_of_lt (vlans.bounded r v there)
      exact ⟨v, by simpa [Ubr.register, Ubr.cachePvid, Ubr.addVlan, old] using there⟩
  | vlanDeleted | attached | detached | portAdded | portAddFailed => exact put
  | @vlanFreed x queued =>
      have other : r ≠ x := fun here => stays (here ▸ rfl)
      exact ⟨v, by simpa [ubrVlanDelRcu, other] using there⟩

theorem Effect.stillQueued (effect : Effect cfg s e u) (queued : r ∈ s.ubr.vlanRcu) (stays : e ≠ .vlanFree r) :
    r ∈ u.vlanRcu := by
  cases effect with
  | vlanDeleted => exact List.mem_append_left _ queued
  | vlanFreed =>
      refine (List.mem_erase_of_ne ?_).mpr queued
      exact fun here => stays (here ▸ rfl)
  | _ => exact queued

end Release

/-- What a frame in flight relies on. -/
structure Covered (u : Ubr τ) (f : Copying) (w : Reader) : Prop where
  pointer : ∃ r, f.skb.cb.vlan = some r
  vlan : Covers (fun r => ∃ v, u.Live r v) u.Retired (fun r => f.skb.cb.vlan = some r) (· ∈ w.vlans)
  ports : Covers (· ∈ u.busy) (· ∈ u.portRcu) (· ∈ f.todo) (· ∈ w.ports)
  devs : ∀ q ∈ f.todo, (u.ports q).dev = w.devs q ∧ (w.devs q).isSome
  clones : ∀ q ∈ f.todo.dropLast, q ≠ 0

namespace Covered

variable {s : Sys τ} {e : Event} {u : Ubr τ} {f : Copying} {w : Reader}

theorem mem_behind_vlans {s u : Ubr τ} {r : VlanRef} :
    r ∈ (w.behind s u).vlans ↔ r ∈ w.vlans ∨ (r ∈ u.vlanRcu ∧ r ∉ s.vlanRcu) := by
  simp [Reader.behind]

theorem mem_behind_ports {s u : Ubr τ} {k : Pidx} :
    k ∈ (w.behind s u).ports ↔ k ∈ w.ports ∨ (k ∈ u.portRcu ∧ k ∉ s.portRcu) := by
  simp [Reader.behind]

/-- A deleted VLAN is queued behind the frame; a callback that runs does not concern it. -/
theorem vlan_step (ok : Covered s.ubr f w) (vlans : VlansOk cfg s.ubr) (enabled : s.Enabled e)
    (effect : Effect cfg s e u) (elapsed : ∀ r, e = .vlanFree r → r ∉ w.vlans) :
    Covers (fun r => ∃ v, u.Live r v) u.Retired (fun r => f.skb.cb.vlan = some r) (· ∈ (w.behind s.ubr u).vlans) := by
  apply ok.vlan.keep
  · rintro r ⟨v, there, unqueued⟩
    have stays : e ≠ .vlanFree r := by
      rintro rfl
      exact unqueued enabled
    obtain ⟨v', there'⟩ := effect.object vlans there stays
    by_cases now : r ∈ u.vlanRcu
    · exact .inr ⟨⟨⟨v', there'⟩, now⟩, mem_behind_vlans.mpr (.inr ⟨now, unqueued⟩)⟩
    · exact .inl ⟨v', there', now⟩
  · rintro r ⟨⟨v, there⟩, queued⟩ behind
    have stays : e ≠ .vlanFree r := fun freed => elapsed r freed behind
    obtain ⟨v', there'⟩ := effect.object vlans there stays
    exact .inr ⟨⟨⟨v', there'⟩, effect.stillQueued queued stays⟩, mem_behind_vlans.mpr (.inl behind)⟩

theorem ports_step (ok : Covered s.ubr f w) (effect : PortEffect s e u)
    (elapsed : ∀ k, e = .portCleanup k → k ∉ w.ports) :
    Covers (· ∈ u.busy) (· ∈ u.portRcu) (· ∈ f.todo) (· ∈ (w.behind s.ubr u).ports) := by
  have waits {k : Pidx} (behind : k ∈ w.ports) : k ∈ (w.behind s.ubr u).ports := mem_behind_ports.mpr (.inl behind)
  cases effect with
  | kept busy rcu | addFailed _ _ _ busy rcu =>
      apply ok.ports.keep
      · exact fun k inUse => .inl (busy ▸ inUse)
      · exact fun k queued behind => .inr ⟨rcu ▸ queued, waits behind⟩
  | added _ _ busy rcu =>
      apply ok.ports.keep
      · exact fun k inUse => .inl (busy ▸ Bitmap.mem_set.mpr (.inr inUse))
      · exact fun k queued behind => .inr ⟨rcu ▸ queued, waits behind⟩
  | @deleted dev k _ slave idle busy rcu =>
      apply ok.ports.keep
      · intro j inUse
        by_cases here : j = k
        · subst here
          have now : j ∈ u.portRcu := by
            rw [rcu]
            exact List.mem_append_right _ (List.mem_singleton_self j)
          exact .inr ⟨now, mem_behind_ports.mpr (.inr ⟨now, idle⟩)⟩
        · exact .inl (busy ▸ Bitmap.mem_clear.mpr ⟨here, inUse⟩)
      · exact fun j queued behind => .inr ⟨rcu ▸ List.mem_append_left _ queued, waits behind⟩
  | @cleaned k _ queued busy rcu =>
      apply ok.ports.keep
      · exact fun j inUse => .inl (busy ▸ inUse)
      · intro j queued behind
        have other : j ≠ k := fun here => elapsed k rfl (here ▸ behind)
        exact .inr ⟨rcu ▸ (List.mem_erase_of_ne other).mpr queued, waits behind⟩

theorem devs_step (ok : Covered s.ubr f w) (ports : PortsOk s) (safe : s.AddsOntoIdle e) (effect : PortEffect s e u)
    (elapsed : ∀ k, e = .portCleanup k → k ∉ w.ports) {q : Pidx} (todo : q ∈ f.todo) :
    (u.ports q).dev = (s.ubr.ports q).dev := by
  have fresh {k : Pidx} (unused : k ∉ s.ubr.busy) (idle : k ∉ s.ubr.portRcu) : q ≠ k := by
    rintro rfl
    exact ok.ports.unused unused (fun behind => idle behind.1) todo
  cases effect with
  | kept _ _ wiring => exact (wiring q).dev
  | added begun _ _ _ ports => rw [ports, Function.update_of_ne (fresh (initSlot_idle begun) (safe _ begun))]
  | addFailed begun _ idle _ _ ports => rw [ports, Function.update_of_ne (fresh (initSlot_idle begun) idle)]
  | deleted _ _ _ _ same => rw [same]
  | @cleaned k _ queued _ _ same =>
      have other : q ≠ k := by
        rintro rfl
        exact ok.ports.unused (ports.pendingIdle q queued) (fun behind => elapsed q rfl behind.2) todo
      rw [same, Function.update_of_ne other]

theorem step (ok : Covered s.ubr f w) (vlans : VlansOk cfg s.ubr) (ports : PortsOk s) (safe : s.AddsOntoIdle e)
    (enabled : s.Enabled e) (effect : Effect cfg s e u) (freed : ∀ r, e = .vlanFree r → r ∉ w.vlans)
    (cleaned : ∀ k, e = .portCleanup k → k ∉ w.ports) : Covered u f (w.behind s.ubr u) where
  pointer := ok.pointer
  vlan := ok.vlan_step vlans enabled effect freed
  ports := ok.ports_step effect.ports cleaned
  devs q todo := by
    rw [ok.devs_step ports safe effect.ports cleaned todo]
    exact ok.devs q todo
  clones := ok.clones

theorem put {u : Ubr τ} (ok : Covered u f w) (r : VlanRef) (v' : UbrVlan) :
    Covered (u.putVlan r v') f w := by
  have object (x : VlanRef) (old : ∃ v, u.heap x = some v) : ∃ v, (u.putVlan r v').heap x = some v := by
    by_cases here : x = r
    · exact ⟨v', by simp [Ubr.putVlan, here]⟩
    · simpa [Ubr.putVlan, here] using old
  refine ⟨ok.pointer, ?_, ok.ports, ok.devs, ok.clones⟩
  apply ok.vlan.keep
  · rintro x ⟨w, live⟩
    obtain ⟨w', left⟩ := object x ⟨w, live.1⟩
    exact .inl ⟨w', left, live.2⟩
  · rintro x ⟨old, queued⟩ behind
    exact .inr ⟨⟨object x old, queued⟩, behind⟩

theorem fewer {u : Ubr τ} {p : Pidx} {rest : List Pidx} (ok : Covered u f w) (todo : f.todo = p :: rest) :
    Covered u { f with todo := rest } w := by
  have less : ∀ q ∈ rest, q ∈ f.todo := by
    intro q inside
    rw [todo]
    exact List.mem_cons_of_mem p inside
  refine ⟨ok.pointer, ok.vlan, ok.ports.fewer less, fun q inside => ok.devs q (less q inside), fun q inside => ?_⟩
  have more : rest ≠ [] := fun nobody => by simp [nobody] at inside
  exact ok.clones q (by rw [todo, List.dropLast_cons_of_ne_nil more]; exact List.mem_cons_of_mem p inside)

end Covered

/-- What holds of a bridge with frames in flight: the tables are in order, and every frame is
    covered against the callbacks that run before it is through. -/
structure Graceful (cfg : Config) (s : Grace τ) : Prop where
  vlans : VlansOk cfg s.ubr
  ports : PortsOk s.transit.sys
  members : s.ubr.MembersBusy
  joins : ∀ w ∈ s.transit.writes, ∀ k ∈ w.joins, k ∈ s.ubr.busy
  readers : List.Forall₂ (Covered s.ubr) s.transit.flight s.readers

namespace Graceful

variable {s s' : Grace τ} {e : TransitEvent}

private theorem joins_step {sys : Sys τ} {e : Event} (ok : Graceful cfg s) (safe : s.transit.KeepsJoining e)
    (effect : PortEffect s.transit.sys e sys.ubr) :
    ∀ w ∈ s.transit.writes, ∀ k ∈ w.joins, k ∈ sys.ubr.busy := by
  intro w pending k joins
  have inUse := ok.joins w pending k joins
  cases effect with
  | kept busy | addFailed _ _ _ busy | cleaned _ busy => exact busy ▸ inUse
  | added _ _ busy => exact busy ▸ Bitmap.mem_set.mpr (.inr inUse)
  | deleted slave _ busy =>
      refine busy ▸ Bitmap.mem_clear.mpr ⟨?_, inUse⟩
      rintro rfl
      exact safe _ slave w pending joins

private theorem around {sys : Sys τ} {e : Event} (ok : Graceful cfg s) (enabled : s.Enabled (.around e))
    (careful : s.Careful cfg (.around e)) (effect : Effect cfg s.transit.sys e sys.ubr) :
    Graceful cfg (⟨{ s.transit with sys }, s.readers.map (Reader.behind · s.ubr sys.ubr)⟩ : Grace τ) := by
  obtain ⟨members, slots, joining⟩ := careful
  have ports : PortsOk sys := ok.ports.step slots effect.ports
  refine ⟨ok.vlans.step effect, ports, ok.members.step members ok.vlans effect, ok.joins_step joining effect.ports, ?_⟩
  refine forall₂_around ok.readers _ fun f w reader covered => ?_
  refine covered.step ok.vlans ok.ports slots enabled.1.1 effect ?_ ?_
  · rintro r rfl
    exact enabled.2 w reader
  · rintro k rfl
    exact enabled.2 w reader

private theorem wrote {w : BitWrite} {rest : List BitWrite} {v : UbrVlan} (ok : Graceful cfg s)
    (pending : s.transit.writes = w :: rest) (live : s.ubr.heap w.vlan = some v) :
    Graceful cfg { s with transit.sys.ubr := s.ubr.putVlan w.vlan (w.on v), transit.writes := rest } where
  vlans := ok.vlans.put live (BitWrite.on_vid w v)
  ports := ⟨ok.ports.pendingIdle, ok.ports.pendingOnce, ok.ports.clean, ok.ports.served⟩
  members := by
    refine ok.members.put live fun before k inside => ?_
    rcases BitWrite.mem_on inside with joins | old
    · exact ok.joins w (pending ▸ List.mem_cons_self) k joins
    · exact ok.members _ v before k old
  joins w' later := ok.joins w' (pending ▸ List.mem_cons_of_mem w later)
  readers := ok.readers.imp fun f reader covered => covered.put w.vlan (w.on v)

private theorem learned (ok : Graceful cfg s) (fdb : UbrFdb τ) :
    Graceful cfg { s with transit.sys.ubr.fdb := fdb } where
  vlans := ⟨ok.vlans.hashed, ok.vlans.unique, ok.vlans.bounded, ok.vlans.queued⟩
  ports := ⟨ok.ports.pendingIdle, ok.ports.pendingOnce, ok.ports.clean, ok.ports.served⟩
  members := ok.members
  joins := ok.joins
  readers :=
    ok.readers.imp fun _ _ covered => ⟨covered.pointer, covered.vlan, covered.ports, covered.devs, covered.clones⟩

/-- A frame that comes into flight uses nothing but a live VLAN and its ports. -/
private theorem covers_entered {skb : Skb} (ok : Graceful cfg s) (classified : skb.Classified s.ubr)
    (live : ∀ r, skb.cb.vlan = some r → r ∉ s.ubr.vlanRcu) :
    Covered s.ubr ⟨skb, deliveryOrder skb.cb.vec⟩ { devs := fun k => (s.ubr.ports k).dev } := by
  obtain ⟨r, v, pointer, there, members⟩ := classified
  have alive : s.ubr.Live r v := ⟨there, live r pointer⟩
  have busy (q : Pidx) (todo : q ∈ deliveryOrder skb.cb.vec) : q ∈ s.ubr.busy :=
    ok.members r v alive q (members q (mem_deliveryOrder todo))
  refine ⟨⟨r, pointer⟩, .enter fun x used => ?_, .enter busy,
    fun q todo => ⟨rfl, ok.ports.served q (busy q todo)⟩, fun q => ne_zero_of_cloned⟩
  cases pointer.symm.trans used
  exact ⟨v, alive⟩

theorem step (ok : Graceful cfg s) (enabled : s.Enabled e) (careful : s.Careful cfg e) (onward : Onward cfg s e s') :
    Graceful cfg s' := by
  cases onward with
  | around effect => exact ok.around enabled careful effect
  | began joins => exact ⟨ok.vlans, ok.ports, ok.members, joins, ok.readers⟩
  | wrote pending live => exact ok.wrote pending live
  | stopped fdb => exact ok.learned fdb
  | @entered _ env skb copy arrived allow fdb arrives passed vlan classified =>
      have live (r : VlanRef) (pointer : skb.cb.vlan = some r) : r ∉ s.ubr.vlanRcu := by
        have enters : s.ubr.EntersLive cfg env arrived := by
          cases arrives with
          | rx slot => exact careful _ slot
          | xmit => exact careful
        exact enters (allow, some copy) (by rw [passed]; rfl) copy rfl r (vlan ▸ pointer)
      have here := ok.learned fdb
      refine ⟨here.vlans, here.ports, here.members, here.joins, forall₂_enter here.readers ?_⟩
      have covered := ok.covers_entered classified live
      exact ⟨covered.pointer, covered.vlan, covered.ports, covered.devs, covered.clones⟩
  | left => exact ⟨ok.vlans, ok.ports, ok.members, ok.joins, forall₂_leave ok.readers _⟩
  | moved here todo =>
      exact ⟨ok.vlans, ok.ports, ok.members, ok.joins,
        forall₂_advance ok.readers here fun _ covered => covered.fewer todo⟩

theorem init (start : s.transit.sys.Init cfg ∧ s.transit.writes = [] ∧ s.transit.flight = []) (alone : s.readers = []) :
    Graceful cfg s := by
  obtain ⟨init, writes, flight⟩ := start
  obtain ⟨dev, devAddr, fresh⟩ := init_ubr init
  have fresh : s.ubr = freshUbr cfg dev devAddr := fresh
  refine ⟨?_, .init init, ?_, ?_, ?_⟩
  · rw [fresh]
    exact .fresh dev devAddr
  · rw [fresh]
    exact (MembersOk.fresh dev devAddr).busy
  · rw [writes]
    exact fun w pending => absurd pending List.not_mem_nil
  · rw [flight, alone]
    exact .nil

theorem of_run [Jiffies τ] {tr : List (Transition (Grace τ) TransitEvent Outcome)} {s : Grace τ}
    (run : Run (grace τ cfg) (Grace.Careful cfg) tr s) : Graceful cfg s := by
  refine run.invariant (I := fun _ s => Graceful cfg s) ?_ ?_
  · rintro s ⟨start, alone⟩
    exact .init start alone
  · exact fun _ _ _ _ _ _ ok enabled careful done => ok.step enabled careful (exec_onward enabled done)

end Graceful

section Copies

variable {u : Ubr τ} {f : Copying} {w : Reader} {env : FrameEnv}

theorem Covered.object (ok : Covered u f w) : ∃ r v, f.skb.cb.vlan = some r ∧ u.heap r = some v := by
  obtain ⟨r, pointer⟩ := ok.pointer
  rcases ok.vlan r pointer with ⟨v, live⟩ | ⟨⟨⟨v, there⟩, _⟩, _⟩
  · exact ⟨r, v, pointer, live.1⟩
  · exact ⟨r, v, pointer, there⟩

end Copies

variable [Jiffies τ]

end UnassumingBridge
