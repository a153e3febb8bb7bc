import UnassumingBridge.Kernel.System
import UnassumingBridge.Effects.Port
import UnassumingBridge.Effects.Forward

/-! # What one event does

`Effect` says once, for every event, which bridges can come out of it and under
which conditions. The invariants of the bridge are proved by cases on it.
-/

namespace UnassumingBridge

open Support

variable {τ : Type} {cfg : Config}

/-- The slot on which `ubr_port_add` will run `ubr_port_init`. -/
def Sys.initSlot (s : Sys τ) (dev : Dev) : Option Pidx :=
  if (ubrPortAddAllowed (s.devs dev)).toBool then s.ubr.busy.findFirstZero else none

/-- None of the kernel calls after `ubr_port_init` fails. -/
def Sys.completes (s : Sys τ) (dev : Dev) (env : PortAddEnv) (k : Pidx) : Bool :=
  (ubrPortEnslave s.ubr.dev k env (s.devs dev)).2.toBool

/-- The events that read and write the forwarding database. -/
def Event.OnFdb : Event → Prop
  | .rx .. | .xmit .. | .age .. => True
  | _ => False

/-- What an executed event can have done to the bridge, with what the code has checked before. -/
inductive Effect (cfg : Config) (s : Sys τ) : Event → Ubr τ → Prop where
  /-- Frames and ageing change the FDB at most, refused commands nothing. -/
  | quiet {e} (fdb : UbrFdb τ) (fdbOnly : e.OnFdb ∨ fdb = s.ubr.fdb) : Effect cfg s e { s.ubr with fdb }
  | vlanAdded {vid zallocFails} (missing : ubrVlanFind cfg s.ubr vid = .ok none) :
      Effect cfg s (.vlanAdd vid zallocFails) (s.ubr.register cfg vid)
  | vlanDeleted {vid r v} (found : ubrVlanFind cfg s.ubr vid = .ok (some r))
      (live : s.ubr.heap r = some v) (same : v.vid = vid) (fresh : r ∉ s.ubr.vlanRcu) :
      Effect cfg s (.vlanDel vid) (s.ubr.dropVlan r v)
  | vlanFreed {r} (queued : r ∈ s.ubr.vlanRcu) : Effect cfg s (.vlanFree r) (ubrVlanDelRcu s.ubr r)
  | attached {vid port tagged r v k} (found : ubrVlanFind cfg s.ubr vid = .ok (some r))
      (live : s.ubr.heap r = some v) (same : v.vid = vid)
      (slot : ubrPortFind s.ubr (some port) = .ok k) :
      Effect cfg s (.vlanAttach vid port tagged) (s.ubr.putVlan r (v.attach k (tagged != 0)))
  | detached {vid port r v k} (found : ubrVlanFind cfg s.ubr vid = .ok (some r))
      (live : s.ubr.heap r = some v) (same : v.vid = vid)
      (slot : ubrPortFind s.ubr (some port) = .ok k) :
      Effect cfg s (.vlanDetach vid port) (s.ubr.putVlan r (v.detach k))
  | pvidSet {port pvid k vlan} (slot : ubrPortFind s.ubr port = .ok k)
      (found : ubrVlanFind cfg s.ubr pvid = .ok vlan) :
      Effect cfg s (.portSet port pvid) (s.ubr.putPort k ((s.ubr.ports k).setPvid pvid vlan))
  | portAdded {dev env k r v} (begun : s.initSlot dev = some k) (whole : s.completes dev env k = true)
      (found : ubrVlanFind cfg s.ubr 0 = .ok (some r)) (live : s.ubr.heap r = some v) :
      Effect cfg s (.portAdd dev env) (s.ubr.plug k dev r v)
  | portAddFailed {dev env k r v} (begun : s.initSlot dev = some k)
      (broken : s.completes dev env k = false) (found : ubrVlanFind cfg s.ubr 0 = .ok (some r))
      (live : s.ubr.heap r = some v) (idle : k ∉ s.ubr.portRcu) :
      Effect cfg s (.portAdd dev env) ((s.ubr.plug k dev r v).unplug k)
  | portDeleted {dev k} (slave : s.slotOf dev = some k) (owned : (s.ubr.ports k).ingressCb.pidx = k)
      (idle : k ∉ s.ubr.portRcu) : Effect cfg s (.portDel dev) (s.ubr.vacate k)
  | portCleaned {k} (queued : k ∈ s.ubr.portRcu) (once : k ∉ s.ubr.portRcu.erase k) :
      Effect cfg s (.portCleanup k) ({ s.ubr with portRcu := s.ubr.portRcu.erase k }.putPort k {})

theorem Effect.same {s : Sys τ} {e : Event} : Effect cfg s e s.ubr := .quiet s.ubr.fdb (.inr rfl)

theorem initSlot_some {s : Sys τ} {dev : Dev} {k : Pidx} :
    s.initSlot dev = some k ↔ ubrPortAddAllowed (s.devs dev) = .ok () ∧ s.ubr.busy.findFirstZero = some k := by
  cases verdict : ubrPortAddAllowed (s.devs dev) with
  | error e => simp [Sys.initSlot, verdict, Except.toBool]
  | ok u => simp [Sys.initSlot, verdict, Except.toBool]

theorem slotOf_some {s : Sys τ} {dev : Dev} {k : Pidx} :
    s.slotOf dev = some k ↔ (s.devs dev).rxHandler = some (.ubrPort s.ubr.dev k) := by
  simp only [Sys.slotOf]
  split
  · rename_i b slot handler
    rw [handler]
    by_cases here : b = s.ubr.dev
    · simp [here]
    · simp [here]
  · rename_i other
    constructor
    · intro h
      cases h
    · intro handler
      exact absurd handler (other _ _)

theorem configured_ok {s s' : Sys τ} {o : Outcome} {result : Except Fault (Ubr τ × Ret)}
    (done : s.configured result = .ok (s', o)) :
    ∃ ubr, result = .ok (ubr, o.ret) ∧ s' = { s with ubr } ∧ o = { ret := o.ret } := by
  cases result with
  | error e => cases done
  | ok out =>
      cases done
      exact ⟨_, rfl, rfl, rfl⟩

theorem forwarded_ok {s s' : Sys τ} {o : Outcome} {run : Forwarding (Ubr τ × Bool)}
    (done : s.forwarded run = .ok (s', o)) :
    ∃ ubr handed, run.res = .ok (ubr, handed) ∧ s' = { s with ubr } ∧ o = { log := run.log } := by
  simp only [Sys.forwarded] at done
  split at done
  · cases done
  · rename_i ubr handed res
    cases done
    exact ⟨ubr, handed, res, rfl, rfl⟩

variable [Jiffies τ]

theorem ubrPortRxHandler_res {s s' : Ubr τ} {now : τ} {env : FrameEnv} {k : Pidx} {skb : Skb}
    {handed : Bool} (done : (ubrPortRxHandler cfg s now env k skb).res = .ok (s', handed)) :
    (s.ports k).ingressCb.pidx = k ∧
      (ubrForward cfg s now env { skb with cb := (s.ports k).ingressCb }).res = .ok (s', handed) := by
  obtain ⟨_, owned, done⟩ := Logged.res_bind_eq_ok done
  exact ⟨ubrFromPort_ok.mp owned, done⟩

private theorem forward_effect {s : Sys τ} {e : Event} {env : FrameEnv} {skb : Skb} {u : Ubr τ}
    {handed : Bool} (onFdb : e.OnFdb) (done : (ubrForward cfg s.ubr s.jiffies env skb).res = .ok (u, handed)) :
    Effect cfg s e u := by
  rcases ubrForward_res done with rfl | ⟨_, _, _, _, _, _, _, rfl⟩
  · exact .same
  · exact .quiet _ (.inl onFdb)

/-- Every executed event has one of the listed effects on the bridge. -/
theorem exec_effect {s s' : Sys τ} {e : Event} {o : Outcome} (enabled : s.Enabled e)
    (done : s.exec cfg e = .ok (s', o)) : Effect cfg s e s'.ubr := by
  cases e with
  | rx dev skb env =>
      simp only [Sys.exec] at done
      split at done
      · cases done
        exact .same
      · obtain ⟨u, handed, res, rfl, _⟩ := forwarded_ok done
        exact forward_effect trivial (ubrPortRxHandler_res res).2
  | xmit skb env =>
      obtain ⟨u, handed, res, rfl, _⟩ := forwarded_ok done
      exact forward_effect trivial res
  | age walk =>
      cases done
      exact .quiet _ (.inl trivial)
  | tick n =>
      cases done
      exact .same
  | devChange dev nd =>
      cases done
      exact .same
  | portAdd dev env =>
      obtain ⟨⟨u, nd, ret⟩, added, done⟩ := except_bind_eq_ok done
      cases done
      rcases ubrPortAdd_cases added with
        ⟨rfl, _⟩ | ⟨k, r, v, allowed, zero, found, live, rfl, enslaved, _⟩ |
        ⟨k, r, v, err, allowed, zero, found, live, idle, rfl, failed, _, _⟩
      · exact .same
      · refine .portAdded (initSlot_some.mpr ⟨allowed, zero⟩) ?_ found live
        simp [Sys.completes, enslaved, Except.toBool]
      · refine .portAddFailed (initSlot_some.mpr ⟨allowed, zero⟩) ?_ found live idle
        simp [Sys.completes, failed, Except.toBool]
  | portDel dev =>
      obtain ⟨⟨u, nd⟩, deleted, done⟩ := except_bind_eq_ok done
      cases done
      obtain ⟨b, k, handler, owned, idle, rfl, _⟩ := ubrPortDel_ok deleted
      obtain ⟨slot, slave⟩ := Option.isSome_iff_exists.mp enabled
      have this := (slotOf_some.mp slave).symm.trans handler
      cases this
      exact .portDeleted slave owned idle
  | portCleanup k =>
      obtain ⟨u, cleaned, done⟩ := except_bind_eq_ok done
      obtain ⟨once, rfl⟩ := ubrPortCleanupRcu_ok.mp cleaned
      cases done
      exact .portCleaned enabled once
  | vlanAdd vid zallocFails =>
      obtain ⟨u, result, rfl, _⟩ := configured_ok done
      rcases ubrVlanNlAdd_cases result with ⟨_, _, rfl, _⟩ | ⟨_, _, rfl, _⟩ | ⟨missing, _, rfl, _⟩
      · exact .same
      · exact .same
      · exact .vlanAdded missing
  | vlanDel vid =>
      obtain ⟨u, result, rfl, _⟩ := configured_ok done
      rcases ubrVlanNlDel_cases result with ⟨_, rfl, _⟩ | ⟨r, v, found, live, same, fresh, rfl, _⟩
      · exact .same
      · exact .vlanDeleted found live same fresh
  | vlanFree r =>
      cases done
      exact .vlanFreed enabled
  | vlanAttach vid port tagged =>
      obtain ⟨u, result, rfl, _⟩ := configured_ok done
      rcases ubrVlanNlAttach_cases result with ⟨rfl, _⟩ | ⟨r, v, k, found, live, same, slot, rfl, _⟩
      · exact .same
      · exact .attached found live same slot
  | vlanDetach vid port =>
      obtain ⟨u, result, rfl, _⟩ := configured_ok done
      rcases ubrVlanNlDetach_cases result with ⟨rfl, _⟩ | ⟨r, v, k, found, live, same, slot, rfl, _⟩
      · exact .same
      · exact .detached found live same slot
  | portSet port pvid =>
      obtain ⟨u, result, rfl, _⟩ := configured_ok done
      rcases ubrPortNlSet_cases result with ⟨rfl, _⟩ | ⟨k, vlan, slot, found, rfl, _⟩
      · exact .same
      · exact .pvidSet slot found

/-- Frames and ageing leave everything but the FDB alone. -/
theorem onFdb_quiet {s s' : Sys τ} {e : Event} {o : Outcome} (onFdb : e.OnFdb) (enabled : s.Enabled e)
    (done : s.exec cfg e = .ok (s', o)) : ∃ fdb, s'.ubr = { s.ubr with fdb } := by
  have effect := exec_effect enabled done
  generalize s'.ubr = u at effect
  cases effect with
  | quiet fdb => exact ⟨fdb, rfl⟩
  | _ => exact onFdb.elim

/-- Success of `ubr_port_add` means that it took a slot and nothing failed after that. -/
theorem portAdd_ret {s s' : Sys τ} {dev : Dev} {env : PortAddEnv} {o : Outcome}
    (done : s.exec cfg (.portAdd dev env) = .ok (s', o)) :
    o.ret = .ok () ↔ ∃ k, s.initSlot dev = some k ∧ s.completes dev env k = true := by
  obtain ⟨⟨u, nd, ret⟩, added, done⟩ := except_bind_eq_ok done
  cases done
  rcases ubrPortAdd_cases added with
    ⟨_, _, refused, e, rfl⟩ | ⟨k, r, v, allowed, zero, _, _, _, enslaved, rfl⟩ |
    ⟨k, r, v, e, allowed, zero, _, _, _, _, failed, _, rfl⟩
  · have unused : ∀ k, s.initSlot dev ≠ some k := by
      intro k begun
      obtain ⟨allowed, zero⟩ := initSlot_some.mp begun
      rw [refused allowed] at zero
      cases zero
    simp [unused]
  · simp [initSlot_some, Sys.completes, allowed, zero, enslaved, Except.toBool]
  · simp [initSlot_some, Sys.completes, allowed, zero, failed, Except.toBool]

theorem portAdd_plug {s s' : Sys τ} {dev : Dev} {env : PortAddEnv} {o : Outcome} {k : Pidx}
    (done : s.exec cfg (.portAdd dev env) = .ok (s', o)) (begun : s.initSlot dev = some k)
    (whole : s.completes dev env k = true) :
    ∃ r v, ubrVlanFind cfg s.ubr 0 = .ok (some r) ∧ s.ubr.heap r = some v ∧
      s'.ubr = s.ubr.plug k dev r v := by
  obtain ⟨⟨u, nd, ret⟩, added, done⟩ := except_bind_eq_ok done
  cases done
  obtain ⟨allowed, zero⟩ := initSlot_some.mp begun
  rcases ubrPortAdd_cases added with
    ⟨_, _, refused, _⟩ | ⟨j, r, v, _, zero', found, live, same, _⟩ |
    ⟨j, r, v, e, _, zero', _, _, _, _, failed, _⟩
  · rw [refused allowed] at zero
    cases zero
  · cases zero.symm.trans zero'
    exact ⟨r, v, found, live, same⟩
  · cases zero.symm.trans zero'
    simp [Sys.completes, failed, Except.toBool] at whole

omit [Jiffies τ] in
theorem Effect.dev {s : Sys τ} {e : Event} {u : Ubr τ} (effect : Effect cfg s e u) : u.dev = s.ubr.dev := by
  cases effect <;> rfl

omit [Jiffies τ] in
theorem Effect.vlanProto {s : Sys τ} {e : Event} {u : Ubr τ} (effect : Effect cfg s e u) :
    u.vlanProto = s.ubr.vlanProto := by
  cases effect <;> rfl

/-- The events that write to a device: a slave comes or goes, or another device changes. -/
def Event.OnDevice (dev : Dev) : Event → Prop
  | .portAdd d _ | .portDel d | .devChange d _ => d = dev
  | _ => False

/-- What an event does around the bridge, to the devices and to the clock. -/
inductive Around (s s' : Sys τ) : Event → Prop where
  | still {e} (devs : s'.devs = s.devs) (clock : s'.jiffies = s.jiffies) (stays : ∀ dev, e ≠ .portDel dev) :
      Around s s' e
  | ticked {n} (only : s' = { s with jiffies := Jiffies.later s.jiffies n }) : Around s s' (.tick n)
  | device {e dev} (onDevice : e.OnDevice dev) (clock : s'.jiffies = s.jiffies) : Around s s' e

theorem exec_around {s s' : Sys τ} {e : Event} {o : Outcome} (done : s.exec cfg e = .ok (s', o)) :
    Around s s' e := by
  cases e with
  | tick n =>
      cases done
      exact .ticked rfl
  | rx dev skb env =>
      simp only [Sys.exec] at done
      split at done
      · cases done
        exact .still rfl rfl nofun
      · obtain ⟨_, _, _, rfl, _⟩ := forwarded_ok done
        exact .still rfl rfl nofun
  | xmit skb env =>
      obtain ⟨_, _, _, rfl, _⟩ := forwarded_ok done
      exact .still rfl rfl nofun
  | age | vlanFree =>
      cases done
      exact .still rfl rfl nofun
  | portCleanup slot =>
      obtain ⟨_, _, done⟩ := except_bind_eq_ok done
      cases done
      exact .still rfl rfl nofun
  | vlanAdd | vlanDel | vlanAttach | vlanDetach | portSet =>
      obtain ⟨_, _, rfl, _⟩ := configured_ok done
      exact .still rfl rfl nofun
  | devChange dev nd =>
      cases done
      exact .device rfl rfl
  | portAdd dev env | portDel dev =>
      obtain ⟨_, _, done⟩ := except_bind_eq_ok done
      cases done
      exact .device rfl rfl

omit [Jiffies τ] in
private theorem slotOf_setDev {s : Sys τ} {u : Ubr τ} {dev other : Dev} {nd : NetDev} {k : Pidx}
    (kept : u.dev = s.ubr.dev) (slave : ({ s with ubr := u }.setDev dev nd).slotOf other = some k) :
    (other = dev ∧ nd.rxHandler = some (.ubrPort s.ubr.dev k)) ∨ (other ≠ dev ∧ s.slotOf other = some k) := by
  have handler := slotOf_some.mp slave
  by_cases here : other = dev
  · subst here
    exact .inl ⟨rfl, by simpa [Sys.setDev, kept] using handler⟩
  · exact .inr ⟨here, slotOf_some.mpr (by simpa [Sys.setDev, here, kept] using handler)⟩

/-- Slaves come only with `ubr_port_add`, and a released device is no slave. -/
theorem exec_slotOf {s s' : Sys τ} {e : Event} {o : Outcome} {dev : Dev} {k : Pidx}
    (enabled : s.Enabled e) (done : s.exec cfg e = .ok (s', o)) (slave : s'.slotOf dev = some k) :
    (s.slotOf dev = some k ∧ e ≠ .portDel dev) ∨
      ∃ env, e = .portAdd dev env ∧ s.initSlot dev = some k ∧ s.completes dev env k = true := by
  have kept := (exec_effect enabled done).dev
  cases exec_around done with
  | still devs _ stays =>
      have handler := slotOf_some.mp slave
      rw [devs, kept] at handler
      exact .inl ⟨slotOf_some.mpr handler, stays dev⟩
  | ticked only =>
      subst only
      exact .inl ⟨slave, nofun⟩
  | @device _ d onDevice _ =>
      cases e with
      | devChange d nd =>
          cases done
          rcases slotOf_setDev rfl slave with ⟨rfl, handler⟩ | ⟨_, old⟩
          · have foreign := enabled.2
            simp [NetDev.onBridge, handler] at foreign
          · exact .inl ⟨old, nofun⟩
      | portDel d =>
          obtain ⟨⟨u, nd⟩, deleted, done⟩ := except_bind_eq_ok done
          obtain ⟨_, _, _, _, _, _, released⟩ := ubrPortDel_ok deleted
          cases done
          rcases slotOf_setDev kept slave with ⟨_, handler⟩ | ⟨other, old⟩
          · rw [released] at handler
            cases handler
          · refine .inl ⟨old, ?_⟩
            intro same
            cases same
            exact other rfl
      | portAdd d env =>
          obtain ⟨⟨u, nd, ret⟩, added, done⟩ := except_bind_eq_ok done
          cases done
          rcases slotOf_setDev kept slave with ⟨rfl, handler⟩ | ⟨_, old⟩
          · rcases ubrPortAdd_cases added with
              ⟨_, rfl, _⟩ | ⟨slot, r, v, allowed, zero, found, live, _, enslaved, _⟩ |
              ⟨_, _, _, _, _, _, _, _, _, _, _, rfl, _⟩
            · exact .inl ⟨slotOf_some.mpr handler, nofun⟩
            · obtain ⟨_, rfl⟩ := ubrPortEnslave_ok enslaved
              cases handler
              refine .inr ⟨env, rfl, initSlot_some.mpr ⟨allowed, zero⟩, ?_⟩
              simp [Sys.completes, enslaved, Except.toBool]
            · exact .inl ⟨slotOf_some.mpr handler, nofun⟩
          · exact .inl ⟨old, nofun⟩
      | _ => exact onDevice.elim

end UnassumingBridge
