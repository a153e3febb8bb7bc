import UnassumingBridge.Effects.Step

/-! # What does not look at the forwarding database

Everything but the FDB stage of a frame and ageing does the same whatever is in the
forwarding database, and leaves it alone.
-/

namespace UnassumingBridge

open Support

variable {τ : Type} {cfg : Config}

def Ubr.withFdb (s : Ubr τ) (fdb : UbrFdb τ) : Ubr τ := { s with fdb }

def Sys.withFdb (s : Sys τ) (fdb : UbrFdb τ) : Sys τ := { s with ubr := s.ubr.withFdb fdb }

/-- The same result with another database in the bridge. -/
def carry {α : Type} (fdb : UbrFdb τ) : Except Fault (Ubr τ × α) → Except Fault (Ubr τ × α)
  | .ok (s, a) => .ok (s.withFdb fdb, a)
  | .error f => .error f

section Bridge

variable (s : Ubr τ) (fdb : UbrFdb τ)

theorem vlanAt_withFdb (p : Option VlanRef) : (s.withFdb fdb).vlanAt p = s.vlanAt p := rfl

theorem modVlan_withFdb (p : Option VlanRef) (f : UbrVlan → UbrVlan) :
    (s.withFdb fdb).modVlan p f = (s.modVlan p f).map (·.withFdb fdb) := by
  cases p with
  | none => rfl
  | some r =>
      have heap : (s.withFdb fdb).heap = s.heap := rfl
      simp only [Ubr.modVlan, heap]
      cases s.heap r with
      | none => rfl
      | some v => rfl

theorem ubrVlanFind_withFdb (cfg : Config) (s : Ubr τ) (fdb : UbrFdb τ) (vid : Vid) :
    ubrVlanFind cfg (s.withFdb fdb) vid = ubrVlanFind cfg s vid := by
  simp only [ubrVlanFind]
  change findInBucket (s.withFdb fdb) vid (s.vlans (cfg.vlanHash vid)) = _
  induction s.vlans (cfg.vlanHash vid) with
  | nil => rfl
  | cons r rest ih => simp only [findInBucket, vlanAt_withFdb, ih]

theorem ubrPortFind_withFdb (dev : Option Dev) : ubrPortFind (s.withFdb fdb) dev = ubrPortFind s dev := rfl

theorem ubrVlanIngress_withFdb (env : FrameEnv) (skb : Skb) :
    ubrVlanIngress cfg (s.withFdb fdb) env skb = ubrVlanIngress cfg s env skb := by
  simp only [ubrVlanIngress, vlanAt_withFdb, ubrVlanFind_withFdb]
  rfl

theorem ubrDeliverClones_withFdb (env : FrameEnv) (skb : Skb) (l : List Pidx) :
    ubrDeliverClones cfg (s.withFdb fdb) env skb l = ubrDeliverClones cfg s env skb l := by
  induction l with
  | nil => rfl
  | cons q rest ih =>
      simp only [ubrDeliverClones, ih]
      rfl

theorem ubrDeliver_withFdb (env : FrameEnv) (skb : Skb) :
    ubrDeliver cfg (s.withFdb fdb) env skb = ubrDeliver cfg s env skb := by
  simp only [ubrDeliver, ubrDeliverClones_withFdb]
  rfl

theorem updatePortVlan_withFdb (r : VlanRef) (add : Bool) :
    updatePortVlan (s.withFdb fdb) r add = (updatePortVlan s r add).map (·.withFdb fdb) := by
  have live : (s.withFdb fdb).vlanAt (some r) = s.vlanAt (some r) := rfl
  cases read : s.vlanAt (some r) with
  | error f =>
      simp only [updatePortVlan, live, read]
      rfl
  | ok v =>
      have here := Ubr.vlanAt_some_eq_ok.mp read
      rw [updatePortVlan_eq here, updatePortVlan_eq (s := s.withFdb fdb) here]
      rfl

theorem ubrVlanDel_withFdb (r : VlanRef) :
    ubrVlanDel (s.withFdb fdb) r = (ubrVlanDel s r).map (·.withFdb fdb) := by
  simp only [ubrVlanDel, modVlan_withFdb]
  cases s.modVlan (some r) fun v => { v with members := .zero } with
  | error f => rfl
  | ok u =>
      change (if r ∈ u.vlanRcu then _ else _) = Except.map _ (if r ∈ u.vlanRcu then _ else _)
      split
      · rfl
      · rfl

theorem ubrVlanNlAdd_withFdb (vid : Vid) (zallocFails : Bool) :
    ubrVlanNlAdd cfg (s.withFdb fdb) vid zallocFails = carry fdb (ubrVlanNlAdd cfg s vid zallocFails) := by
  have find := ubrVlanFind_withFdb cfg s fdb vid
  cases found : ubrVlanFind cfg s vid with
  | error f =>
      simp only [ubrVlanNlAdd, ubrVlanNew, find, found]
      rfl
  | ok old =>
      cases old with
      | some r =>
          rw [ubrVlanNlAdd_busy found, ubrVlanNlAdd_busy (find.trans found)]
          rfl
      | none =>
          cases zallocFails with
          | true =>
              rw [ubrVlanNlAdd_nomem found, ubrVlanNlAdd_nomem (find.trans found)]
              rfl
          | false =>
              rw [ubrVlanNlAdd_added found, ubrVlanNlAdd_added (find.trans found)]
              rfl

theorem ubrVlanNlDel_withFdb (vid : Vid) :
    ubrVlanNlDel cfg (s.withFdb fdb) vid = carry fdb (ubrVlanNlDel cfg s vid) := by
  simp only [ubrVlanNlDel, ubrVlanFind_withFdb]
  cases ubrVlanFind cfg s vid with
  | error f => rfl
  | ok old =>
      cases old with
      | none => rfl
      | some r =>
          change (updatePortVlan (s.withFdb fdb) r false >>= _) = carry fdb (updatePortVlan s r false >>= _)
          rw [updatePortVlan_withFdb]
          cases updatePortVlan s r false with
          | error f => rfl
          | ok u =>
              change (ubrVlanDel (u.withFdb fdb) r >>= _) = carry fdb (ubrVlanDel u r >>= _)
              rw [ubrVlanDel_withFdb]
              cases ubrVlanDel u r with
              | error f => rfl
              | ok w => rfl

theorem ubrVlanNlAttach_withFdb (vid : Vid) (port : Dev) (tagged : BitVec 32) :
    ubrVlanNlAttach cfg (s.withFdb fdb) vid port tagged = carry fdb (ubrVlanNlAttach cfg s vid port tagged) := by
  simp only [ubrVlanNlAttach, ubrVlanFind_withFdb, ubrPortFind_withFdb]
  cases ubrVlanFind cfg s vid with
  | error f => rfl
  | ok vlan =>
      cases ubrPortFind s (some port) with
      | error e => rfl
      | ok pidx =>
          change (ubrVlanPortAdd (s.withFdb fdb) vlan pidx _ >>= _) = carry fdb (ubrVlanPortAdd s vlan pidx _ >>= _)
          rw [ubrVlanPortAdd, modVlan_withFdb, ubrVlanPortAdd]
          cases s.modVlan vlan _ with
          | error f => rfl
          | ok u => rfl

theorem ubrVlanNlDetach_withFdb (vid : Vid) (port : Dev) :
    ubrVlanNlDetach cfg (s.withFdb fdb) vid port = carry fdb (ubrVlanNlDetach cfg s vid port) := by
  simp only [ubrVlanNlDetach, ubrVlanFind_withFdb, ubrPortFind_withFdb]
  cases ubrVlanFind cfg s vid with
  | error f => rfl
  | ok vlan =>
      cases ubrPortFind s (some port) with
      | error e => rfl
      | ok pidx =>
          change (ubrVlanPortDel (s.withFdb fdb) vlan pidx >>= _) = carry fdb (ubrVlanPortDel s vlan pidx >>= _)
          rw [ubrVlanPortDel, modVlan_withFdb, ubrVlanPortDel]
          cases s.modVlan vlan _ with
          | error f => rfl
          | ok u => rfl

theorem ubrPortNlSet_withFdb (port : Option Dev) (pvid : Vid) :
    ubrPortNlSet cfg (s.withFdb fdb) port pvid = carry fdb (ubrPortNlSet cfg s port pvid) := by
  simp only [ubrPortNlSet, ubrVlanFind_withFdb, ubrPortFind_withFdb]
  cases ubrPortFind s port with
  | error e => rfl
  | ok pidx =>
      cases ubrVlanFind cfg s pvid with
      | error f => rfl
      | ok vlan => rfl

theorem ubrPortZero_withFdb (k : Pidx) : ubrPortZero (s.withFdb fdb) k = (ubrPortZero s k).map (·.withFdb fdb) := by
  simp only [ubrPortZero]
  change (if k ∈ s.portRcu then _ else _) = Except.map _ (if k ∈ s.portRcu then _ else _)
  split
  · rfl
  · rfl

theorem ubrPortInit_withFdb (k : Pidx) (dev : Dev) :
    ubrPortInit cfg (s.withFdb fdb) k dev = (ubrPortInit cfg s k dev).map (·.withFdb fdb) := by
  simp only [ubrPortInit, ubrVlanFind_withFdb]
  cases ubrVlanFind cfg s 0 with
  | error f => rfl
  | ok vlan =>
      have same : (s.withFdb fdb).putPort k (((s.withFdb fdb).ports k).init k dev vlan) =
        (s.putPort k ((s.ports k).init k dev vlan)).withFdb fdb := rfl
      change (ubrVlanPortAdd
        ((s.withFdb fdb).putPort k (((s.withFdb fdb).ports k).init k dev vlan)) vlan k false >>= _) =
        Except.map _ (ubrVlanPortAdd (s.putPort k ((s.ports k).init k dev vlan)) vlan k false >>= _)
      rw [same, ubrVlanPortAdd, modVlan_withFdb, ubrVlanPortAdd]
      cases (s.putPort k ((s.ports k).init k dev vlan)).modVlan vlan _ with
      | error f => rfl
      | ok u => rfl

theorem ubrPortAdd_withFdb (dev : Dev) (env : PortAddEnv) (nd : NetDev) :
    ubrPortAdd cfg (s.withFdb fdb) dev env nd = carry fdb (ubrPortAdd cfg s dev env nd) := by
  have busy : (s.withFdb fdb).busy = s.busy := rfl
  simp only [ubrPortAdd, ubrPortInit_withFdb, busy]
  cases ubrPortAddAllowed nd with
  | error e => rfl
  | ok _ =>
      cases s.busy.findFirstZero with
      | none => rfl
      | some k =>
          simp only
          cases ubrPortInit cfg s k dev with
          | error f => rfl
          | ok u =>
              have bridge : (u.withFdb fdb).dev = u.dev := rfl
              change (ubrUpdateHeadroom u >>= fun _ => _) = carry fdb (ubrUpdateHeadroom u >>= fun _ => _)
              cases ubrUpdateHeadroom u with
              | error f => rfl
              | ok _ =>
                  simp only [bridge]
                  cases enslaved : ubrPortEnslave u.dev k env nd with
                  | mk nd' ret =>
                      cases ret with
                      | ok _ => rfl
                      | error e =>
                          have failed : (ubrPortZero ({ u.withFdb fdb with busy := u.busy.clear k } : Ubr τ) k) = _ :=
                            ubrPortZero_withFdb { u with busy := u.busy.clear k } fdb k
                          change (ubrPortZero ({ u.withFdb fdb with busy := u.busy.clear k } : Ubr τ) k >>= _) =
                            carry fdb (ubrPortZero { u with busy := u.busy.clear k } k >>= _)
                          rw [failed]
                          cases ubrPortZero ({ u with busy := u.busy.clear k } : Ubr τ) k with
                          | error f => rfl
                          | ok w => rfl

theorem ubrPortCleanup_withFdb (k : Pidx) :
    ubrPortCleanup (s.withFdb fdb) k = (ubrPortCleanup s k).map (·.withFdb fdb) := by
  simp only [ubrPortCleanup]
  change (ubrFromPort s k >>= _) = Except.map _ (ubrFromPort s k >>= _)
  cases ubrFromPort s k with
  | error f => rfl
  | ok _ =>
      change (if k ∈ s.portRcu then _ else _) = Except.map _ (if k ∈ s.portRcu then _ else _)
      split
      · rfl
      · rfl

theorem ubrPortDel_withFdb (nd : NetDev) :
    ubrPortDel (s.withFdb fdb) nd = carry fdb (ubrPortDel s nd) := by
  simp only [ubrPortDel]
  cases nd.rxHandler with
  | none => rfl
  | some handler =>
      cases handler with
      | other => rfl
      | ubrPort bridge slot =>
          simp only [ubrPortCleanup_withFdb]
          cases ubrPortCleanup s slot with
          | error f => rfl
          | ok u => rfl

end Bridge

/-- The events that neither read nor write the forwarding database. -/
def Event.apart : Event → Bool
  | .rx .. | .xmit .. | .age .. => false
  | _ => true

/-- The same outcome of an event with another database in the bridge. -/
def carrySys (fdb : UbrFdb τ) : Except Fault (Sys τ × Outcome) → Except Fault (Sys τ × Outcome)
  | .ok (s, o) => .ok (s.withFdb fdb, o)
  | .error f => .error f

theorem configured_withFdb (s : Sys τ) (fdb : UbrFdb τ) (result : Except Fault (Ubr τ × Ret)) :
    (s.withFdb fdb).configured (carry fdb result) = carrySys fdb (s.configured result) := by
  cases result with
  | error f => rfl
  | ok out => rfl

theorem exec_withFdb [Jiffies τ] (s : Sys τ) (fdb : UbrFdb τ) {e : Event} (apart : e.apart = true) :
    (s.withFdb fdb).exec cfg e = carrySys fdb (s.exec cfg e) := by
  have ubr : (s.withFdb fdb).ubr = s.ubr.withFdb fdb := rfl
  cases e with
  | rx | xmit | age => cases apart
  | tick n => rfl
  | devChange dev nd => rfl
  | vlanFree vlan => rfl
  | vlanAdd vid zallocFails =>
      simp only [Sys.exec, ubr, ubrVlanNlAdd_withFdb]
      exact configured_withFdb s fdb _
  | vlanDel vid =>
      simp only [Sys.exec, ubr, ubrVlanNlDel_withFdb]
      exact configured_withFdb s fdb _
  | vlanAttach vid port tagged =>
      simp only [Sys.exec, ubr, ubrVlanNlAttach_withFdb]
      exact configured_withFdb s fdb _
  | vlanDetach vid port =>
      simp only [Sys.exec, ubr, ubrVlanNlDetach_withFdb]
      exact configured_withFdb s fdb _
  | portSet port pvid =>
      simp only [Sys.exec, ubr, ubrPortNlSet_withFdb]
      exact configured_withFdb s fdb _
  | portAdd dev env =>
      simp only [Sys.exec, ubr, ubrPortAdd_withFdb]
      change (carry fdb (ubrPortAdd cfg s.ubr dev env (s.devs dev)) >>= _) = _
      cases ubrPortAdd cfg s.ubr dev env (s.devs dev) with
      | error f => rfl
      | ok out => rfl
  | portDel dev =>
      simp only [Sys.exec, ubr, ubrPortDel_withFdb]
      change (carry fdb (ubrPortDel s.ubr (s.devs dev)) >>= _) = _
      cases ubrPortDel s.ubr (s.devs dev) with
      | error f => rfl
      | ok out => rfl
  | portCleanup slot =>
      have cleaned : ubrPortCleanupRcu (s.ubr.withFdb fdb) slot = _ :=
        ubrPortZero_withFdb { s.ubr with portRcu := s.ubr.portRcu.erase slot } fdb slot
      simp only [Sys.exec, ubr, cleaned]
      cases done : ubrPortCleanupRcu s.ubr slot with
      | error f =>
          simp only [ubrPortCleanupRcu] at done
          rw [done]
          rfl
      | ok u =>
          simp only [ubrPortCleanupRcu] at done
          rw [done]
          rfl

end UnassumingBridge
