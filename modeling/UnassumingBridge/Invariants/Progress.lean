import UnassumingBridge.Invariants.Order

/-! # Commands do not crash an orderly bridge

One lemma for each thing that a command can come to, with the bridge that it leaves.
-/

namespace UnassumingBridge

open Support

variable {τ : Type} [Jiffies τ] {cfg : Config}

/-- The event handles no buffer and leaves the bridge `u`. -/
def Sys.Leaves (cfg : Config) (s : Sys τ) (e : Event) (u : Ubr τ) : Prop :=
  ∃ s' ret, s.exec cfg e = .ok (s', { ret }) ∧ s'.ubr = u ∧ s'.jiffies = s.jiffies

variable {s : Sys τ}

theorem leaves_configured {e : Event} {result : Except Fault (Ubr τ × Ret)} {u : Ubr τ} (ret : Ret)
    (runs : s.exec cfg e = s.configured result) (ends : result = .ok (u, ret)) : s.Leaves cfg e u := by
  refine ⟨{ s with ubr := u }, ret, ?_, rfl, rfl⟩
  rw [runs, ends]
  rfl

namespace Tidy

omit [Jiffies τ] in
theorem find (ok : Tidy cfg s) (vid : Vid) :
    (∃ r v, ubrVlanFind cfg s.ubr vid = .ok (some r) ∧ s.ubr.heap r = some v ∧ v.vid = vid) ∨
      (ubrVlanFind cfg s.ubr vid = .ok none ∧ ∀ r, ¬ s.ubr.LiveVid vid r) := by
  by_cases registered : ∃ r, s.ubr.LiveVid vid r
  · obtain ⟨r, v, live, same⟩ := registered
    exact .inl ⟨r, v, (ok.deleted.find_some ok.vlans).mpr ⟨v, live, same⟩, live.1, same⟩
  · have absent : ∀ r, ¬ s.ubr.LiveVid vid r := fun r live => registered ⟨r, live⟩
    exact .inr ⟨(ok.deleted.find_none ok.vlans).mpr absent, absent⟩

section Ports

variable {dev : Dev} {env : PortAddEnv} {k : Pidx}

omit [Jiffies τ] in
/-- The headroom is computed after the slot was filled in. -/
theorem headroom (ok : Tidy cfg s) (r : VlanRef) (v : UbrVlan) : ubrUpdateHeadroom (s.ubr.plug k dev r v) = .ok () := by
  have served : (s.ubr.plug k dev r v).busy.toList.all
      (fun pidx => ((s.ubr.plug k dev r v).ports pidx).dev.isSome) = true := by
    rw [List.all_eq_true]
    intro j inside
    by_cases here : j = k
    · rw [here, plug_self]
      rfl
    · have old : j ∈ s.ubr.busy := (Bitmap.mem_set.mp (Bitmap.mem_toList.mp inside)).resolve_left here
      rw [plug_other _ _ here]
      exact ok.ports.served j old
  simp only [ubrUpdateHeadroom, served, if_true]

theorem portAdd_refused (unused : s.initSlot dev = none) : s.Leaves cfg (.portAdd dev env) s.ubr := by
  obtain ⟨e, refused⟩ : ∃ e, ubrPortAdd cfg s.ubr dev env (s.devs dev) = .ok (s.ubr, s.devs dev, .error e) := by
    cases verdict : ubrPortAddAllowed (s.devs dev) with
    | error e => exact ⟨e, by simp only [ubrPortAdd, verdict]⟩
    | ok allowed =>
        have full : s.ubr.busy.findFirstZero = none := by
          apply Option.eq_none_iff_forall_ne_some.mpr
          intro k zero
          have begun := initSlot_some.mpr ⟨verdict, zero⟩
          rw [unused] at begun
          cases begun
        exact ⟨.ebusy, by simp only [ubrPortAdd, verdict, full]⟩
  refine ⟨s.setDev dev (s.devs dev), .error e, ?_, rfl, rfl⟩
  simp only [Sys.exec, refused]
  rfl

theorem portAdd_plugged (ok : Tidy cfg s) (begun : s.initSlot dev = some k) (whole : s.completes dev env k = true)
    {r : VlanRef} {v : UbrVlan} (found : ubrVlanFind cfg s.ubr 0 = .ok (some r)) (object : s.ubr.heap r = some v) :
    s.Leaves cfg (.portAdd dev env) (s.ubr.plug k dev r v) := by
  obtain ⟨allowed, zero⟩ := initSlot_some.mp begun
  have plugged : ubrPortInit cfg s.ubr k dev = .ok (s.ubr.plug k dev r v) :=
    ubrPortInit_ok.mpr ⟨r, v, found, object, rfl⟩
  obtain ⟨nd, enslaved⟩ : ∃ nd, ubrPortEnslave s.ubr.dev k env (s.devs dev) = (nd, .ok ()) := by
    simp only [Sys.completes] at whole
    cases verdict : ubrPortEnslave s.ubr.dev k env (s.devs dev) with
    | mk nd ret =>
        rw [verdict] at whole
        cases ret with
        | error e => cases whole
        | ok _ => exact ⟨nd, rfl⟩
  have added : ubrPortAdd cfg s.ubr dev env (s.devs dev) = .ok (s.ubr.plug k dev r v, nd, .ok ()) := by
    have bridge : (s.ubr.plug k dev r v).dev = s.ubr.dev := rfl
    simp only [ubrPortAdd, allowed, zero, plugged]
    change (ubrUpdateHeadroom (s.ubr.plug k dev r v) >>= _) = _
    rw [ok.headroom r v, bridge, enslaved]
    rfl
  refine ⟨{ s with ubr := s.ubr.plug k dev r v }.setDev dev nd, .ok (), ?_, rfl, rfl⟩
  simp only [Sys.exec, added]
  rfl

theorem portDel_vacated (ok : Tidy cfg s) (slave : s.slotOf dev = some k) :
    s.Leaves cfg (.portDel dev) (s.ubr.vacate k) := by
  have handler := slotOf_some.mp slave
  have inUse := (ok.slaves.slaves dev k slave).1
  have owned := (ok.slots k).pidx (ok.ports.served k inUse)
  have idle : k ∉ s.ubr.portRcu := fun queued => ok.ports.pendingIdle k queued inUse
  have vacated : ubrPortCleanup s.ubr k = .ok (s.ubr.vacate k) := ubrPortCleanup_ok.mpr ⟨owned, idle, rfl⟩
  obtain ⟨nd, deleted⟩ : ∃ nd, ubrPortDel s.ubr (s.devs dev) = .ok (s.ubr.vacate k, nd) := by
    simp only [ubrPortDel, handler, vacated]
    exact ⟨_, rfl⟩
  refine ⟨{ s with ubr := s.ubr.vacate k }.setDev dev nd, .ok (), ?_, rfl, rfl⟩
  simp only [Sys.exec, deleted]
  rfl

theorem portCleanup_zeroed (ok : Tidy cfg s) :
    s.Leaves cfg (.portCleanup k) ({ s.ubr with portRcu := s.ubr.portRcu.erase k }.putPort k {}) := by
  have once : k ∉ s.ubr.portRcu.erase k := by
    rw [ok.ports.pendingOnce.mem_erase_iff]
    exact fun twice => twice.1 rfl
  have zeroed := (ubrPortCleanupRcu_ok (s := s.ubr)).mpr ⟨once, rfl⟩
  refine ⟨{ s with ubr := _ }, .ok (), ?_, rfl, rfl⟩
  simp only [Sys.exec, zeroed]
  rfl

end Ports

section Vlans

variable {vid : Vid} {r : VlanRef} {v : UbrVlan}

theorem vlanAdd_refused (ok : Tidy cfg s) {zallocFails : Bool}
    (refused : zallocFails = true ∨ s.ubr.registered cfg vid = true) :
    s.Leaves cfg (.vlanAdd vid zallocFails) s.ubr := by
  rcases ok.find vid with ⟨r, v, found, _⟩ | ⟨missing, _⟩
  · exact leaves_configured _ rfl (ubrVlanNlAdd_busy found zallocFails)
  · rcases refused with rfl | registered
    · exact leaves_configured _ rfl (ubrVlanNlAdd_nomem missing)
    · obtain ⟨r, _, found, _⟩ := ok.registered_iff.mp registered
      cases missing.symm.trans found

theorem vlanAdd_registered (missing : ubrVlanFind cfg s.ubr vid = .ok none) :
    s.Leaves cfg (.vlanAdd vid false) (s.ubr.register cfg vid) :=
  leaves_configured _ rfl (ubrVlanNlAdd_added missing)

theorem vlanDel_refused (missing : ubrVlanFind cfg s.ubr vid = .ok none) : s.Leaves cfg (.vlanDel vid) s.ubr :=
  leaves_configured _ rfl (ubrVlanNlDel_noent missing)

section Members

variable (found : ubrVlanFind cfg s.ubr vid = .ok (some r)) (object : s.ubr.heap r = some v) {port : Dev} {k : Pidx}
  (slot : ubrPortFind s.ubr (some port) = .ok k)
include found object slot

theorem vlanAttach_put (tagged : BitVec 32) :
    s.Leaves cfg (.vlanAttach vid port tagged) (s.ubr.putVlan r (v.attach k (tagged != 0))) := by
  have attached : ubrVlanPortAdd s.ubr (some r) k (tagged != 0) = .ok (s.ubr.putVlan r (v.attach k (tagged != 0))) :=
    ubrVlanPortAdd_ok.mpr ⟨r, v, rfl, object, rfl⟩
  refine leaves_configured (.ok ()) rfl ?_
  simp only [ubrVlanNlAttach, found, slot]
  change (ubrVlanPortAdd s.ubr (some r) k (tagged != 0) >>= _) = _
  rw [attached]
  rfl

theorem vlanDetach_put : s.Leaves cfg (.vlanDetach vid port) (s.ubr.putVlan r (v.detach k)) := by
  have detached : ubrVlanPortDel s.ubr (some r) k = .ok (s.ubr.putVlan r (v.detach k)) :=
    Ubr.modVlan_eq_ok.mpr ⟨r, v, rfl, object, rfl⟩
  refine leaves_configured (.ok ()) rfl ?_
  simp only [ubrVlanNlDetach, found, slot]
  change (ubrVlanPortDel s.ubr (some r) k >>= _) = _
  rw [detached]
  rfl

end Members

section Unknown

variable (ok : Tidy cfg s) {port : Dev} {e : Errno} (unknown : ubrPortFind s.ubr (some port) = .error e)
include ok unknown

theorem vlanAttach_refused (tagged : BitVec 32) : s.Leaves cfg (.vlanAttach vid port tagged) s.ubr := by
  rcases ok.find vid with ⟨_, _, found, _⟩ | ⟨found, _⟩
  all_goals
    refine leaves_configured (.error .enodev) rfl ?_
    simp only [ubrVlanNlAttach, found, unknown]
    rfl

theorem vlanDetach_refused : s.Leaves cfg (.vlanDetach vid port) s.ubr := by
  rcases ok.find vid with ⟨_, _, found, _⟩ | ⟨found, _⟩
  all_goals
    refine leaves_configured (.ok ()) rfl ?_
    simp only [ubrVlanNlDetach, found, unknown]
    rfl

end Unknown

theorem portSet_refused {port : Option Dev} {pvid : Vid} {e : Errno} (unknown : ubrPortFind s.ubr port = .error e) :
    s.Leaves cfg (.portSet port pvid) s.ubr := by
  refine leaves_configured (.error .einval) rfl ?_
  simp only [ubrPortNlSet, unknown]

theorem portSet_put (ok : Tidy cfg s) {port : Option Dev} (pvid : Vid) {k : Pidx}
    (slot : ubrPortFind s.ubr port = .ok k) :
    ∃ vlan, s.Leaves cfg (.portSet port pvid) (s.ubr.putPort k ((s.ubr.ports k).setPvid pvid vlan)) := by
  obtain ⟨vlan, found⟩ : ∃ vlan, ubrVlanFind cfg s.ubr pvid = .ok vlan := by
    rcases ok.find pvid with ⟨r, _, found, _⟩ | ⟨found, _⟩
    · exact ⟨some r, found⟩
    · exact ⟨none, found⟩
  refine ⟨vlan, leaves_configured (.ok ()) rfl ?_⟩
  simp only [ubrPortNlSet, slot, found]
  rfl

end Vlans
end Tidy
end UnassumingBridge
