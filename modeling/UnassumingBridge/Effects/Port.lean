import UnassumingBridge.Effects.Vlan

/-! # What the port operations do -/

namespace UnassumingBridge

open Support

variable {τ : Type} {cfg : Config} {s s' : Ubr τ}

/-- The bridge after `ubr_port_init` on slot `k`, where `r` is its VLAN 0. -/
def Ubr.plug (s : Ubr τ) (k : Pidx) (dev : Dev) (r : VlanRef) (v : UbrVlan) : Ubr τ :=
  { (s.putPort k ((s.ports k).init k dev (some r))).putVlan r (v.attach k false) with
    busy := s.busy.set k }

theorem plug_self (s : Ubr τ) (k : Pidx) (dev : Dev) (r : VlanRef) (v : UbrVlan) :
    (s.plug k dev r v).ports k = (s.ports k).init k dev (some r) :=
  s.putPort_self k _

theorem plug_other (s : Ubr τ) {j k : Pidx} {dev : Dev} {r : VlanRef} (v : UbrVlan) (other : j ≠ k) :
    (s.plug k dev r v).ports j = s.ports j :=
  s.putPort_other _ other

theorem ubrPortInit_ok {k : Pidx} {dev : Dev} :
    ubrPortInit cfg s k dev = .ok s' ↔
      ∃ r v, ubrVlanFind cfg s 0 = .ok (some r) ∧ s.heap r = some v ∧ s' = s.plug k dev r v := by
  constructor
  · intro done
    obtain ⟨found, walked, done⟩ := except_bind_eq_ok done
    obtain ⟨mid, added, done⟩ := except_bind_eq_ok done
    obtain ⟨r, v, rfl, live, rfl⟩ := ubrVlanPortAdd_ok.mp added
    cases done
    exact ⟨r, v, walked, live, rfl⟩
  · rintro ⟨r, v, walked, live, rfl⟩
    have added : ubrVlanPortAdd (s.putPort k ((s.ports k).init k dev (some r))) (some r) k false =
        .ok ((s.putPort k ((s.ports k).init k dev (some r))).putVlan r (v.attach k false)) :=
      ubrVlanPortAdd_ok.mpr ⟨r, v, rfl, live, rfl⟩
    simp only [ubrPortInit, walked]
    change (ubrVlanPortAdd _ (some r) k false >>= _) = _
    rw [added]
    rfl

theorem ubrPortInit_fault {k : Pidx} {dev : Dev} {f : Fault} (fault : ubrPortInit cfg s k dev = .error f) :
    (ubrVlanFind cfg s 0 = .ok none ∧ f = .nullDeref) ∨ f = .useAfterFree := by
  cases walked : ubrVlanFind cfg s 0 with
  | error g =>
      simp only [ubrPortInit, walked] at fault
      cases fault
      exact .inr (findInBucket_fault walked)
  | ok vlan =>
      cases vlan with
      | none =>
          simp only [ubrPortInit, walked] at fault
          cases fault
          exact .inl ⟨rfl, rfl⟩
      | some r =>
          obtain ⟨_, v, live, _⟩ := findInBucket_some walked
          rw [ubrPortInit_ok.mpr ⟨r, v, walked, live, rfl⟩] at fault
          cases fault

theorem ubrPortZero_ok {k : Pidx} : ubrPortZero s k = .ok s' ↔ k ∉ s.portRcu ∧ s' = s.putPort k {} := by
  by_cases queued : k ∈ s.portRcu
  · simp [ubrPortZero, queued]
  · simp [ubrPortZero, queued, eq_comm]

theorem ubrPortCleanupRcu_ok {k : Pidx} :
    ubrPortCleanupRcu s k = .ok s' ↔
      k ∉ s.portRcu.erase k ∧ s' = { s with portRcu := s.portRcu.erase k }.putPort k {} :=
  ubrPortZero_ok

theorem ubrPortAddAllowed_master {nd : NetDev} (allowed : ubrPortAddAllowed nd = .ok ()) :
    nd.master = none := by
  simp only [ubrPortAddAllowed] at allowed
  split at allowed
  · cases allowed
  · split at allowed
    · cases allowed
    · split at allowed
      · cases allowed
      · split at allowed
        · cases allowed
        · rename_i free
          simpa using free

theorem rxHandlerRegister_ok {env : PortAddEnv} {handler : RxHandler} {nd nd' : NetDev}
    (done : rxHandlerRegister env handler nd = .ok nd') :
    nd.rxHandler = none ∧ nd' = { nd with rxHandler := some handler } := by
  simp only [rxHandlerRegister] at done
  split at done
  · cases done
  · rename_i free
    split at done
    · cases done
    · cases done
      exact ⟨by simpa using free, rfl⟩

theorem ubrPortEnslave_error {b : Dev} {k : Pidx} {env : PortAddEnv} {nd nd' : NetDev} {e : Errno}
    (free : nd.master = none) (done : ubrPortEnslave b k env nd = (nd', .error e)) : nd' = nd := by
  simp only [ubrPortEnslave] at done
  split at done
  · cases done
    rfl
  · split at done
    · cases done
      simp [NetDev.unlink, ← free]
    · split at done
      · cases done
        simp [NetDev.unlink, NetDev.clearPromisc, ← free]
      · split at done
        · cases done
          simp [NetDev.unlink, NetDev.clearPromisc, NetDev.clearAllmulti, ← free]
        · cases done

theorem ubrPortEnslave_ok {b : Dev} {k : Pidx} {env : PortAddEnv} {nd nd' : NetDev}
    (done : ubrPortEnslave b k env nd = (nd', .ok ())) :
    nd.rxHandler = none ∧ nd' = { nd with
      master := some b
      promiscuity := nd.promiscuity + 1
      allmulti := nd.allmulti + 1
      rxHandler := some (.ubrPort b k)
      ubrPort := true } := by
  simp only [ubrPortEnslave] at done
  split at done
  · cases done
  · split at done
    · cases done
    · split at done
      · cases done
      · split at done
        · cases done
        · rename_i registered
          obtain ⟨free, rfl⟩ := rxHandlerRegister_ok registered
          cases done
          exact ⟨free, rfl⟩

/-- The bridge after a failed `ubr_port_add` has taken back slot `k`. -/
def Ubr.unplug (s : Ubr τ) (k : Pidx) : Ubr τ := { s with busy := s.busy.clear k }.putPort k {}

theorem ubrPortAdd_cases {dev : Dev} {env : PortAddEnv} {nd nd' : NetDev} {ret : Ret}
    (done : ubrPortAdd cfg s dev env nd = .ok (s', nd', ret)) :
    (s' = s ∧ nd' = nd ∧ (ubrPortAddAllowed nd = .ok () → s.busy.findFirstZero = none) ∧
      ∃ e, ret = .error e) ∨
    (∃ k r v, ubrPortAddAllowed nd = .ok () ∧ s.busy.findFirstZero = some k ∧
      ubrVlanFind cfg s 0 = .ok (some r) ∧ s.heap r = some v ∧ s' = s.plug k dev r v ∧
      ubrPortEnslave s.dev k env nd = (nd', .ok ()) ∧ ret = .ok ()) ∨
    (∃ k r v e, ubrPortAddAllowed nd = .ok () ∧ s.busy.findFirstZero = some k ∧
      ubrVlanFind cfg s 0 = .ok (some r) ∧ s.heap r = some v ∧ k ∉ s.portRcu ∧
      s' = (s.plug k dev r v).unplug k ∧ ubrPortEnslave s.dev k env nd = (nd', .error e) ∧ nd' = nd ∧
      ret = .error e) := by
  simp only [ubrPortAdd] at done
  split at done
  · rename_i refused
    cases done
    refine .inl ⟨rfl, rfl, ?_, _, rfl⟩
    intro allowed
    rw [refused] at allowed
    cases allowed
  · rename_i allowed
    have free := ubrPortAddAllowed_master allowed
    split at done
    · rename_i full
      cases done
      exact .inl ⟨rfl, rfl, fun _ => full, _, rfl⟩
    · rename_i k zero
      obtain ⟨mid, plugged, done⟩ := except_bind_eq_ok done
      obtain ⟨r, v, walked, live, rfl⟩ := ubrPortInit_ok.mp plugged
      obtain ⟨_, _, done⟩ := except_bind_eq_ok done
      split at done
      · rename_i enslaved
        cases done
        exact .inr (.inl ⟨k, r, v, allowed, zero, walked, live, rfl, enslaved, rfl⟩)
      · rename_i failed
        obtain ⟨mid, zeroed, done⟩ := except_bind_eq_ok done
        obtain ⟨idle, rfl⟩ := ubrPortZero_ok.mp zeroed
        cases done
        exact .inr (.inr ⟨k, r, v, _, allowed, zero, walked, live, idle, rfl, failed,
          ubrPortEnslave_error free failed, rfl⟩)

/-- `ubr_port_add` clears memory that a callback still needs only on its error path. -/
theorem ubrPortAdd_rcuHeadInUse {dev : Dev} {env : PortAddEnv} {nd : NetDev}
    (fault : ubrPortAdd cfg s dev env nd = .error .rcuHeadInUse) :
    ∃ k, ubrPortAddAllowed nd = .ok () ∧ s.busy.findFirstZero = some k ∧ k ∈ s.portRcu := by
  simp only [ubrPortAdd] at fault
  split at fault
  · cases fault
  · rename_i allowed
    split at fault
    · cases fault
    · rename_i k zero
      rcases except_bind_eq_error fault with unplugged | ⟨mid, plugged, fault⟩
      · rcases ubrPortInit_fault unplugged with ⟨_, other⟩ | other
        · cases other
        · cases other
      · obtain ⟨r, v, _, _, rfl⟩ := ubrPortInit_ok.mp plugged
        rcases except_bind_eq_error fault with headroom | ⟨_, _, fault⟩
        · simp only [ubrUpdateHeadroom] at headroom
          split at headroom <;> cases headroom
        · split at fault
          · cases fault
          · rcases except_bind_eq_error fault with queued | ⟨_, _, fault⟩
            · simp only [ubrPortZero] at queued
              split at queued
              · rename_i pending
                exact ⟨k, allowed, zero, pending⟩
              · cases queued
            · cases fault

/-- The bridge after `ubr_port_cleanup` on slot `k`. -/
def Ubr.vacate (s : Ubr τ) (k : Pidx) : Ubr τ :=
  { s with
    busy := s.busy.clear k
    portRcu := s.portRcu ++ [k] }

theorem ubrFromPort_ok {k : Pidx} {u : Unit} : ubrFromPort s k = .ok u ↔ (s.ports k).ingressCb.pidx = k := by
  simp only [ubrFromPort]
  split
  · simp [*]
  · simp [*]

theorem ubrPortCleanup_ok {k : Pidx} :
    ubrPortCleanup s k = .ok s' ↔
      (s.ports k).ingressCb.pidx = k ∧ k ∉ s.portRcu ∧ s' = s.vacate k := by
  constructor
  · intro done
    obtain ⟨_, owned, done⟩ := except_bind_eq_ok done
    dsimp only at done
    split at done
    · cases done
    · rename_i idle
      cases done
      exact ⟨ubrFromPort_ok.mp owned, idle, rfl⟩
  · rintro ⟨owned, idle, rfl⟩
    have follow : ubrFromPort s k = .ok () := ubrFromPort_ok.mpr owned
    simp only [ubrPortCleanup, follow]
    exact if_neg idle

theorem ubrPortDel_ok {nd nd' : NetDev} (done : ubrPortDel s nd = .ok (s', nd')) :
    ∃ b k, nd.rxHandler = some (.ubrPort b k) ∧ (s.ports k).ingressCb.pidx = k ∧ k ∉ s.portRcu ∧
      s' = s.vacate k ∧ nd'.rxHandler = none := by
  simp only [ubrPortDel] at done
  split at done
  · rename_i b k handler
    obtain ⟨mid, cleaned, done⟩ := except_bind_eq_ok done
    obtain ⟨owned, idle, rfl⟩ := ubrPortCleanup_ok.mp cleaned
    cases done
    exact ⟨b, k, handler, owned, idle, rfl, rfl⟩
  · cases done

theorem ubrPortDel_rcuHeadInUse {nd : NetDev} (fault : ubrPortDel s nd = .error .rcuHeadInUse) :
    ∃ b k, nd.rxHandler = some (.ubrPort b k) ∧ k ∈ s.portRcu := by
  simp only [ubrPortDel] at fault
  split at fault
  · rename_i b k handler
    rcases except_bind_eq_error fault with cleanup | ⟨_, _, impossible⟩
    · rcases except_bind_eq_error cleanup with stray | ⟨_, _, cleanup⟩
      · simp only [ubrFromPort] at stray
        split at stray <;> cases stray
      · dsimp only at cleanup
        split at cleanup
        · rename_i pending
          exact ⟨b, k, handler, pending⟩
        · cases cleanup
    · cases impossible
  · cases fault

end UnassumingBridge
