import UnassumingBridge.Invariants.Ports

/-! # Deferred cleanup of port slots

`ubr_port_del` frees the index of a port at once and its slot only after a grace
period. A slot is safe from its own cleanup as long as nobody is plugged into it
in between.
-/

namespace UnassumingBridge

open Support

variable {τ : Type} {cfg : Config}

/-- The device most recently added at slot `k`. Slot 0 holds the bridge's own device
    from its creation on. -/
def lastAdded (s : Sys τ) (k : Pidx) (tr : History τ) : Option Dev :=
  (tr.findSome? (addedAt k)).or (if k = 0 then some s.ubr.dev else none)

/-- What the data path relies on in a busy slot. -/
structure InUse (tr : History τ) (s : Sys τ) (k : Pidx) : Prop where
  device : ∃ dev, (s.ubr.ports k).dev = some dev ∧ lastAdded s k tr = some dev
  index : (s.ubr.ports k).ingressCb.pidx = k
  owner : ubrFromPort s.ubr k = .ok ()

/-- The events that queue the RCU head of a slot or clear its memory. -/
def Event.OnSlots : Event → Prop
  | .portAdd .. | .portDel .. | .portCleanup .. => True
  | _ => False

variable [Jiffies τ]

private theorem dev_of_not_added {s s' : Sys τ} {e : Event} {o : Outcome} {k : Pidx} (ok : PortsOk s)
    (enabled : s.Enabled e) (done : s.exec cfg e = .ok (s', o))
    (nothing : addedAt k ⟨s, e, o, s'⟩ = none) (inUse : k ∈ s'.ubr.busy) :
    k ∈ s.ubr.busy ∧ (s'.ubr.ports k).dev = (s.ubr.ports k).dev := by
  cases (exec_effect enabled done).ports with
  | kept busy _ wiring _ => exact ⟨busy ▸ inUse, (wiring k).dev⟩
  | @added dev env j _ _ begun whole busy _ ports =>
      have other : k ≠ j := by
        intro here
        subst here
        have added := (addedAt_some done).mpr ⟨env, rfl, begun, whole⟩
        cases nothing.symm.trans added
      rw [busy] at inUse
      rw [ports, Function.update_of_ne other]
      exact ⟨(Bitmap.mem_set.mp inUse).resolve_left other, rfl⟩
  | @addFailed dev env j _ begun _ _ busy _ ports =>
      rw [busy] at inUse
      have other : k ≠ j := fun here => initSlot_idle begun (here ▸ inUse)
      rw [ports, Function.update_of_ne other]
      exact ⟨inUse, rfl⟩
  | deleted _ _ busy _ ports =>
      rw [busy] at inUse
      rw [ports]
      exact ⟨(Bitmap.mem_clear.mp inUse).2, rfl⟩
  | @cleaned j _ queued busy _ ports =>
      rw [busy] at inUse
      have other : k ≠ j := fun here => ok.pendingIdle j queued (here ▸ inUse)
      rw [ports, Function.update_of_ne other]
      exact ⟨inUse, rfl⟩

private theorem dev_step {s s' : Sys τ} {e : Event} {o : Outcome} {tr : History τ} (ok : PortsOk s)
    (known : ∀ k ∈ s.ubr.busy, (s.ubr.ports k).dev = lastAdded s k tr) (enabled : s.Enabled e)
    (done : s.exec cfg e = .ok (s', o)) (k : Pidx) (inUse : k ∈ s'.ubr.busy) :
    (s'.ubr.ports k).dev = lastAdded s' k (⟨s, e, o, s'⟩ :: tr) := by
  have sameBridge := (exec_effect enabled done).dev
  cases added : addedAt k ⟨s, e, o, s'⟩ with
  | some dev =>
      obtain ⟨env, rfl, begun, whole⟩ := (addedAt_some done).mp added
      obtain ⟨r, v, _, _, plugged⟩ := portAdd_plug done begun whole
      simp [lastAdded, added, plugged, Ubr.plug, Ubr.putPort, Ubr.putVlan, UbrPort.init]
  | none =>
      obtain ⟨before, kept⟩ := dev_of_not_added ok enabled done added inUse
      rw [kept, known k before]
      simp [lastAdded, added, sameBridge]

private theorem dev_of_run {C : Sys τ → Event → Prop} (safe : ∀ s e, C s e → s.AddsOntoIdle e)
    {tr : History τ} {s : Sys τ} (run : Run (bridge τ cfg) C tr s) :
    ∀ k ∈ s.ubr.busy, (s.ubr.ports k).dev = lastAdded s k tr := by
  refine run.invariant (I := fun tr s => ∀ k ∈ s.ubr.busy, (s.ubr.ports k).dev = lastAdded s k tr) ?_ ?_
  · intro s init k inUse
    obtain ⟨dev, devAddr, same⟩ := init_ubr init
    rw [same, fresh_busy] at inUse
    subst inUse
    rw [same, fresh_port]
    simp [lastAdded, same, freshUbr, linkedUbr, Ubr.plug, Ubr.putVlan, Ubr.putPort, Ubr.addVlan,
      zeroedUbr, UbrPort.init]
  · intro tr s e s' o before known enabled _ done
    exact dev_step (.of_run safe before) known enabled done

/-- No port event touches an RCU head that is still queued. -/
theorem rcuHead_free {s : Sys τ} {e : Event} (ok : PortsOk s) (slaves : SlavesOk s) (onSlots : e.OnSlots)
    (enabled : s.Enabled e)
    (safe : s.AddsOntoIdle e) : s.exec cfg e ≠ .error .rcuHeadInUse := by
  intro fault
  cases e with
  | portAdd dev env =>
      rcases except_bind_eq_error fault with broken | ⟨_, _, impossible⟩
      · obtain ⟨k, allowed, zero, pending⟩ := ubrPortAdd_rcuHeadInUse broken
        exact safe k (initSlot_some.mpr ⟨allowed, zero⟩) pending
      · cases impossible
  | portDel dev =>
      obtain ⟨k, slave⟩ := Option.isSome_iff_exists.mp enabled
      rcases except_bind_eq_error fault with broken | ⟨_, _, impossible⟩
      · obtain ⟨b, j, handler, pending⟩ := ubrPortDel_rcuHeadInUse broken
        have same := (slotOf_some.mp slave).symm.trans handler
        cases same
        exact ok.pendingIdle k pending (slaves.slaves dev k slave).1
      · cases impossible
  | portCleanup k =>
      rcases except_bind_eq_error fault with broken | ⟨_, _, impossible⟩
      · simp only [ubrPortCleanupRcu, ubrPortZero] at broken
        split at broken
        · rename_i twice
          exact ok.pendingOnce.not_mem_erase twice
        · cases broken
      · cases impossible
  | _ => exact onSlots

/-- While ports are plugged into clean slots only, no callback clears a slot in use or finds its RCU head taken. -/
theorem cleanup_spares_busy_ports {tr : History τ} {s : Sys τ}
    (run : Run (bridge τ cfg) Sys.AddsOntoIdle tr s) :
    (∀ k ∈ s.ubr.busy, InUse tr s k) ∧
      ∀ e : Event, e.OnSlots → s.Enabled e → s.AddsOntoIdle e → s.exec cfg e ≠ .error .rcuHeadInUse := by
  have ok : PortsOk s := .of_run (fun _ _ safe => safe) run
  refine ⟨?_, fun e onSlots enabled safe => rcuHead_free ok (.of_reachable run.reachable) onSlots enabled safe⟩
  intro k inUse
  have plugged := ok.served k inUse
  have index := (slotOk_of_reachable run.reachable k).pidx plugged
  obtain ⟨dev, device⟩ := Option.isSome_iff_exists.mp plugged
  have known := dev_of_run (fun _ _ safe => safe) run k inUse
  exact ⟨⟨dev, device, known.symm.trans device⟩, index, ubrFromPort_ok.mpr index⟩

/-- A slot that is used again after its cleanup has run. -/
theorem cleanup_spares_busy_ports_x86 :
    ∃ tr s, Run (bridge Nat x86) Sys.AddsOntoIdle tr s ∧ 1 ∈ s.ubr.busy ∧
      (∀ k ∈ s.ubr.busy, InUse tr s k) ∧
      ∀ e : Event, e.OnSlots → s.Enabled e → s.AddsOntoIdle e → s.exec x86 e ≠ .error .rcuHeadInUse := by
  obtain ⟨tr, s, run, busy⟩ := run_booted x86 Sys.AddsOntoIdle
    [.portAdd 1 {}, .portDel 1, .portCleanup 1, .portAdd 2 {}] (fun _ s => decide (1 ∈ s.ubr.busy)) (by decide +kernel)
  exact ⟨tr, s, run, of_decide_eq_true busy, cleanup_spares_busy_ports run⟩

/-- The index is free before the slot is: here the cleanup of the first device's slot
    runs when the second device is already in it. -/
theorem cleanup_hits_busy_port :
    ¬ ∀ tr s, Run (bridge Nat x86) (fun _ _ => True) tr s → ∀ k ∈ s.ubr.busy, InUse tr s k := by
  intro claim
  obtain ⟨tr, s, run, test⟩ := run_booted x86 (fun _ _ => True)
    [.portAdd 1 {}, .portDel 1, .portAdd 2 {}, .portCleanup 1]
    (fun _ s => decide (1 ∈ s.ubr.busy ∧ (s.ubr.ports 1).dev = none)) (by decide +kernel)
  obtain ⟨busy, empty⟩ := of_decide_eq_true test
  obtain ⟨dev, device, _⟩ := (claim tr s run 1 busy).device
  rw [empty] at device
  cases device

end UnassumingBridge
