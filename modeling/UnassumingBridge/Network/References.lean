import UnassumingBridge.Effects.Genl
import UnassumingBridge.Effects.Network

/-! # References on devices

A device cannot be unregistered while somebody holds a reference on it. The handlers
drop what they have taken, except for the one that sets up a port: each time it has
found the port's device, it keeps a reference on it.
-/

namespace UnassumingBridge

open Support

variable {τ : Type} {cfg : Config}

/-- The device on which an event leaves a reference behind. -/
def Net.leaves (net : Net τ) : NetEvent → Option Dev
  | .request _ req => net.leak req
  | _ => none

/-- Nobody waits for the handlers to unregister a device. -/
def Net.Released (net : Net τ) : Prop := ∀ dev, net.refs dev = 0

section Steps

variable [Jiffies τ] {net net' : Net τ} {o : Outcome}

theorem onBridge_refs {bridge : Dev} {e : Event} (done : net.onBridge cfg bridge e = .ok (net', o)) :
    net'.refs = net.refs := by
  unfold Net.onBridge at done
  split at done
  · cases done
  · obtain ⟨_, _, done⟩ := except_bind_eq_ok done
    cases done
    rfl

theorem unregister_refs {dev : Dev} (done : net.unregister cfg dev = .ok (net', o)) : net'.refs = net.refs := by
  obtain ⟨⟨mid, _⟩, noticed, done⟩ := except_bind_eq_ok done
  cases done
  change mid.refs = net.refs
  unfold ubrDeviceEvent at noticed
  split at noticed
  · cases noticed
    rfl
  · split at noticed
    · exact onBridge_refs noticed
    · cases noticed

theorem genlRcvMsg_refs {admin : Bool} {req : Request} {ret : Ret}
    (done : genlRcvMsg cfg net admin req = .ok (net', ret)) : net'.refs = (net.held (net.leak req)).refs := by
  rcases genlRcvMsg_ok done with ⟨rfl, _⟩ | ⟨_, _, _, _, _, _, _, rfl⟩
  · rfl
  · rfl

theorem exec_refs {e : NetEvent} (done : net.exec cfg e = .ok (net', o)) :
    net'.refs = (net.held (net.leaves e)).refs := by
  cases e with
  | newlink ifindex devAddr env =>
      obtain ⟨out, _, done⟩ := except_bind_eq_ok done
      cases out with
      | error e =>
          cases done
          rfl
      | ok ubr =>
          cases done
          rfl
  | appear | tick | devChange | counted =>
      cases done
      rfl
  | addSlave | delSlave | xmit | age | portCleanup | vlanFree => exact onBridge_refs done
  | rx dev skb env =>
      simp only [Net.exec] at done
      split at done
      · exact onBridge_refs done
      · cases done
        rfl
  | unregister dev => exact unregister_refs done
  | dellink bridge =>
      obtain ⟨mid, linked, done⟩ := except_bind_eq_ok done
      rw [unregister_refs done]
      unfold ubrDevDellink at linked
      split at linked
      · cases linked
      · obtain ⟨_, _, linked⟩ := except_bind_eq_ok linked
        cases linked
        rfl
  | request admin req =>
      obtain ⟨⟨mid, ret⟩, handled, done⟩ := except_bind_eq_ok done
      cases done
      exact genlRcvMsg_refs handled

end Steps

section Runs

variable [Jiffies τ] {C : Net τ → NetEvent → Prop} {tr : List (Transition (Net τ) NetEvent Outcome)} {net : Net τ}

/-- The references on a device are the requests that have left one. -/
theorem refs_eq_count (run : Run (bridges τ cfg) C tr net) (dev : Dev) :
    net.refs dev = (tr.countP fun t => t.pre.leaves t.event = some dev : Nat) := by
  induction run with
  | init init =>
      rw [init.refs]
      rfl
  | @step tr s e s' r _ _ _ done ih =>
      have refs : s'.refs = (s.held (s.leaves e)).refs := exec_refs done
      rw [refs, List.countP_cons]
      cases left : s.leaves e with
      | none => simp [Net.held, ih]
      | some d =>
          by_cases same : d = dev
          · subst same
            simp [Net.held, Net.hold, ih]
          · simp [Net.held, Net.hold, ih, same, Function.update_of_ne (Ne.symm same)]

/-- All references are dropped as long as no request to set up a port has found its device. -/
theorem references_released_iff (run : Run (bridges τ cfg) C tr net) :
    net.Released ↔ ∀ t ∈ tr, t.pre.leaves t.event = none := by
  have count := refs_eq_count run
  constructor
  · intro released t taken
    by_contra leaking
    obtain ⟨dev, left⟩ := Option.ne_none_iff_exists'.mp leaking
    have none_left : (tr.countP fun t => t.pre.leaves t.event = some dev : Nat) = 0 := by
      have zero := (count dev).symm.trans (released dev)
      omega
    exact List.countP_eq_zero.mp none_left t taken (by simpa using left)
  · intro clean dev
    rw [count dev, List.countP_eq_zero.mpr]
    · rfl
    · intro t taken
      simp [clean t taken]

end Runs

/-- A new bridge with one port. -/
def onePort : List NetEvent := [.newlink 1000 0x02ed00000001 {}, .addSlave 1000 1 {}]

/-- A VLAN is added to the bridge, which needs no device. -/
theorem references_released_x86 :
    ∃ tr net, Run (bridges Nat x86) (fun _ _ => True) tr net ∧ tr.length = 3 ∧
      (∀ t ∈ tr, t.pre.leaves t.event = none) ∧ net.Released := by
  obtain ⟨tr, net, run, test⟩ := run_loaded x86 (fun _ _ => True)
    (onePort ++ [.request true ⟨.vlanAdd, { ifindex := some 1000, vlan := some (.ok { vid := some 5 }) }, false⟩])
    (fun tr _ => tr.length == 3 && tr.all fun t => t.pre.leaves t.event == none) (by decide +kernel)
  simp only [Bool.and_eq_true, beq_iff_eq, List.all_eq_true] at test
  obtain ⟨length, clean⟩ := test
  exact ⟨tr, net, run, length, clean, (references_released_iff run).mpr clean⟩

/-- The port's PVID is set. -/
theorem port_reference_leaks :
    ¬ ∀ tr net, Run (bridges Nat x86) (fun _ _ => True) tr net → net.Released := by
  intro claim
  obtain ⟨tr, net, run, test⟩ := run_loaded x86 (fun _ _ => True)
    (onePort ++ [.request true ⟨.portSet,
      { ifindex := some 1000, port := some (.ok { ifindex := some 1, pvid := some 5 }) }, false⟩])
    (fun _ net => net.refs 1 == 1) (by decide +kernel)
  have held : net.refs 1 = 1 := by simpa using test
  rw [claim tr net run 1] at held
  cases held

end UnassumingBridge
