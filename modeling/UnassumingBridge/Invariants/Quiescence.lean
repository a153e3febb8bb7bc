import UnassumingBridge.Effects.Teardown
import UnassumingBridge.Invariants.Ports

/-! # No frame of a slave outlives the loop of `ubr_dev_dellink`

The loop looks at the busy bits and follows the device pointers in the slots; that it
reaches every slave is an invariant of the port table. Once it is through, the only
frames in flight are the host's.
-/

namespace UnassumingBridge

open Support

variable {τ : Type} {cfg : Config}

/-- A busy slot with a device is the slot of that slave. -/
def Owned (s : Sys τ) : Prop :=
  ∀ k ∈ s.ubr.busy, k ≠ 0 → ∀ dev, (s.ubr.ports k).dev = some dev → s.slotOf dev = some k

section Sys

variable [Jiffies τ] {s s' : Sys τ} {e : Event} {o : Outcome} {dev : Dev} {k : Pidx}

theorem portAdd_slotOf {env : PortAddEnv} (done : s.exec cfg (.portAdd dev env) = .ok (s', o))
    (begun : s.initSlot dev = some k) (whole : s.completes dev env k = true) : s'.slotOf dev = some k := by
  obtain ⟨⟨u, nd, ret⟩, added, done⟩ := except_bind_eq_ok done
  cases done
  obtain ⟨allowed, zero⟩ := initSlot_some.mp begun
  rcases ubrPortAdd_cases added with
    ⟨_, _, refused, _⟩ | ⟨j, r, v, _, zero', _, _, rfl, enslaved, _⟩ | ⟨j, r, v, e, _, zero', _, _, _, _, failed, _⟩
  · rw [refused allowed] at zero
    cases zero
  · cases zero.symm.trans zero'
    obtain ⟨_, rfl⟩ := ubrPortEnslave_ok enslaved
    apply slotOf_some.mpr
    simp [Sys.setDev, Ubr.plug, Ubr.putPort, Ubr.putVlan]
  · cases zero.symm.trans zero'
    simp [Sys.completes, failed, Except.toBool] at whole

omit [Jiffies τ] in
private theorem setDev_slotOf {u : Ubr τ} {d : Dev} {nd : NetDev} (kept : u.dev = s.ubr.dev)
    (same : d = dev → nd.rxHandler = (s.devs dev).rxHandler) (slave : s.slotOf dev = some k) :
    ({ s with ubr := u }.setDev d nd).slotOf dev = some k := by
  apply slotOf_some.mpr
  have handler := slotOf_some.mp slave
  by_cases here : dev = d
  · subst here
    simpa [Sys.setDev, kept] using (same rfl).trans handler
  · simpa [Sys.setDev, here, kept] using handler

theorem slave_stays (enabled : s.Enabled e) (done : s.exec cfg e = .ok (s', o)) (slave : s.slotOf dev = some k)
    (notDel : e ≠ .portDel dev) : s'.slotOf dev = some k := by
  have kept := (exec_effect enabled done).dev
  have handler := slotOf_some.mp slave
  cases exec_around done with
  | still devs =>
      apply slotOf_some.mpr
      rw [devs, kept, handler]
  | ticked only =>
      subst only
      exact slave
  | @device _ d onDevice _ =>
      cases e with
      | devChange d nd =>
          cases done
          change ({ s with ubr := s.ubr }.setDev d nd).slotOf dev = some k
          refine setDev_slotOf rfl (fun here => ?_) slave
          have loose := enabled.1
          rw [here, slave] at loose
          cases loose
      | portDel d =>
          obtain ⟨⟨u, nd⟩, deleted, done⟩ := except_bind_eq_ok done
          cases done
          refine setDev_slotOf kept (fun here => ?_) slave
          exact absurd (by rw [here]) notDel
      | portAdd d env =>
          obtain ⟨⟨u, nd, ret⟩, added, done⟩ := except_bind_eq_ok done
          cases done
          refine setDev_slotOf kept (fun here => ?_) slave
          subst here
          rcases ubrPortAdd_cases added with
            ⟨_, rfl, _⟩ | ⟨_, _, _, _, _, _, _, _, enslaved, _⟩ | ⟨_, _, _, _, _, _, _, _, _, _, _, rfl, _⟩
          · rfl
          · have free := (ubrPortEnslave_ok enslaved).1
            rw [handler] at free
            cases free
          · rfl
      | _ => exact onDevice.elim

theorem portDel_vacates (done : s.exec cfg (.portDel dev) = .ok (s', o)) (slave : s.slotOf dev = some k) :
    s'.ubr = s.ubr.vacate k := by
  obtain ⟨⟨u, nd⟩, deleted, done⟩ := except_bind_eq_ok done
  obtain ⟨b, j, handler, _, _, rfl, _⟩ := ubrPortDel_ok deleted
  cases done
  cases (slotOf_some.mp slave).symm.trans handler
  rfl

theorem Owned.step (owned : Owned s) (enabled : s.Enabled e) (done : s.exec cfg e = .ok (s', o)) : Owned s' := by
  intro k inUse notHost dev plugged
  have before : (∀ d, e ≠ .portDel d) → k ∈ s.ubr.busy → (s.ubr.ports k).dev = some dev → s'.slotOf dev = some k :=
    fun stays inUse plugged => slave_stays enabled done (owned k inUse notHost dev plugged) (stays dev)
  have effect := (exec_effect enabled done).ports
  cases e with
  | portDel d =>
      obtain ⟨j, slave⟩ := Option.isSome_iff_exists.mp enabled
      rw [portDel_vacates done slave] at inUse plugged
      obtain ⟨other, inUse⟩ := Bitmap.mem_clear.mp inUse
      have old := owned k inUse notHost dev plugged
      refine slave_stays enabled done old fun same => ?_
      cases same
      exact other (Option.some.inj (old.symm.trans slave))
  | portAdd d env =>
      generalize table : s'.ubr = u at effect
      rw [table] at inUse plugged
      cases effect with
      | kept busy _ wiring _ => exact before (by simp) (busy ▸ inUse) ((wiring k).dev ▸ plugged)
      | @added _ _ j r _ begun whole busy _ ports =>
          rw [ports] at plugged
          by_cases here : k = j
          · subst here
            simp only [Function.update_self, UbrPort.init, Option.some.injEq] at plugged
            exact plugged ▸ portAdd_slotOf done begun whole
          · rw [Function.update_of_ne here] at plugged
            rw [busy] at inUse
            exact before (by simp) ((Bitmap.mem_set.mp inUse).resolve_left here) plugged
      | @addFailed _ _ j _ begun _ _ busy _ ports =>
          rw [busy] at inUse
          have here : k ≠ j := fun same => initSlot_idle begun (same ▸ inUse)
          rw [ports, Function.update_of_ne here] at plugged
          exact before (by simp) inUse plugged
  | portCleanup j =>
      generalize table : s'.ubr = u at effect
      rw [table] at inUse plugged
      cases effect with
      | kept busy _ wiring _ => exact before (by simp) (busy ▸ inUse) ((wiring k).dev ▸ plugged)
      | cleaned _ busy _ ports =>
          rw [ports] at plugged
          by_cases here : k = j
          · subst here
            simp at plugged
          · rw [Function.update_of_ne here] at plugged
            exact before (by simp) (busy ▸ inUse) plugged
  | _ =>
      generalize table : s'.ubr = u at effect
      rw [table] at inUse plugged
      cases effect with
      | kept busy _ wiring _ => exact before (by simp) (busy ▸ inUse) ((wiring k).dev ▸ plugged)

end Sys

/-- Where the loop of `ubr_dev_dellink` may still find a slave. -/
def Phase.ahead : Phase → Pidx → Prop
  | .up, _ => True
  | .removing rest, k => k ∈ rest
  | _, _ => False

/-- What holds while a bridge is torn down: a frame in flight is from a slave or from the host,
    and the loop has still to come to every slave. -/
structure Quiesced (s : Teardown τ) : Prop where
  slaves : SlavesOk s.sys
  owned : Owned s.sys
  sources : ∀ f ∈ s.flight, ∀ dev, f.source = some dev → (s.sys.slotOf dev).isSome
  ahead : ∀ dev k, s.sys.slotOf dev = some k → s.phase.ahead k

theorem laterSlaves_nil {s : Ubr τ} {rest : List Pidx} (none : s.laterSlaves rest = []) {k : Pidx}
    (inside : k ∈ rest) (inUse : k ∈ s.busy) : k = 0 := by
  induction rest with
  | nil => cases inside
  | cons j rest ih =>
      simp only [Ubr.laterSlaves, List.dropWhile_cons] at none
      split at none
      · rename_i passed
        rcases List.mem_cons.mp inside with rfl | inside
        · simpa [inUse] using passed
        · exact ih none inside
      · cases none

theorem laterSlaves_cons {s : Ubr τ} {rest later : List Pidx} {pidx : Pidx}
    (next : s.laterSlaves rest = pidx :: later) :
    (pidx ∈ s.busy ∧ pidx ≠ 0) ∧ ∀ k ∈ rest, k ∈ s.busy → k ≠ 0 → k = pidx ∨ k ∈ later := by
  induction rest with
  | nil => cases next
  | cons j rest ih =>
      simp only [Ubr.laterSlaves, List.dropWhile_cons] at next
      split at next
      · rename_i passed
        obtain ⟨first, others⟩ := ih next
        refine ⟨first, fun k inside inUse notHost => ?_⟩
        rcases List.mem_cons.mp inside with rfl | inside
        · simp [inUse, notHost] at passed
        · exact others k inside inUse notHost
      · rename_i stops
        cases next
        refine ⟨by simpa using stops, fun k inside _ _ => List.mem_cons.mp inside⟩

namespace Quiesced

variable {s s' : Teardown τ}

theorem frames (ok : Quiesced s) (devs : s'.sys.devs = s.sys.devs) {fdb : UbrFdb τ}
    (ubr : s'.sys.ubr = { s.sys.ubr with fdb })
    (sources : ∀ f ∈ s'.flight, ∀ dev, f.source = some dev → (s.sys.slotOf dev).isSome)
    (ahead : ∀ dev k, s.sys.slotOf dev = some k → s'.phase.ahead k) : Quiesced s' := by
  have same (dev : Dev) : s'.sys.slotOf dev = s.sys.slotOf dev := by
    simp only [Sys.slotOf, devs, ubr]
  refine ⟨⟨?_, fun dev k slave => ?_, fun d e k first second => ?_⟩, ?_, ?_, ?_⟩
  · rw [ubr]
    exact ok.slaves.host
  · rw [same] at slave
    rw [ubr]
    exact ok.slaves.slaves dev k slave
  · rw [same] at first second
    exact ok.slaves.apart d e k first second
  · intro k inUse notHost dev plugged
    rw [ubr] at inUse plugged
    rw [same]
    exact ok.owned k inUse notHost dev plugged
  · intro f inside dev source
    rw [same]
    exact sources f inside dev source
  · intro dev k slave
    rw [same] at slave
    exact ahead dev k slave

variable [Jiffies τ]

/-- The bridge is configured while no frame of a device that goes is in flight. -/
theorem configured (ok : Quiesced s) {e : Event} {sys : Sys τ} {out : Outcome} (enabled : s.sys.Enabled e)
    (quiet : ∀ dev, e = .portDel dev → s.Quiet (some dev)) (done : s.sys.exec cfg e = .ok (sys, out))
    (same : s'.sys = sys) (flight : s'.flight = s.flight)
    (ahead : ∀ dev k, sys.slotOf dev = some k → s'.phase.ahead k) : Quiesced s' := by
  subst same
  refine ⟨ok.slaves.step enabled done, ok.owned.step enabled done, ?_, ahead⟩
  intro f inside dev source
  rw [flight] at inside
  obtain ⟨k, slave⟩ := Option.isSome_iff_exists.mp (ok.sources f inside dev source)
  have stays := slave_stays enabled done slave fun same => quiet dev same f inside source
  rw [stays]
  rfl

theorem step (ok : Quiesced s) {e : TeardownEvent} {handled : List FdbHandling} (move : Move cfg s e s' handled) :
    Quiesced s' := by
  have changed {i : Nat} {f g : InFlight} (here : s.flight[i]? = some f) (source : g.source = f.source) :
      ∀ h ∈ s.flight.set i g, ∀ dev, h.source = some dev → (s.sys.slotOf dev).isSome := by
    intro h inside dev from_
    rcases List.mem_or_eq_of_mem_set inside with old | rfl
    · exact ok.sources h old dev from_
    · exact ok.sources f (List.mem_of_getElem? here) dev (source ▸ from_)
  cases move with
  | @around e sys out enabled free done =>
      refine ok.configured enabled (fun dev same => ?_) done rfl rfl fun dev k slave => ?_
      · subst same
        exact free.2
      · rcases exec_slotOf enabled done slave with ⟨old, _⟩ | ⟨env, rfl, _⟩
        · exact ok.ahead dev k old
        · have up : s.phase = .up := free
          simp only [up, Phase.ahead]
  | handed => exact ok
  | @arrived _ f _ slave =>
      refine ok.frames rfl rfl (fun g inside dev source => ?_) ok.ahead
      rcases List.mem_append.mp inside with old | new
      · exact ok.sources g old dev source
      · cases List.mem_singleton.mp new
        exact slave dev source
  | learn here => exact ok.frames rfl rfl (changed here rfl) ok.ahead
  | pass here => exact ok.frames rfl rfl (changed here rfl) ok.ahead
  | insert here => exact ok.frames rfl rfl (changed here rfl) ok.ahead
  | look here => exact ok.frames rfl rfl (changed here rfl) ok.ahead
  | leave => exact ok.frames rfl rfl (fun g inside => ok.sources g (List.mem_of_mem_eraseIdx inside)) ok.ahead
  | age => exact ok.frames rfl rfl ok.sources ok.ahead
  | nodeFree => exact ok.frames rfl rfl ok.sources ok.ahead
  | enter => exact ok.frames rfl rfl ok.sources fun dev k _ => List.mem_finRange k
  | @remove rest pidx later dev ubr nd phase next plugged quiet deleted =>
      obtain ⟨⟨inUse, notHost⟩, others⟩ := laterSlaves_cons next
      have slave := ok.owned pidx inUse notHost dev plugged
      have enabled : s.sys.Enabled (.portDel dev) := by
        simp only [Sys.Enabled, slave, Option.isSome_some]
      have done : s.sys.exec cfg (.portDel dev) = .ok ({ s.sys with ubr }.setDev dev nd, {}) := by
        simp only [Sys.exec, deleted]
        rfl
      refine ok.configured enabled (fun d same => ?_) done rfl rfl fun d k stays => ?_
      · cases same
        exact quiet
      · rcases exec_slotOf enabled done stays with ⟨old, notDel⟩ | ⟨env, impossible, _⟩
        · have before := ok.ahead d k old
          simp only [phase, Phase.ahead] at before
          obtain ⟨inUse, notHost⟩ := ok.slaves.slaves d k old
          refine (others k before inUse notHost).resolve_left fun same => ?_
          subst same
          exact notDel (by rw [ok.slaves.apart d dev k old slave])
        · cases impossible
  | @cancel rest phase next =>
      refine ok.frames rfl rfl ok.sources fun dev k slave => ?_
      have before := ok.ahead dev k slave
      simp only [phase, Phase.ahead] at before
      obtain ⟨inUse, notHost⟩ := ok.slaves.slaves dev k slave
      exact notHost (laterSlaves_nil next before inUse)
  | flush phase | destroy phase | queue phase | close phase =>
      refine ok.frames rfl rfl ok.sources fun dev k slave => ?_
      have before := ok.ahead dev k slave
      simp only [phase, Phase.ahead] at before

theorem init (start : s.Init cfg) : Quiesced s := by
  obtain ⟨start, _, flight, phase⟩ := start
  have foreign (dev : Dev) (k : Pidx) : s.sys.slotOf dev ≠ some k := by
    rw [start.2 dev]
    exact nofun
  obtain ⟨dev, devAddr, fresh⟩ := init_ubr start
  refine ⟨.of_reachable ⟨[], .init start⟩, fun k inUse notHost => ?_, ?_, fun dev k slave => ?_⟩
  · rw [fresh, fresh_busy] at inUse
    exact absurd inUse notHost
  · rw [flight]
    exact fun f inside => absurd inside List.not_mem_nil
  · exact absurd slave (foreign dev k)

theorem of_run {C : Teardown τ → TeardownEvent → Prop} {tr} (run : Run (teardown τ cfg) C tr s) : Quiesced s :=
  run.invariant (I := fun _ s => Quiesced s) (fun _ => init) fun _ _ _ _ _ _ ok enabled _ done =>
    ok.step (exec_move enabled done)

omit [Jiffies τ] in
/-- Behind the loop the frames in flight are the host's. -/
theorem host_only (ok : Quiesced s) (behind : s.phase.ageing = false) {f : InFlight} (inside : f ∈ s.flight) :
    f.source = none := by
  cases source : f.source with
  | none => rfl
  | some dev =>
      obtain ⟨k, slave⟩ := Option.isSome_iff_exists.mp (ok.sources f inside dev source)
      have ahead := ok.ahead dev k slave
      cases phase : s.phase with
      | up | removing => simp [phase, Phase.ageing] at behind
      | _ => simp [phase, Phase.ahead] at ahead

end Quiesced
end UnassumingBridge
