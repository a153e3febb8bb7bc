import UnassumingBridge.Kernel.Headroom
import UnassumingBridge.Invariants.Ports

/-! # Headroom of the slaves

Whatever slave a frame comes in on, its driver was told to leave as much room as any slave
needs for what is put in front of the frame on the way out. A slave whose slot was zeroed
behind its back is no exception: no port is added until it is gone.
-/

namespace UnassumingBridge

open Support

variable {τ : Type} {cfg : Config} {fwd : Dev → BitVec 16}

theorem le_maxShort_left (x y : BitVec 16) : x ≤ maxShort x y := by
  unfold maxShort
  split <;> bv_omega

theorem le_maxShort_right (x y : BitVec 16) : y ≤ maxShort x y := by
  unfold maxShort
  split <;> bv_omega

theorem maxShort_le {x y z : BitVec 16} : maxShort x y ≤ z ↔ x ≤ z ∧ y ≤ z := by
  unfold maxShort
  split <;> bv_omega

theorem setRxHeadroom_ok {ubr : Ubr τ} {needed : BitVec 16} {l : List Pidx} {rx rx' : Dev → Option (BitVec 16)}
    (done : setRxHeadroom ubr needed l rx = .ok rx') :
    (∀ p ∈ l, ∃ dev, (ubr.ports p).dev = some dev ∧ rx' dev = some needed) ∧
      ∀ dev, rx dev = some needed → rx' dev = some needed := by
  induction l generalizing rx with
  | nil =>
      cases done
      exact ⟨fun p inside => absurd inside List.not_mem_nil, fun _ => id⟩
  | cons p rest ih =>
      simp only [setRxHeadroom] at done
      split at done
      · cases done
      · rename_i dev plugged
        obtain ⟨reached, kept⟩ := ih done
        refine ⟨List.forall_mem_cons.mpr ⟨⟨dev, plugged, kept dev (Function.update_self ..)⟩, reached⟩,
          fun d before => ?_⟩
        apply kept
        by_cases here : d = dev
        · rw [here, Function.update_self]
        · rw [Function.update_of_ne here, before]

theorem inited_some {s : Sys τ} {e : Event} {dev : Dev} {ubr : Ubr τ} :
    s.inited cfg e = some (dev, ubr) ↔ ∃ env k r v, e = .portAdd dev env ∧ s.initSlot dev = some k ∧
      ubrVlanFind cfg s.ubr 0 = .ok (some r) ∧ s.ubr.heap r = some v ∧ ubr = s.ubr.plug k dev r v := by
  constructor
  · intro got
    cases e with
    | portAdd d env =>
        simp only [Sys.inited] at got
        split at got
        · rename_i u k allowed zero
          obtain ⟨ubr', made, same⟩ := Option.map_eq_some_iff.mp got
          cases same
          obtain ⟨r, v, found, live, plugged⟩ := ubrPortInit_ok.mp (ok_of_toOption made)
          exact ⟨env, k, r, v, rfl, initSlot_some.mpr ⟨allowed, zero⟩, found, live, plugged⟩
        · cases got
    | _ => cases got
  · rintro ⟨env, k, r, v, rfl, begun, found, live, rfl⟩
    obtain ⟨allowed, zero⟩ := initSlot_some.mp begun
    have made : ubrPortInit cfg s.ubr k dev = .ok (s.ubr.plug k dev r v) :=
      ubrPortInit_ok.mpr ⟨r, v, found, live, rfl⟩
    simp only [Sys.inited, allowed, zero, made]
    rfl

variable [Jiffies τ]

/-- A slave's slot holds the slave, unless a late cleanup has zeroed it. -/
def Sys.SlavesPlugged (s : Sys τ) : Prop :=
  ∀ dev k, s.slotOf dev = some k → ∀ d, (s.ubr.ports k).dev = some d → d = dev

namespace Sys.SlavesPlugged

theorem step {s s' : Sys τ} {e : Event} {o : Outcome} (ok : s.SlavesPlugged) (slaves : SlavesOk s)
    (enabled : s.Enabled e) (done : s.exec cfg e = .ok (s', o)) : s'.SlavesPlugged := by
  intro dev k slave d held
  rcases exec_slotOf enabled done slave with ⟨old, _⟩ | ⟨env, rfl, begun, whole⟩
  · have inUse := (slaves.slaves dev k old).1
    have before : (s.ubr.ports k).dev = some d := by
      cases (exec_effect enabled done).ports with
      | kept _ _ wiring _ => exact (wiring k).dev ▸ held
      | deleted _ _ _ _ ports => exact ports ▸ held
      | @added _ _ j _ _ begun _ _ _ ports =>
          have other : k ≠ j := fun here => initSlot_idle begun (here ▸ inUse)
          rw [ports, Function.update_of_ne other] at held
          exact held
      | @addFailed _ _ j _ _ _ _ _ _ ports | @cleaned j _ _ _ _ ports =>
          rw [ports] at held
          by_cases here : k = j
          · subst here
            simp at held
          · rwa [Function.update_of_ne here] at held
    exact ok dev k old d before
  · obtain ⟨r, v, _, _, plugged⟩ := portAdd_plug done begun whole
    rw [plugged, plug_self] at held
    exact (Option.some.inj held).symm

theorem of_reachable {s : Sys τ} (reached : Reachable (bridge τ cfg) s) : s.SlavesPlugged := by
  obtain ⟨tr, run⟩ := reached
  refine run.invariant (I := fun _ s => s.SlavesPlugged) ?_ ?_
  · intro s init dev k slave
    rw [init.2 dev] at slave
    cases slave
  · intro tr s e s' o before ok enabled _ done
    exact ok.step (.of_reachable before.reachable) enabled done

end Sys.SlavesPlugged

/-- What one event does: it is one of the bridge, and where `ubr_port_init` runs on the way
    the headroom is updated on the bridge that it leaves behind. -/
theorem headroom_exec {s s' : Headroom τ} {e : Event} {o : Outcome} (done : s.exec cfg fwd e = .ok (s', o)) :
    s.sys.exec cfg e = .ok (s'.sys, o) ∧
      ((s.sys.inited cfg e = none ∧ s'.needed = s.needed ∧ s'.rx = s.rx) ∨
        ∃ dev ubr, s.sys.inited cfg e = some (dev, ubr) ∧ s'.needed = maxShort s.needed (fwd dev) ∧
          setRxHeadroom ubr s'.needed ubr.busy.toList s.rx = .ok s'.rx) := by
  obtain ⟨⟨sys, o'⟩, executed, done⟩ := except_bind_eq_ok done
  cases found : s.sys.inited cfg e with
  | none =>
      simp only [found] at done
      cases done
      exact ⟨executed, .inl ⟨rfl, rfl, rfl⟩⟩
  | some out =>
      obtain ⟨dev, ubr⟩ := out
      simp only [found] at done
      obtain ⟨⟨needed, rx⟩, updated, done⟩ := except_bind_eq_ok done
      obtain ⟨rx', reached, updated⟩ := except_bind_eq_ok updated
      cases updated
      cases done
      exact ⟨executed, .inr ⟨dev, ubr, rfl, rfl, reached⟩⟩

/-- Every slave was told the headroom of the bridge, which is enough for it. -/
structure Roomy (cfg : Config) (fwd : Dev → BitVec 16) (s : Headroom τ) : Prop where
  reached : Reachable (bridge τ cfg) s.sys
  told : ∀ dev k, s.sys.slotOf dev = some k → s.rx dev = some s.needed ∧ fwd dev ≤ s.needed

namespace Roomy

variable {s s' : Headroom τ} {e : Event} {o : Outcome}

theorem updated {dev : Dev} {ubr : Ubr τ} (ok : Roomy cfg fwd s) (enabled : s.sys.Enabled e)
    (done : s.sys.exec cfg e = .ok (s'.sys, o)) (found : s.sys.inited cfg e = some (dev, ubr))
    (needed : s'.needed = maxShort s.needed (fwd dev))
    (reached : setRxHeadroom ubr s'.needed ubr.busy.toList s.rx = .ok s'.rx)
    {d : Dev} {k : Pidx} (slave : s'.sys.slotOf d = some k) :
    s'.rx d = some s'.needed ∧ fwd d ≤ s'.needed := by
  obtain ⟨env, j, r, v, rfl, begun, _, _, rfl⟩ := inited_some.mp found
  have all := (setRxHeadroom_ok reached).1
  rcases exec_slotOf enabled done slave with ⟨old, _⟩ | ⟨env', same, begun', _⟩
  · have inUse := ((SlavesOk.of_reachable ok.reached).slaves d k old).1
    have other : k ≠ j := fun here => initSlot_idle begun (here ▸ inUse)
    obtain ⟨d', held, set⟩ := all k (Bitmap.mem_toList.mpr (Bitmap.mem_set.mpr (.inr inUse)))
    rw [plug_other _ _ other] at held
    cases Sys.SlavesPlugged.of_reachable ok.reached d k old d' held
    refine ⟨set, ?_⟩
    rw [needed]
    exact BitVec.le_trans (ok.told d k old).2 (le_maxShort_left ..)
  · cases same
    cases begun.symm.trans begun'
    obtain ⟨d', held, set⟩ := all k (Bitmap.mem_toList.mpr (Bitmap.mem_set.mpr (.inl rfl)))
    rw [plug_self] at held
    cases held
    refine ⟨set, ?_⟩
    rw [needed]
    exact le_maxShort_right ..

theorem step (ok : Roomy cfg fwd s) (enabled : s.sys.Enabled e) (done : s.exec cfg fwd e = .ok (s', o)) :
    Roomy cfg fwd s' := by
  obtain ⟨executed, update⟩ := headroom_exec done
  refine ⟨?_, fun d k slave => ?_⟩
  · obtain ⟨tr, run⟩ := ok.reached
    exact ⟨_, run.step enabled trivial executed⟩
  · rcases update with ⟨missing, needed, rx⟩ | ⟨dev, ubr, found, needed, reached⟩
    · rcases exec_slotOf enabled executed slave with ⟨old, _⟩ | ⟨env, rfl, begun, whole⟩
      · rw [needed, rx]
        exact ok.told d k old
      · -- a device that becomes a slave went through `ubr_port_init`
        obtain ⟨r, v, found, live, _⟩ := portAdd_plug executed begun whole
        have inited := inited_some.mpr ⟨env, k, r, v, rfl, begun, found, live, rfl⟩
        rw [missing] at inited
        cases inited
    · exact ok.updated enabled executed found needed reached slave

theorem of_run {tr : List (Transition (Headroom τ) Event Outcome)}
    (run : Run (headroom τ cfg fwd) (fun _ _ => True) tr s) : Roomy cfg fwd s := by
  refine run.invariant (I := fun _ s => Roomy cfg fwd s) ?_ ?_
  · intro s init
    refine ⟨⟨[], .init init.1⟩, fun dev k slave => ?_⟩
    rw [init.1.2 dev] at slave
    cases slave
  · intro tr s e s' o _ ok enabled _ done
    exact ok.step enabled done

end Roomy

/-- Frames come in with enough headroom to leave through any slave: the driver of each was
    told the `needed_headroom` of the bridge, and that is the least bound on what was needed
    by the devices that `ubr_port_add` has got as far as updating it for, the ones that
    it failed on later included. -/
theorem rx_headroom_suffices {tr : List (Transition (Headroom τ) Event Outcome)} {s : Headroom τ}
    (run : Run (headroom τ cfg fwd) (fun _ _ => True) tr s) :
    (∀ dev k, s.sys.slotOf dev = some k → s.rx dev = some s.needed ∧
      ∀ other j, s.sys.slotOf other = some j → fwd other ≤ s.needed) ∧
    ∀ bound, (∀ t ∈ tr, ∀ out ∈ t.pre.sys.inited cfg t.event, fwd out.1 ≤ bound) ↔ s.needed ≤ bound := by
  constructor
  · have roomy := Roomy.of_run run
    exact fun dev k slave => ⟨(roomy.told dev k slave).1, fun other j slave => (roomy.told other j slave).2⟩
  · intro bound
    refine run.invariant (I := fun tr s =>
      (∀ t ∈ tr, ∀ out ∈ t.pre.sys.inited cfg t.event, fwd out.1 ≤ bound) ↔ s.needed ≤ bound) ?_ ?_
    · intro s init
      have least : (0 : BitVec 16) ≤ bound := by bv_omega
      simpa [init.2.1] using least
    · intro tr s e s' o _ ih _ _ done
      rw [List.forall_mem_cons, ih]
      rcases (headroom_exec done).2 with ⟨missing, needed, _⟩ | ⟨dev, ubr, found, needed, _⟩
      · simp [missing, needed]
      · simp [found, needed, maxShort_le, and_comm]

/-- A port with a wider header is added to one with a narrow one, and a third one cannot be
    linked: it leaves its mark all the same. -/
theorem rx_headroom_suffices_x86 : ∃ tr s,
    Run (headroom Nat x86 fun dev => if dev = 1 then 10 else if dev = 2 then 40 else 60) (fun _ _ => True) tr s ∧
      (s.needed = 60 ∧ s.rx 1 = some 60 ∧ s.rx 3 = some 60 ∧ s.sys.slotOf 3 = none) ∧
      ∀ bound, 60 ≤ bound → ∀ t ∈ tr, ∀ out ∈ t.pre.sys.inited x86 t.event,
        (if out.1 = 1 then 10 else if out.1 = 2 then 40 else 60 : BitVec 16) ≤ bound := by
  obtain ⟨tr, s, run, room⟩ := Machine.exists_run_of_play (C := fun _ _ => True)
    [.portAdd 1 {}, .portAdd 2 {}, .portAdd 3 { link := some .ebusy }]
    (M := headroom Nat x86 fun dev => if dev = 1 then 10 else if dev = 2 then 40 else 60)
    (s := ⟨booted x86, 0, fun _ => none⟩) ⟨booted_init x86, rfl, rfl⟩
    (fun _ s => decide (s.needed = 60 ∧ s.rx 1 = some 60 ∧ s.rx 3 = some 60 ∧ s.sys.slotOf 3 = none))
    (by decide +kernel)
  have room := of_decide_eq_true room
  refine ⟨tr, s, run, room, fun bound enough => ?_⟩
  exact ((rx_headroom_suffices run).2 bound).mpr (room.1 ▸ enough)

end UnassumingBridge
