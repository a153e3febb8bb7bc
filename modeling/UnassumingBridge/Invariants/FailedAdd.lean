import UnassumingBridge.Invariants.Ports

/-! # A port that could not be added

`ubr_port_init` writes to a slot, to the object of VLAN 0 and to the busy bits before
anything can fail. The labels at the end of `ubr_port_add` take the slot and the busy
bit back, and the bit in VLAN 0 stays.
-/

namespace UnassumingBridge

open Support

variable {τ : Type} {cfg : Config}

/-- A slot that is neither in use nor waiting for its cleanup is zeroed. -/
theorem unused_zeroed [Jiffies τ] {s : Sys τ} (reached : Reachable (bridge τ cfg) s) {k : Pidx}
    (unused : k ∉ s.ubr.busy) (idle : k ∉ s.ubr.portRcu) : s.ubr.ports k = {} := by
  refine reached.invariant
    (I := fun s => ∀ k, k ∉ s.ubr.busy → k ∉ s.ubr.portRcu → s.ubr.ports k = {}) ?_ ?_ k unused idle
  · intro s init j unused _
    obtain ⟨dev, devAddr, same⟩ := init_ubr init
    rw [same, fresh_busy] at unused
    rw [same, fresh_port, if_neg unused]
  · intro s e s' o zeroed enabled done j unused idle
    have written (k : Pidx) (p : UbrPort) (here : j = k → p = {}) (before : j ≠ k → s.ubr.ports j = {}) :
        Function.update s.ubr.ports k p j = {} := by
      by_cases same : j = k
      · rw [same, Function.update_self, here same]
      · rw [Function.update_of_ne same, before same]
    cases (exec_effect enabled done).ports with
    | kept busy rcu _ kept =>
        rw [busy] at unused
        rw [rcu] at idle
        rw [kept j unused, zeroed j unused idle]
    | added _ _ busy rcu ports =>
        rw [busy, Bitmap.mem_set, not_or] at unused
        rw [rcu] at idle
        rw [ports]
        exact written _ _ (fun here => absurd here unused.1) fun _ => zeroed j unused.2 idle
    | addFailed _ _ _ busy rcu ports =>
        rw [busy] at unused
        rw [rcu] at idle
        rw [ports]
        exact written _ _ (fun _ => rfl) fun _ => zeroed j unused idle
    | @deleted dev k _ slave _ busy rcu ports =>
        rw [busy, Bitmap.mem_clear] at unused
        rw [rcu] at idle
        have other : j ≠ k := fun here => idle (by simp [here])
        rw [ports]
        exact zeroed j (fun busy => unused ⟨other, busy⟩) fun queued => idle (List.mem_append_left _ queued)
    | cleaned queued busy rcu ports =>
        rw [busy] at unused
        rw [rcu] at idle
        rw [ports]
        refine written _ _ (fun _ => rfl) fun other => zeroed j unused fun waits => idle ?_
        exact (List.mem_erase_of_ne other).mpr waits

/-- One of the steps of `ubr_port_add` fails. -/
def Sys.addFails (s : Sys τ) (dev : Dev) (env : PortAddEnv) : Prop :=
  s.initSlot dev = none ∨ ∃ k, s.initSlot dev = some k ∧ s.completes dev env k = false

/-- What a call that fails must leave alone. -/
structure Untouched (s s' : Sys τ) (dev : Dev) : Prop where
  busy : s'.ubr.busy = s.ubr.busy
  ports : s'.ubr.ports = s.ubr.ports
  vlans : ∀ r, (s'.ubr.heap r).map (fun v => (v.members, v.tagged)) = (s.ubr.heap r).map fun v => (v.members, v.tagged)
  master : (s'.devs dev).master = (s.devs dev).master
  promiscuity : (s'.devs dev).promiscuity = (s.devs dev).promiscuity
  allmulti : (s'.devs dev).allmulti = (s.devs dev).allmulti

theorem Untouched.refl (s : Sys τ) (dev : Dev) : Untouched s s dev := ⟨rfl, rfl, fun _ => rfl, rfl, rfl, rfl⟩

/-- The slot that was taken can be given back: it was ready for use and in VLAN 0 before. -/
structure Undoable (cfg : Config) (s : Sys τ) (k : Pidx) : Prop where
  idle : k ∉ s.ubr.portRcu
  devices : ∀ j ∈ s.ubr.busy, (s.ubr.ports j).dev.isSome
  member : ∃ r v, ubrVlanFind cfg s.ubr 0 = .ok (some r) ∧ s.ubr.heap r = some v ∧ k ∈ v.members

section Failure

variable {s s' : Ubr τ} {dev : Dev} {env : PortAddEnv} {nd nd' : NetDev} {k : Pidx} {e : Errno}

theorem ubrUpdateHeadroom_ok : ubrUpdateHeadroom s = .ok () ↔ ∀ j ∈ s.busy, (s.ports j).dev.isSome := by
  unfold ubrUpdateHeadroom
  split
  · rename_i all
    simpa using all
  · rename_i some
    simpa using some

theorem ubrPortAdd_failed_ok {ret : Ret} (allowed : ubrPortAddAllowed nd = .ok ())
    (zero : s.busy.findFirstZero = some k)
    (failed : ubrPortEnslave s.dev k env nd = (nd, .error e)) :
    ubrPortAdd cfg s dev env nd = .ok (s', nd', ret) ↔
      (∃ r v, ubrVlanFind cfg s 0 = .ok (some r) ∧ s.heap r = some v ∧ s' = (s.plug k dev r v).unplug k) ∧
        (∀ j ∈ s.busy, (s.ports j).dev.isSome) ∧ k ∉ s.portRcu ∧ nd' = nd ∧ ret = .error e := by
  have unused := Bitmap.notMem_of_findFirstZero zero
  have step : ubrPortAdd cfg s dev env nd = (do
      let s ← ubrPortInit cfg s k dev
      ubrUpdateHeadroom s
      let s ← ubrPortZero { s with busy := s.busy.clear k } k
      .ok (s, nd, .error e)) := by
    simp only [ubrPortAdd, allowed, zero]
    cases begun : ubrPortInit cfg s k dev with
    | error f => rfl
    | ok mid =>
        obtain ⟨r, v, _, _, rfl⟩ := ubrPortInit_ok.mp begun
        have same : (s.plug k dev r v).dev = s.dev := rfl
        simp only [bind, Except.bind, same, failed]
  rw [step]
  cases begun : ubrPortInit cfg s k dev with
  | error f =>
      refine iff_of_false (by simp [bind, Except.bind]) ?_
      rintro ⟨⟨r, v, found, live, _⟩, _⟩
      cases begun.symm.trans (ubrPortInit_ok.mpr ⟨r, v, found, live, rfl⟩)
  | ok mid =>
      obtain ⟨r, v, found, live, rfl⟩ := ubrPortInit_ok.mp begun
      have headroom : ubrUpdateHeadroom (s.plug k dev r v) = .ok () ↔ ∀ j ∈ s.busy, (s.ports j).dev.isSome := by
        rw [ubrUpdateHeadroom_ok]
        constructor
        · intro all j inUse
          have other : j ≠ k := fun here => unused (here ▸ inUse)
          rw [← plug_other s v other]
          exact all j (Bitmap.mem_set.mpr (.inr inUse))
        · intro all j inUse
          by_cases here : j = k
          · rw [here, plug_self]
            rfl
          · rw [plug_other s v here]
            exact all j ((Bitmap.mem_set.mp inUse).resolve_left here)
      constructor
      · intro done
        obtain ⟨mid, same, done⟩ := except_bind_eq_ok done
        cases same
        obtain ⟨_, ready, done⟩ := except_bind_eq_ok done
        obtain ⟨z, zeroed, done⟩ := except_bind_eq_ok done
        obtain ⟨idle, rfl⟩ := ubrPortZero_ok.mp zeroed
        cases done
        exact ⟨⟨r, v, found, live, rfl⟩, headroom.mp ready, idle, rfl, rfl⟩
      · rintro ⟨⟨r', v', found', live', rfl⟩, devices, idle, rfl, rfl⟩
        cases found.symm.trans found'
        cases live.symm.trans live'
        have zeroed : ubrPortZero { s.plug k dev r v with busy := (s.plug k dev r v).busy.clear k } k =
            .ok ((s.plug k dev r v).unplug k) := ubrPortZero_ok.mpr ⟨idle, rfl⟩
        simp only [bind, Except.bind, headroom.mpr devices, zeroed]

/-- Giving the slot back undoes everything but the bit in VLAN 0. -/
theorem unplug_plug (r : VlanRef) (v : UbrVlan) (unused : k ∉ s.busy) (zeroed : s.ports k = {}) :
    (s.plug k dev r v).unplug k = s.putVlan r (v.attach k false) := by
  have busy : (s.busy.set k).clear k = s.busy := by
    apply Bitmap.ext_mem
    intro j
    simp only [Bitmap.mem_clear, Bitmap.mem_set]
    grind
  have ports : Function.update (Function.update s.ports k ((s.ports k).init k dev (some r))) k {} = s.ports := by
    rw [Function.update_idem, ← zeroed, Function.update_eq_self]
  simp only [Ubr.plug, Ubr.unplug, Ubr.putPort, Ubr.putVlan, busy, ports]

theorem attach_members_iff {v : UbrVlan} :
    ((v.attach k false).members, (v.attach k false).tagged) = (v.members, v.tagged) ↔ k ∈ v.members := by
  simp only [UbrVlan.attach, Prod.mk.injEq, Bool.false_eq_true, if_false, and_true]
  constructor
  · intro same
    rw [← same]
    exact Bitmap.mem_set.mpr (.inl rfl)
  · intro inside
    apply Bitmap.ext_mem
    intro j
    simp only [Bitmap.mem_set]
    grind

theorem putVlan_map (s : Ubr τ) (r x : VlanRef) (v : UbrVlan) (f : UbrVlan → UbrVec × UbrVec) (live : s.heap r = some v)
    {w : UbrVlan} (same : f w = f v) : ((s.putVlan r w).heap x).map f = (s.heap x).map f := by
  by_cases here : x = r
  · rw [here, live]
    simp [Ubr.putVlan, same]
  · simp [Ubr.putVlan, here]

end Failure

section Undo

variable {s : Sys τ} {dev : Dev} {env : PortAddEnv}

theorem ubrPortAdd_unbegun (cfg : Config) (env : PortAddEnv) (none : s.initSlot dev = none) :
    ∃ e, ubrPortAdd cfg s.ubr dev env (s.devs dev) = .ok (s.ubr, s.devs dev, .error e) := by
  unfold ubrPortAdd
  unfold Sys.initSlot at none
  cases allowed : ubrPortAddAllowed (s.devs dev) with
  | error e => exact ⟨e, rfl⟩
  | ok u =>
      simp only [allowed, Except.toBool, if_true] at none
      simp only [none]
      exact ⟨.ebusy, rfl⟩

theorem not_completes {k : Pidx} (allowed : ubrPortAddAllowed (s.devs dev) = .ok ())
    (broken : s.completes dev env k = false) :
    ∃ e, ubrPortEnslave s.ubr.dev k env (s.devs dev) = (s.devs dev, .error e) := by
  unfold Sys.completes at broken
  cases ends : ubrPortEnslave s.ubr.dev k env (s.devs dev) with
  | mk nd ret =>
      rw [ends] at broken
      cases ret with
      | ok u => cases broken
      | error e =>
          rw [ubrPortEnslave_error (ubrPortAddAllowed_master allowed) ends]
          exact ⟨e, rfl⟩

theorem setDev_same (u : Ubr τ) : { s with ubr := u }.setDev dev (s.devs dev) = { s with ubr := u } := by
  simp only [Sys.setDev, Function.update_eq_self]

variable [Jiffies τ]

/-- The call ends with an error and has left everything as it was. -/
def FailsCleanly (cfg : Config) (s : Sys τ) (dev : Dev) (env : PortAddEnv) : Prop :=
  ∃ s' e, s.exec cfg (.portAdd dev env) = .ok (s', { ret := .error e }) ∧ Untouched s s' dev

theorem exec_portAdd {u : Ubr τ} {nd : NetDev} {ret : Ret}
    (done : ubrPortAdd cfg s.ubr dev env (s.devs dev) = .ok (u, nd, ret)) :
    s.exec cfg (.portAdd dev env) = .ok ({ s with ubr := u }.setDev dev nd, { ret }) := by
  simp only [Sys.exec, done, bind, Except.bind]

/-- A failed call leaves everything as it was if, and only if, it took no slot or one that was
    ready for use and in VLAN 0 already. -/
theorem failed_add_undone_iff (reached : Reachable (bridge τ cfg) s) (fails : s.addFails dev env) :
    FailsCleanly cfg s dev env ↔ ∀ k, s.initSlot dev = some k → Undoable cfg s k := by
  rcases fails with none | ⟨k, begun, broken⟩
  · have nothing : ∀ k, s.initSlot dev = some k → Undoable cfg s k := by simp [none]
    obtain ⟨e, refused⟩ := ubrPortAdd_unbegun cfg env none
    refine iff_of_true ⟨_, e, exec_portAdd refused, ?_⟩ nothing
    rw [setDev_same]
    exact .refl s dev
  obtain ⟨allowed, zero⟩ := initSlot_some.mp begun
  obtain ⟨e, failed⟩ := not_completes allowed broken
  have unused := initSlot_idle begun
  have outcome {u : Ubr τ} {nd : NetDev} {ret : Ret} :
      ubrPortAdd cfg s.ubr dev env (s.devs dev) = .ok (u, nd, ret) ↔ _ := ubrPortAdd_failed_ok allowed zero failed
  constructor
  · rintro ⟨s', e', done, same⟩ j begun'
    cases begun.symm.trans begun'
    obtain ⟨⟨u, nd, ret⟩, added, done⟩ := except_bind_eq_ok done
    cases done
    obtain ⟨⟨r, v, found, live, rfl⟩, devices, idle, _, _⟩ := outcome.mp added
    rw [unplug_plug r v unused (unused_zeroed reached unused idle)] at same
    have kept : ((s.ubr.putVlan r (v.attach k false)).heap r).map (fun v => (v.members, v.tagged)) = _ := same.vlans r
    rw [live] at kept
    simp only [Ubr.putVlan, Function.update_self, Option.map_some, Option.some.injEq] at kept
    exact ⟨idle, devices, r, v, found, live, attach_members_iff.mp kept⟩
  · intro undoable
    obtain ⟨idle, devices, r, v, found, live, member⟩ := undoable k begun
    have added := outcome.mpr ⟨⟨r, v, found, live, rfl⟩, devices, idle, rfl, rfl⟩
    refine ⟨_, e, exec_portAdd added, ?_⟩
    rw [setDev_same, unplug_plug r v unused (unused_zeroed reached unused idle)]
    exact ⟨rfl, rfl, fun x => putVlan_map s.ubr r x v _ live (attach_members_iff.mpr member), rfl, rfl, rfl⟩

end Undo

/-- The index of a removed port is taken again, and the device cannot be set promiscuous. -/
theorem failed_add_undone_x86 : ∃ s, Reachable (bridge Nat x86) s ∧ s.initSlot 2 = some 1 ∧
    FailsCleanly x86 s 2 { promisc := some .einval } := by
  obtain ⟨tr, s, run, test⟩ := run_booted x86 (fun _ _ => True) [.portAdd 1 {}, .portDel 1, .portCleanup 1]
    (fun _ s => decide (s.initSlot 2 = some 1) && (s.completes 2 { promisc := some .einval } 1 == false) &&
      decide (1 ∉ s.ubr.portRcu) && s.ubr.busy.toList.all (fun j => (s.ubr.ports j).dev.isSome) &&
        ((ubrVlanFind x86 s.ubr 0).toOption == some (some 0)) &&
          (s.ubr.heap 0).any fun v : UbrVlan => decide (1 ∈ v.members))
    (by decide +kernel)
  simp only [Bool.and_eq_true, decide_eq_true_eq, beq_iff_eq, List.all_eq_true, Bitmap.mem_toList,
    Option.any_eq_true] at test
  obtain ⟨⟨⟨⟨⟨begun, broken⟩, idle⟩, devices⟩, found⟩, v, live, member⟩ := test
  refine ⟨s, run.reachable, begun, ?_⟩
  apply (failed_add_undone_iff run.reachable (.inr ⟨1, begun, broken⟩)).mpr
  intro k begun'
  cases begun.symm.trans begun'
  exact ⟨idle, devices, 0, v, ok_of_toOption found, live, member⟩

/-- The first port of a new bridge, with the same failure, stays in VLAN 0. -/
theorem failed_add_joins_vlan :
    ¬ ∀ s : Sys Nat, Reachable (bridge Nat x86) s → ∀ dev env, s.addFails dev env → FailsCleanly x86 s dev env := by
  intro claim
  have fails : (booted x86).addFails 1 { promisc := some .einval } := .inr ⟨1, by decide +kernel, by decide +kernel⟩
  obtain ⟨s', e, done, same⟩ := claim _ ⟨[], .init (booted_init x86)⟩ 1 { promisc := some .einval } fails
  have joined : ((booted x86).exec x86 (.portAdd 1 { promisc := some .einval })).toOption.any (fun out =>
      (out.1.ubr.heap 0).any fun v : UbrVlan => decide (1 ∈ v.members)) = true := by decide +kernel
  have apart : ((booted x86).ubr.heap 0).all (fun v : UbrVlan => decide (1 ∉ v.members)) = true := by decide +kernel
  rw [done] at joined
  have joined : ((s'.ubr.heap 0).any fun v : UbrVlan => decide (1 ∈ v.members)) = true := joined
  obtain ⟨v, live, member⟩ := (Option.any_eq_true ..).mp joined
  have kept := same.vlans 0
  rw [live] at kept
  obtain ⟨w, before, sets⟩ := Option.map_eq_some_iff.mp kept.symm
  rw [before] at apart
  have members : w.members = v.members := congrArg Prod.fst sets
  have outside : 1 ∉ w.members := of_decide_eq_true apart
  rw [members] at outside
  exact outside (of_decide_eq_true member)

end UnassumingBridge
