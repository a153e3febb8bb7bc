import UnassumingBridge.Invariants.Pvid

/-! # The VLAN of ports that do not filter

A port without a PVID forwards in whatever its control block points at, and
nothing looks at the pointer first. That it points at VLAN 0 is up to the commands:
nothing keeps them from deleting VLAN 0.
-/

namespace UnassumingBridge

open Support

variable {τ : Type} {cfg : Config}

/-- Ports are plugged into clean slots and into VLAN 0, and VLAN 0 stays as long as
    there are ports without a PVID. -/
def Sys.KeepsHostVlan (cfg : Config) (s : Sys τ) : Event → Prop
  | .portAdd dev env => ∀ k ∈ s.initSlot dev,
      k ∉ s.ubr.portRcu ∧ (s.completes dev env k = true → s.ubr.stale cfg 0 = false)
  | .portSet port pvid =>
      (ubrPortFind s.ubr port).toBool = true → pvid = 0 → s.ubr.registered cfg 0 = true
  | .vlanDel vid => vid = 0 → ∀ k ∈ s.ubr.busy.toList, (s.ubr.ports k).ingressCb.vlanFiltering = true
  | _ => True

instance (s : Sys τ) : (e : Event) → Decidable (s.KeepsHostVlan cfg e)
  | .portAdd dev env => inferInstanceAs (Decidable (∀ k ∈ s.initSlot dev,
      k ∉ s.ubr.portRcu ∧ (s.completes dev env k = true → s.ubr.stale cfg 0 = false)))
  | .portSet port pvid => inferInstanceAs (Decidable
      ((ubrPortFind s.ubr port).toBool = true → pvid = 0 → s.ubr.registered cfg 0 = true))
  | .vlanDel vid => inferInstanceAs (Decidable
      (vid = 0 → ∀ k ∈ s.ubr.busy.toList, (s.ubr.ports k).ingressCb.vlanFiltering = true))
  | .rx .. | .xmit .. | .age .. | .tick .. | .portDel .. | .portCleanup .. | .vlanAdd ..
  | .vlanFree .. | .vlanAttach .. | .vlanDetach .. | .devChange .. => .isTrue trivial

theorem Sys.KeepsHostVlan.addsOntoIdle {s : Sys τ} {e : Event} (safe : s.KeepsHostVlan cfg e) :
    s.AddsOntoIdle e := by
  cases e with
  | portAdd dev env => exact fun k begun => (safe k begun).1
  | _ => trivial

/-- What a port without a PVID depends on. -/
structure HostVlan (s : Ubr τ) (p : UbrPort) : Prop where
  filtering : p.ingressCb.vlanFiltering = true ↔ p.pvid ≠ 0
  vlan : p.ingressCb.vlanFiltering = false → ∃ r, p.ingressCb.vlan = some r ∧ s.LiveVid 0 r

namespace HostVlan

section Operations

variable {s u : Ubr τ} {p : UbrPort}

theorem congr (ok : HostVlan s p) (same : ∀ r, u.LiveVid 0 r ↔ s.LiveVid 0 r) : HostVlan u p where
  filtering := ok.filtering
  vlan hub := by
    obtain ⟨r, cached, live⟩ := ok.vlan hub
    exact ⟨r, cached, (same r).mpr live⟩

theorem init {r : VlanRef} (live : s.LiveVid 0 r) (k : Pidx) (dev : Dev) :
    HostVlan s (({} : UbrPort).init k dev (some r)) where
  filtering := by simp [UbrPort.init]
  vlan _ := ⟨r, rfl, live⟩

theorem setPvid {pvid : Vid} {vlan : Option VlanRef} (found : ubrVlanFind cfg s pvid = .ok vlan)
    (registered : pvid = 0 → s.registered cfg 0 = true) : HostVlan s (p.setPvid pvid vlan) where
  filtering := by simp [UbrPort.setPvid]
  vlan hub := by
    have zero : pvid = 0 := by simpa [UbrPort.setPvid] using hub
    subst zero
    obtain ⟨r, v, walked, live, same⟩ := registered_iff.mp (registered rfl)
    cases found.symm.trans walked
    exact ⟨r, rfl, v, live, same⟩

theorem pvid (ok : HostVlan s p) (hub : p.ingressCb.vlanFiltering = false) : p.pvid = 0 := by
  by_contra other
  have set := ok.filtering.mpr other
  rw [hub] at set
  cases set

/-- While a port does not filter, VLAN 0 is there, so no command adds it. -/
theorem added {vid : Vid} {k : Pidx} (vlans : VlansOk cfg s) (missing : ubrVlanFind cfg s vid = .ok none)
    (ok : HostVlan s (s.ports k)) :
    HostVlan (s.register cfg vid) ((s.register cfg vid).ports k) := by
  have kept : (s.register cfg vid).ports k = s.ports k ∨
      ((s.ports k).pvid = vid ∧ (s.register cfg vid).ports k =
        { s.ports k with ingressCb.vlan := some s.nextVlan }) := by
    simp only [Ubr.register, Ubr.cachePvid]
    split
    · rename_i mine
      exact .inr ⟨mine.2, rfl⟩
    · exact .inl rfl
  have absent (hub : (s.ports k).ingressCb.vlanFiltering = false) : vid ≠ 0 := by
    rintro rfl
    obtain ⟨r, _, before⟩ := ok.vlan hub
    exact not_liveVid_of_find_none vlans missing before
  rcases kept with slot | ⟨mine, slot⟩
  · rw [slot]
    refine ⟨ok.filtering, fun hub => ?_⟩
    obtain ⟨r, cached, before⟩ := ok.vlan hub
    refine ⟨r, cached, (liveVid_register vlans missing 0).mpr ?_⟩
    rw [if_neg (absent hub).symm]
    exact before
  · rw [slot]
    refine ⟨ok.filtering, fun hub => ?_⟩
    exact absurd (mine.symm.trans (ok.pvid hub)) (absent hub)

theorem dropped {r : VlanRef} {v : UbrVlan} {k : Pidx}
    (spared : (s.ports k).ingressCb.vlanFiltering = false → v.vid ≠ 0) (live : s.Live r v)
    (ok : HostVlan s (s.ports k)) : HostVlan (s.dropVlan r v) ((s.dropVlan r v).ports k) := by
  have kept : (s.dropVlan r v).ports k = s.ports k ∨
      ((s.ports k).pvid = v.vid ∧
        (s.dropVlan r v).ports k = { s.ports k with ingressCb.vlan := none }) := by
    simp only [Ubr.dropVlan, Ubr.putVlan, Ubr.cachePvid]
    split
    · rename_i mine
      exact .inr ⟨mine.2, rfl⟩
    · exact .inl rfl
  rcases kept with slot | ⟨mine, slot⟩
  · rw [slot]
    refine ⟨ok.filtering, fun hub => ?_⟩
    obtain ⟨x, cached, before⟩ := ok.vlan hub
    refine ⟨x, cached, (liveVid_dropVlan 0).mpr ⟨?_, before⟩⟩
    rintro rfl
    obtain ⟨w, other, zero⟩ := before
    cases live.1.symm.trans other.1
    exact spared hub zero
  · rw [slot]
    refine ⟨ok.filtering, fun hub => ?_⟩
    exact absurd (mine.symm.trans (ok.pvid hub)) (spared hub)

end Operations

theorem step {s : Sys τ} {e : Event} {u : Ubr τ} (vlans : VlansOk cfg s.ubr)
    (ok : ∀ k ∈ s.ubr.busy, HostVlan s.ubr (s.ubr.ports k)) (safe : s.KeepsHostVlan cfg e) {k : Pidx}
    (effect : SlotEffect cfg s k e u) : HostVlan u (u.ports k) := by
  cases effect with
  | kept inUse slot same => exact slot ▸ (ok k inUse).congr (same 0)
  | added inUse missing => exact HostVlan.added vlans missing (ok k inUse)
  | @dropped vid r v inUse live named =>
      have spared (hub : (s.ubr.ports k).ingressCb.vlanFiltering = false) : v.vid ≠ 0 := by
        intro zero
        have filters := safe (named.symm.trans zero) k (Bitmap.mem_toList.mpr inUse)
        rw [hub] at filters
        cases filters
      exact HostVlan.dropped spared live (ok k inUse)
  | pvidSet found walked slot same =>
      have registered := safe (by rw [found]; rfl)
      exact slot ▸ (setPvid walked registered).congr (same 0)
  | @plugged dev env r _ begun whole walked slot same =>
      have vlan0 := (liveVid_iff_of_find vlans walked ((safe k begun).2 whole) r).mpr rfl
      exact slot ▸ (init vlan0 k dev).congr (same 0)

end HostVlan

/-- The first object is VLAN 0's, and it is never taken out of its bucket. -/
structure HostBucket (cfg : Config) (s : Ubr τ) : Prop where
  inside : 0 ∈ s.vlans (cfg.vlanHash 0)
  used : 0 < s.nextVlan
  vid : ∀ v, s.heap 0 = some v → v.vid = 0

namespace HostBucket

variable {s : Ubr τ} {r : VlanRef} {v w : UbrVlan}

theorem put (ok : HostBucket cfg s) (live : s.heap r = some v) (same : w.vid = v.vid) :
    HostBucket cfg (s.putVlan r w) where
  inside := ok.inside
  used := ok.used
  vid u written := by
    rcases putVlan_heap written with ⟨rfl, rfl⟩ | ⟨_, old⟩
    · exact same.trans (ok.vid v live)
    · exact ok.vid u old

theorem add (ok : HostBucket cfg s) (vid : Vid) : HostBucket cfg (s.addVlan cfg vid) where
  inside := by
    by_cases bucket : cfg.vlanHash 0 = cfg.vlanHash vid
    · have grown : (s.addVlan cfg vid).vlans (cfg.vlanHash 0) = s.nextVlan :: s.vlans (cfg.vlanHash vid) := by
        simp only [Ubr.addVlan, bucket, Function.update_self]
      rw [grown, ← bucket]
      exact List.mem_cons_of_mem _ ok.inside
    · have kept : (s.addVlan cfg vid).vlans (cfg.vlanHash 0) = s.vlans (cfg.vlanHash 0) := by
        simp only [Ubr.addVlan, Function.update_of_ne bucket]
      rw [kept]
      exact ok.inside
  used := Nat.lt_succ_of_lt ok.used
  vid u added := by
    rcases addVlan_heap_cases added with ⟨first, _⟩ | ⟨_, old⟩
    · exact absurd first (Nat.ne_of_lt ok.used)
    · exact ok.vid u old

theorem step {s : Sys τ} {e : Event} {u : Ubr τ} (ok : HostBucket cfg s.ubr) (effect : Effect cfg s e u) :
    HostBucket cfg u := by
  cases effect with
  | quiet fdb => exact ⟨ok.inside, ok.used, ok.vid⟩
  | @vlanAdded vid _ missing =>
      have added := ok.add vid
      exact ⟨added.inside, added.used, added.vid⟩
  | @vlanDeleted vid r v found live same fresh =>
      have emptied : HostBucket cfg (s.ubr.putVlan r { v with members := .zero }) := ok.put live rfl
      exact ⟨emptied.inside, emptied.used, emptied.vid⟩
  | @vlanFreed r queued =>
      refine ⟨ok.inside, ok.used, fun v left => ?_⟩
      by_cases here : 0 = r
      · simp [ubrVlanDelRcu, here] at left
      · exact ok.vid v (by simpa [ubrVlanDelRcu, here] using left)
  | attached found live same slot => exact ok.put live rfl
  | detached found live same slot => exact ok.put live rfl
  | pvidSet slot found => exact ⟨ok.inside, ok.used, ok.vid⟩
  | @portAdded dev env k r v begun whole found live =>
      have joined : HostBucket cfg (s.ubr.putVlan r (v.attach k false)) := ok.put live rfl
      exact ⟨joined.inside, joined.used, joined.vid⟩
  | @portAddFailed dev env k r v begun broken found live idle =>
      have joined : HostBucket cfg (s.ubr.putVlan r (v.attach k false)) := ok.put live rfl
      exact ⟨joined.inside, joined.used, joined.vid⟩
  | portDeleted slave owned idle => exact ⟨ok.inside, ok.used, ok.vid⟩
  | portCleaned queued once => exact ⟨ok.inside, ok.used, ok.vid⟩

theorem fresh (dev : Dev) (devAddr : Mac) : HostBucket cfg (freshUbr cfg dev devAddr : Ubr τ) where
  inside := (findInBucket_some (fresh_find dev devAddr)).1
  used := Nat.one_pos
  vid v read := by
    obtain ⟨_, w, object, zero⟩ := findInBucket_some (@fresh_find τ cfg dev devAddr)
    cases object.symm.trans read
    exact zero

/-- The lookup finds VLAN 0's object, alive or deleted, or meets one that was freed. -/
theorem find_ne_none (ok : HostBucket cfg s) : ubrVlanFind cfg s 0 ≠ .ok none := by
  intro missing
  obtain ⟨v, read, other⟩ := findInBucket_none missing 0 ok.inside
  exact other (ok.vid v read)

theorem portInit_ne_nullDeref (ok : HostBucket cfg s) (k : Pidx) (dev : Dev) :
    ubrPortInit cfg s k dev ≠ .error .nullDeref := by
  intro fault
  rcases ubrPortInit_fault fault with ⟨missing, _⟩ | other
  · exact ok.find_ne_none missing
  · cases other

end HostBucket

variable [Jiffies τ]

/-- While VLAN 0 is not deleted, a port that does not filter has it. -/
theorem unfiltered_port_has_vlan {tr : History τ} {s : Sys τ}
    (run : Run (bridge τ cfg) (Sys.KeepsHostVlan cfg) tr s) :
    (∀ k ∈ s.ubr.busy, (s.ubr.ports k).ingressCb.vlanFiltering = false →
      ∃ r, (s.ubr.ports k).ingressCb.vlan = some r ∧ s.ubr.LiveVid 0 r) ∧
    ∀ k dev, ubrPortInit cfg s.ubr k dev ≠ .error .nullDeref := by
  have hosted : ∀ k ∈ s.ubr.busy, HostVlan s.ubr (s.ubr.ports k) := by
    refine run.invariant (I := fun _ s => ∀ k ∈ s.ubr.busy, HostVlan s.ubr (s.ubr.ports k)) ?_ ?_
    · intro s init k inUse
      obtain ⟨dev, devAddr, same⟩ := init_ubr init
      rw [same, fresh_busy] at inUse
      rw [same, fresh_port, if_pos inUse]
      have live : (freshUbr cfg dev devAddr : Ubr τ).LiveVid 0 0 :=
        (liveVid_iff_of_find (.fresh dev devAddr) (fresh_find dev devAddr) (fresh_stale dev devAddr) 0).mpr rfl
      exact .init live 0 dev
    · intro tr s e s' o before ok enabled guard done
      have ports : PortsOk s := .of_run (fun _ _ => Sys.KeepsHostVlan.addsOntoIdle) before
      intro k inUse
      exact HostVlan.step (vlansOk_of_reachable before.reachable) ok guard
        ((exec_effect enabled done).slot ports guard.addsOntoIdle inUse)
  have bucket : HostBucket cfg s.ubr := by
    refine run.reachable.invariant (I := fun s => HostBucket cfg s.ubr) ?_ ?_
    · intro s init
      obtain ⟨dev, devAddr, same⟩ := init_ubr init
      exact same ▸ .fresh dev devAddr
    · intro s e s' o ok enabled done
      exact ok.step (exec_effect enabled done)
  exact ⟨fun k inUse => (hosted k inUse).vlan, bucket.portInit_ne_nullDeref⟩

/-- VLAN 0 goes when both ports filter. -/
theorem unfiltered_port_has_vlan_x86 :
    ∃ tr s, Run (bridge Nat x86) (Sys.KeepsHostVlan x86) tr s ∧ s.ubr.registered x86 0 = false ∧
      (∀ k ∈ s.ubr.busy, (s.ubr.ports k).ingressCb.vlanFiltering = false →
        ∃ r, (s.ubr.ports k).ingressCb.vlan = some r ∧ s.ubr.LiveVid 0 r) ∧
      ∀ k dev, ubrPortInit x86 s.ubr k dev ≠ .error .nullDeref := by
  obtain ⟨tr, s, run, gone⟩ := run_booted x86 (Sys.KeepsHostVlan x86)
    [.portAdd 1 {}, .portSet (some 1) 7, .portSet (some 1000) 7, .vlanDel 0]
    (fun _ s => decide (s.ubr.registered x86 0 = false)) (by decide +kernel)
  exact ⟨tr, s, run, of_decide_eq_true gone, unfiltered_port_has_vlan run⟩

/-- The delete command takes VLAN 0 away from the host port. -/
theorem unfiltered_port_loses_vlan :
    ¬ ∀ tr s, Run (bridge Nat x86) (fun _ _ => True) tr s →
      (∀ k ∈ s.ubr.busy, (s.ubr.ports k).ingressCb.vlanFiltering = false →
        ∃ r, (s.ubr.ports k).ingressCb.vlan = some r ∧ s.ubr.LiveVid 0 r) ∧
      ∀ k dev, ubrPortInit x86 s.ubr k dev ≠ .error .nullDeref := by
  intro claim
  obtain ⟨tr, s, run, test⟩ := run_booted x86 (fun _ _ => True) [.vlanDel 0]
    (fun _ s => decide (0 ∈ s.ubr.busy ∧ (s.ubr.ports 0).ingressCb.vlanFiltering = false ∧
      (s.ubr.ports 0).ingressCb.vlan = none))
    (by decide +kernel)
  obtain ⟨busy, hub, lost⟩ := of_decide_eq_true test
  obtain ⟨r, cached, _⟩ := (claim tr s run).1 0 busy hub
  rw [lost] at cached
  cases cached

end UnassumingBridge
