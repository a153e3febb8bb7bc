import UnassumingBridge.Kernel.Netlink
import UnassumingBridge.Support.Logged

/-! # What the VLAN commands do

One lemma a command, with every outcome it can have. Later proofs use these and
never open the commands again.
-/

namespace UnassumingBridge

open Support

variable {τ : Type} {cfg : Config} {s s' : Ubr τ}

section Find

theorem findInBucket_some {vid : Vid} {bucket : List VlanRef} {r : VlanRef}
    (found : findInBucket s vid bucket = .ok (some r)) :
    r ∈ bucket ∧ ∃ v, s.heap r = some v ∧ v.vid = vid := by
  induction bucket with
  | nil => cases found
  | cons head rest ih =>
      obtain ⟨v, read, found⟩ := except_bind_eq_ok found
      have live := Ubr.vlanAt_some_eq_ok.mp read
      split at found
      · rename_i same
        cases found
        exact ⟨List.mem_cons_self, v, live, same⟩
      · obtain ⟨inside, object⟩ := ih found
        exact ⟨List.mem_cons_of_mem _ inside, object⟩

theorem findInBucket_none {vid : Vid} {bucket : List VlanRef}
    (missing : findInBucket s vid bucket = .ok none) :
    ∀ r ∈ bucket, ∃ v, s.heap r = some v ∧ v.vid ≠ vid := by
  induction bucket with
  | nil => simp
  | cons head rest ih =>
      obtain ⟨v, read, missing⟩ := except_bind_eq_ok missing
      have live := Ubr.vlanAt_some_eq_ok.mp read
      split at missing
      · cases missing
      · rename_i other
        intro r member
        rcases List.mem_cons.mp member with rfl | inside
        · exact ⟨v, live, other⟩
        · exact ih missing r inside

/-- Where every object of the bucket can be read, the walk does not fault. -/
theorem findInBucket_ok (vid : Vid) {bucket : List VlanRef}
    (readable : ∀ r ∈ bucket, (s.heap r).isSome) : ∃ found, findInBucket s vid bucket = .ok found := by
  induction bucket with
  | nil => exact ⟨none, rfl⟩
  | cons head rest ih =>
      obtain ⟨v, live⟩ := Option.isSome_iff_exists.mp (readable head List.mem_cons_self)
      obtain ⟨found, walked⟩ := ih fun r inside => readable r (List.mem_cons_of_mem _ inside)
      have step : findInBucket s vid (head :: rest) =
          if v.vid = vid then .ok (some head) else findInBucket s vid rest := by
        simp only [findInBucket, Ubr.vlanAt_some live]
        rfl
      rw [step]
      split
      · exact ⟨some head, rfl⟩
      · exact ⟨found, walked⟩

/-- A walk that faults has met an object that was freed. -/
theorem findInBucket_fault {vid : Vid} {bucket : List VlanRef} {f : Fault}
    (fault : findInBucket s vid bucket = .error f) : f = .useAfterFree := by
  induction bucket with
  | nil => cases fault
  | cons head rest ih =>
      rcases except_bind_eq_error fault with unreadable | ⟨v, _, fault⟩
      · simp only [Ubr.vlanAt] at unreadable
        split at unreadable
        · cases unreadable
          rfl
        · cases unreadable
      · split at fault
        · cases fault
        · exact ih fault

end Find

/-- The bridge after `__update_port_vlan` stored `vlan` in the busy ports of a PVID. -/
def Ubr.cachePvid (s : Ubr τ) (vid : Vid) (vlan : Option VlanRef) : Ubr τ :=
  { s with
    ports := fun k =>
      if k ∈ s.busy ∧ (s.ports k).pvid = vid then
        { s.ports k with ingressCb.vlan := vlan }
      else s.ports k }

private theorem cache_loop (vid : Vid) (vlan : Option VlanRef) (ports : List Pidx)
    (distinct : ports.Nodup) (s : Ubr τ) :
    ports.foldl (fun s pidx =>
      let p := s.ports pidx
      if p.pvid ≠ vid then s else s.putPort pidx { p with ingressCb.vlan := vlan }) s =
    { s with
      ports := fun k =>
        if k ∈ ports ∧ (s.ports k).pvid = vid then { s.ports k with ingressCb.vlan := vlan }
        else s.ports k } := by
  induction ports generalizing s with
  | nil => simp
  | cons head rest ih =>
      obtain ⟨fresh, distinct⟩ := List.nodup_cons.mp distinct
      rw [List.foldl_cons, ih distinct]
      by_cases hit : (s.ports head).pvid = vid
      · simp only [hit, ne_eq, not_true_eq_false, if_false, Ubr.putPort]
        congr 1
        funext k
        by_cases here : k = head
        · subst here
          simp [fresh, hit]
        · simp [here]
      · simp only [ne_eq, hit, not_false_eq_true, if_true]
        congr 1
        funext k
        by_cases here : k = head
        · subst here
          simp [fresh, hit]
        · simp [here]

theorem updatePortVlan_eq {r : VlanRef} {v : UbrVlan} (live : s.heap r = some v) (add : Bool) :
    updatePortVlan s r add = .ok (s.cachePvid v.vid (if add then some r else none)) := by
  have loop := cache_loop v.vid (if add then some r else none) s.busy.toList s.busy.nodup_toList s
  simp only [Bitmap.mem_toList] at loop
  simp only [updatePortVlan, Ubr.vlanAt_some live]
  exact congrArg Except.ok loop

theorem ubrVlanNew_cases {vid : Vid} {zallocFails : Bool} {r : Except Errno VlanRef}
    (done : ubrVlanNew cfg s vid zallocFails = .ok (s', r)) :
    (∃ old, ubrVlanFind cfg s vid = .ok (some old) ∧ s' = s ∧ r = .error .ebusy) ∨
    (ubrVlanFind cfg s vid = .ok none ∧ zallocFails = true ∧ s' = s ∧ r = .error .enomem) ∨
    (ubrVlanFind cfg s vid = .ok none ∧ zallocFails = false ∧ s' = s.addVlan cfg vid ∧
      r = .ok s.nextVlan) := by
  obtain ⟨found, walked, done⟩ := except_bind_eq_ok done
  cases found with
  | some old =>
      cases done
      exact .inl ⟨old, walked, rfl, rfl⟩
  | none =>
      cases zallocFails with
      | true =>
          cases done
          exact .inr (.inl ⟨walked, rfl, rfl, rfl⟩)
      | false =>
          cases done
          exact .inr (.inr ⟨walked, rfl, rfl, rfl⟩)

theorem addVlan_heap (cfg : Config) (s : Ubr τ) (vid : Vid) :
    (s.addVlan cfg vid).heap s.nextVlan = some (newVlan vid) := by
  simp [Ubr.addVlan]

/-- The bridge after a VLAN was added: the ports that have it as PVID cache it. -/
def Ubr.register (cfg : Config) (s : Ubr τ) (vid : Vid) : Ubr τ :=
  (s.addVlan cfg vid).cachePvid vid (some s.nextVlan)

theorem ubrVlanNlAdd_cases {vid : Vid} {zallocFails : Bool} {ret : Ret}
    (done : ubrVlanNlAdd cfg s vid zallocFails = .ok (s', ret)) :
    (∃ old, ubrVlanFind cfg s vid = .ok (some old) ∧ s' = s ∧ ret = .error .ebusy) ∨
    (ubrVlanFind cfg s vid = .ok none ∧ zallocFails = true ∧ s' = s ∧ ret = .error .enomem) ∨
    (ubrVlanFind cfg s vid = .ok none ∧ zallocFails = false ∧
      s' = s.register cfg vid ∧ ret = .ok ()) := by
  obtain ⟨⟨mid, r⟩, created, done⟩ := except_bind_eq_ok done
  rcases ubrVlanNew_cases created with
    ⟨old, found, rfl, rfl⟩ | ⟨missing, fails, rfl, rfl⟩ | ⟨missing, works, rfl, rfl⟩
  · cases done
    exact .inl ⟨old, found, rfl, rfl⟩
  · cases done
    exact .inr (.inl ⟨missing, fails, rfl, rfl⟩)
  · simp only [updatePortVlan_eq (addVlan_heap cfg s vid)] at done
    cases done
    exact .inr (.inr ⟨missing, works, rfl, rfl⟩)

theorem ubrVlanNlAdd_busy {vid : Vid} {old : VlanRef} (found : ubrVlanFind cfg s vid = .ok (some old))
    (zallocFails : Bool) : ubrVlanNlAdd cfg s vid zallocFails = .ok (s, .error .ebusy) := by
  simp only [ubrVlanNlAdd, ubrVlanNew, found]
  rfl

theorem ubrVlanNlAdd_nomem {vid : Vid} (missing : ubrVlanFind cfg s vid = .ok none) :
    ubrVlanNlAdd cfg s vid true = .ok (s, .error .enomem) := by
  simp only [ubrVlanNlAdd, ubrVlanNew, missing]
  rfl

theorem ubrVlanNlAdd_added {vid : Vid} (missing : ubrVlanFind cfg s vid = .ok none) :
    ubrVlanNlAdd cfg s vid false =
      .ok (s.register cfg vid, .ok ()) := by
  simp only [ubrVlanNlAdd, ubrVlanNew, missing]
  change (updatePortVlan (s.addVlan cfg vid) s.nextVlan true >>= _) = _
  rw [updatePortVlan_eq (addVlan_heap cfg s vid)]
  rfl

theorem ubrVlanNlDel_noent {vid : Vid} (missing : ubrVlanFind cfg s vid = .ok none) :
    ubrVlanNlDel cfg s vid = .ok (s, .error .enoent) := by
  simp only [ubrVlanNlDel, missing]
  rfl

theorem ubrVlanDel_ok {r : VlanRef} (done : ubrVlanDel s r = .ok s') :
    ∃ v, s.heap r = some v ∧ r ∉ s.vlanRcu ∧
      s' = { s.putVlan r { v with members := .zero } with vlanRcu := s.vlanRcu ++ [r] } := by
  obtain ⟨mid, emptied, done⟩ := except_bind_eq_ok done
  obtain ⟨_, v, this, live, rfl⟩ := Ubr.modVlan_eq_ok.mp emptied
  cases this
  split at done
  · cases done
  · rename_i fresh
    cases done
    exact ⟨v, live, fresh, rfl⟩

/-- The bridge after a VLAN was deleted: its object is emptied and handed to
    `call_rcu`, and the ports that had it as PVID lose it. -/
def Ubr.dropVlan (s : Ubr τ) (r : VlanRef) (v : UbrVlan) : Ubr τ :=
  { (s.cachePvid v.vid none).putVlan r { v with members := .zero } with
    vlanRcu := s.vlanRcu ++ [r] }

theorem ubrVlanNlDel_cases {vid : Vid} {ret : Ret} (done : ubrVlanNlDel cfg s vid = .ok (s', ret)) :
    (ubrVlanFind cfg s vid = .ok none ∧ s' = s ∧ ret = .error .enoent) ∨
    (∃ r v, ubrVlanFind cfg s vid = .ok (some r) ∧ s.heap r = some v ∧ v.vid = vid ∧
      r ∉ s.vlanRcu ∧ s' = s.dropVlan r v ∧ ret = .ok ()) := by
  obtain ⟨found, walked, done⟩ := except_bind_eq_ok done
  cases found with
  | none =>
      cases done
      exact .inl ⟨walked, rfl, rfl⟩
  | some r =>
      obtain ⟨_, v, live, same⟩ := findInBucket_some walked
      simp only [updatePortVlan_eq live] at done
      obtain ⟨mid, cached, done⟩ := except_bind_eq_ok done
      cases cached
      obtain ⟨mid, deleted, done⟩ := except_bind_eq_ok done
      obtain ⟨w, read, fresh, rfl⟩ := ubrVlanDel_ok deleted
      have unchanged : w = v := Option.some.inj (read.symm.trans live)
      subst unchanged
      cases done
      exact .inr ⟨r, w, walked, live, same, fresh, rfl, rfl⟩

theorem ubrPortFind_ok {dev : Option Dev} {k : Pidx} (found : ubrPortFind s dev = .ok k) :
    k ∈ s.busy ∧ (s.ports k).dev = dev := by
  cases dev with
  | none => cases found
  | some d =>
      simp only [ubrPortFind] at found
      split at found
      · rename_i pidx first
        cases found
        have member := List.mem_of_find?_eq_some first
        have same := List.find?_some first
        exact ⟨Bitmap.mem_toList.mp member, by simpa using same⟩
      · cases found

def UbrVlan.attach (v : UbrVlan) (k : Pidx) (tagged : Bool) : UbrVlan :=
  { v with
    members := v.members.set k
    tagged := if tagged then v.tagged.set k else v.tagged }

def UbrVlan.detach (v : UbrVlan) (k : Pidx) : UbrVlan :=
  { v with
    members := v.members.clear k
    tagged := v.tagged.clear k }

theorem ubrVlanPortAdd_ok {vlan : Option VlanRef} {k : Pidx} {tagged : Bool} :
    ubrVlanPortAdd s vlan k tagged = .ok s' ↔
      ∃ r v, vlan = some r ∧ s.heap r = some v ∧ s' = s.putVlan r (v.attach k tagged) := by
  cases tagged <;> exact Ubr.modVlan_eq_ok

theorem ubrVlanNlAttach_cases {vid : Vid} {port : Dev} {tagged : BitVec 32} {ret : Ret}
    (done : ubrVlanNlAttach cfg s vid port tagged = .ok (s', ret)) :
    (s' = s ∧ ret = .error .enodev ∧ ∃ e, ubrPortFind s (some port) = .error e) ∨
    (∃ r v k, ubrVlanFind cfg s vid = .ok (some r) ∧ s.heap r = some v ∧ v.vid = vid ∧
      ubrPortFind s (some port) = .ok k ∧ s' = s.putVlan r (v.attach k (tagged != 0)) ∧ ret = .ok ()) := by
  obtain ⟨found, walked, done⟩ := except_bind_eq_ok done
  cases slot : ubrPortFind s (some port) with
  | error e =>
      rw [slot] at done
      cases done
      exact .inl ⟨rfl, rfl, e, rfl⟩
  | ok k =>
      rw [slot] at done
      obtain ⟨mid, added, done⟩ := except_bind_eq_ok done
      obtain ⟨r, v, rfl, live, rfl⟩ := ubrVlanPortAdd_ok.mp added
      obtain ⟨_, w, read, same⟩ := findInBucket_some walked
      have unchanged : w = v := Option.some.inj (read.symm.trans live)
      subst unchanged
      cases done
      exact .inr ⟨r, w, k, walked, live, same, rfl, rfl, rfl⟩

theorem ubrVlanNlDetach_cases {vid : Vid} {port : Dev} {ret : Ret}
    (done : ubrVlanNlDetach cfg s vid port = .ok (s', ret)) :
    (s' = s ∧ ret = .ok () ∧ ∃ e, ubrPortFind s (some port) = .error e) ∨
    (∃ r v k, ubrVlanFind cfg s vid = .ok (some r) ∧ s.heap r = some v ∧ v.vid = vid ∧
      ubrPortFind s (some port) = .ok k ∧ s' = s.putVlan r (v.detach k) ∧ ret = .ok ()) := by
  obtain ⟨found, walked, done⟩ := except_bind_eq_ok done
  cases slot : ubrPortFind s (some port) with
  | error e =>
      rw [slot] at done
      cases done
      exact .inl ⟨rfl, rfl, e, rfl⟩
  | ok k =>
      rw [slot] at done
      obtain ⟨mid, removed, done⟩ := except_bind_eq_ok done
      obtain ⟨r, v, rfl, live, rfl⟩ := Ubr.modVlan_eq_ok.mp removed
      obtain ⟨_, w, read, same⟩ := findInBucket_some walked
      have unchanged : w = v := Option.some.inj (read.symm.trans live)
      subst unchanged
      cases done
      exact .inr ⟨r, w, k, walked, live, same, rfl, rfl, rfl⟩

/-- The slot after `ubr_port_nl_set_cmd`. -/
def UbrPort.setPvid (p : UbrPort) (pvid : Vid) (vlan : Option VlanRef) : UbrPort :=
  { p with
    pvid
    ingressCb := { p.ingressCb with vlan, vlanFiltering := pvid != 0 } }

theorem ubrPortNlSet_cases {port : Option Dev} {pvid : Vid} {ret : Ret}
    (done : ubrPortNlSet cfg s port pvid = .ok (s', ret)) :
    (s' = s ∧ ret = .error .einval) ∨
    (∃ k vlan, ubrPortFind s port = .ok k ∧ ubrVlanFind cfg s pvid = .ok vlan ∧
      s' = s.putPort k ((s.ports k).setPvid pvid vlan) ∧ ret = .ok ()) := by
  simp only [ubrPortNlSet] at done
  cases slot : ubrPortFind s port with
  | error e =>
      rw [slot] at done
      cases done
      exact .inl ⟨rfl, rfl⟩
  | ok k =>
      rw [slot] at done
      obtain ⟨vlan, walked, done⟩ := except_bind_eq_ok done
      cases done
      exact .inr ⟨k, vlan, rfl, walked, rfl, rfl⟩

end UnassumingBridge
