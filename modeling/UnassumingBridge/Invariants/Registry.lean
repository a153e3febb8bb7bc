import UnassumingBridge.Effects.Fresh

/-! # The VLAN objects of a reachable bridge

A VLAN object is live from its registration until it is handed to `call_rcu`.
Deletion does not take it out of its hash bucket, so lookups may still meet it,
and after the callback has run the bucket leads to freed memory. What holds all
the same, in every reachable state, is `VlansOk`.
-/

namespace UnassumingBridge

open Support

variable {τ : Type} {cfg : Config} {s : Ubr τ} {r x : VlanRef} {v u w : UbrVlan} {vid : Vid}

/-- Added and not deleted since. -/
def Ubr.Live (s : Ubr τ) (r : VlanRef) (v : UbrVlan) : Prop := s.heap r = some v ∧ r ∉ s.vlanRcu

/-- `r` is the live VLAN with that VID. -/
def Ubr.LiveVid (s : Ubr τ) (vid : Vid) (r : VlanRef) : Prop := ∃ v, s.Live r v ∧ v.vid = vid

/-- The lookup of the VID leads to an object that was deleted and is not freed yet. -/
def Ubr.stale (cfg : Config) (s : Ubr τ) (vid : Vid) : Bool :=
  match ubrVlanFind cfg s vid with
  | .ok (some r) => decide (r ∈ s.vlanRcu)
  | _ => false

/-- The lookup of the VID leads to a live object. -/
def Ubr.registered (cfg : Config) (s : Ubr τ) (vid : Vid) : Bool :=
  match ubrVlanFind cfg s vid with
  | .ok (some r) => decide (r ∉ s.vlanRcu)
  | _ => false

/-- The objects of the registry are in their buckets, one for each VID. -/
structure VlansOk (cfg : Config) (s : Ubr τ) : Prop where
  hashed : ∀ r v, s.heap r = some v → r ∈ s.vlans (cfg.vlanHash v.vid)
  unique : ∀ r x v u, s.heap r = some v → s.heap x = some u → v.vid = u.vid → r = x
  bounded : ∀ r v, s.heap r = some v → r < s.nextVlan
  queued : ∀ r ∈ s.vlanRcu, r < s.nextVlan

theorem putVlan_heap (written : (s.putVlan r w).heap x = some u) :
    (x = r ∧ u = w) ∨ (x ≠ r ∧ s.heap x = some u) := by
  by_cases here : x = r
  · subst here
    exact .inl ⟨rfl, by simpa [Ubr.putVlan, eq_comm] using written⟩
  · exact .inr ⟨here, by simpa [Ubr.putVlan, here] using written⟩

theorem addVlan_heap_cases (added : (s.addVlan cfg vid).heap x = some u) :
    (x = s.nextVlan ∧ u = newVlan vid) ∨ (x ≠ s.nextVlan ∧ s.heap x = some u) := by
  by_cases here : x = s.nextVlan
  · subst here
    exact .inl ⟨rfl, by simpa [Ubr.addVlan, eq_comm] using added⟩
  · exact .inr ⟨here, by simpa [Ubr.addVlan, here] using added⟩

section Live

theorem live_putVlan (live : s.heap r = some v) :
    (s.putVlan r w).Live x u → (x = r ∧ u = w ∧ s.Live r v) ∨ (x ≠ r ∧ s.Live x u) := by
  rintro ⟨written, unqueued⟩
  rcases putVlan_heap written with ⟨rfl, rfl⟩ | ⟨other, old⟩
  · exact .inl ⟨rfl, rfl, live, unqueued⟩
  · exact .inr ⟨other, old, unqueued⟩

theorem live_putVlan_other (other : x ≠ r) (live : s.Live x u) : (s.putVlan r w).Live x u :=
  ⟨by simpa [Ubr.putVlan, other] using live.1, live.2⟩

theorem live_putVlan_self (live : s.Live r v) : (s.putVlan r w).Live r w :=
  ⟨by simp [Ubr.putVlan], live.2⟩

theorem live_addVlan (live : (s.addVlan cfg vid).Live x u) :
    (x = s.nextVlan ∧ u = newVlan vid) ∨ s.Live x u := by
  rcases addVlan_heap_cases live.1 with new | ⟨_, old⟩
  · exact .inl new
  · exact .inr ⟨old, live.2⟩

theorem live_addVlan_old (ok : VlansOk cfg s) (live : s.Live x u) : (s.addVlan cfg vid).Live x u := by
  have old : x ≠ s.nextVlan := Nat.ne_of_lt (ok.bounded x u live.1)
  exact ⟨by simpa [Ubr.addVlan, old] using live.1, live.2⟩

theorem live_addVlan_new (ok : VlansOk cfg s) : (s.addVlan cfg vid).Live s.nextVlan (newVlan vid) := by
  refine ⟨addVlan_heap cfg s vid, ?_⟩
  intro queued
  exact Nat.lt_irrefl _ (ok.queued _ queued)

theorem live_dropVlan : (s.dropVlan r v).Live x u ↔ x ≠ r ∧ s.Live x u := by
  by_cases here : x = r
  · simp [Ubr.Live, Ubr.dropVlan, here]
  · simp [Ubr.Live, Ubr.dropVlan, Ubr.putVlan, Ubr.cachePvid, here]

theorem live_freed (queued : r ∈ s.vlanRcu) : (ubrVlanDelRcu s r).Live x u ↔ s.Live x u := by
  by_cases here : x = r
  · subst here
    simp [Ubr.Live, ubrVlanDelRcu, queued]
  · simp [Ubr.Live, ubrVlanDelRcu, here, List.mem_erase_of_ne]

/-- When the lookup fails there is no live VLAN of that VID. -/
theorem not_live_of_find_none (ok : VlansOk cfg s) (missing : ubrVlanFind cfg s vid = .ok none)
    (live : s.heap r = some v) : v.vid ≠ vid := by
  intro same
  have inside := ok.hashed r v live
  rw [same] at inside
  obtain ⟨u, read, other⟩ := findInBucket_none missing r inside
  rw [live] at read
  cases read
  exact other same

theorem registered_eq (found : ubrVlanFind cfg s vid = .ok (some r)) :
    s.registered cfg vid = decide (r ∉ s.vlanRcu) := by
  simp only [Ubr.registered, found]

theorem registered_iff :
    s.registered cfg vid = true ↔
      ∃ r v, ubrVlanFind cfg s vid = .ok (some r) ∧ s.Live r v ∧ v.vid = vid := by
  constructor
  · intro test
    simp only [Ubr.registered] at test
    split at test
    · rename_i r found
      obtain ⟨_, v, read, same⟩ := findInBucket_some found
      exact ⟨r, v, found, ⟨read, by simpa using test⟩, same⟩
    · cases test
  · rintro ⟨r, v, found, live, _⟩
    rw [registered_eq found]
    exact decide_eq_true live.2

end Live

section LiveVid

theorem liveVid_putVlan (live : s.heap r = some v) (same : w.vid = v.vid) :
    (s.putVlan r w).LiveVid vid x ↔ s.LiveVid vid x := by
  constructor
  · rintro ⟨u, left, vids⟩
    rcases live_putVlan live left with ⟨rfl, rfl, before⟩ | ⟨_, before⟩
    · exact ⟨v, before, same.symm.trans vids⟩
    · exact ⟨u, before, vids⟩
  · rintro ⟨u, before, vids⟩
    by_cases here : x = r
    · subst here
      cases live.symm.trans before.1
      exact ⟨w, live_putVlan_self before, same.trans vids⟩
    · exact ⟨u, live_putVlan_other here before, vids⟩

theorem liveVid_addVlan (ok : VlansOk cfg s) (missing : ubrVlanFind cfg s vid = .ok none) (j : Vid) :
    (s.addVlan cfg vid).LiveVid j x ↔ if j = vid then x = s.nextVlan else s.LiveVid j x := by
  have new : (s.addVlan cfg vid).Live s.nextVlan (newVlan vid) := live_addVlan_new ok
  constructor
  · rintro ⟨u, left, vids⟩
    rcases live_addVlan left with ⟨rfl, rfl⟩ | before
    · simp [← vids, newVlan]
    · have other : j ≠ vid := by
        intro same
        exact not_live_of_find_none ok missing before.1 (vids.trans same)
      rw [if_neg other]
      exact ⟨u, before, vids⟩
  · intro right
    split at right
    · rename_i same
      subst same right
      exact ⟨_, new, rfl⟩
    · obtain ⟨u, before, vids⟩ := right
      exact ⟨u, live_addVlan_old ok before, vids⟩

theorem liveVid_register (ok : VlansOk cfg s) (missing : ubrVlanFind cfg s vid = .ok none) (j : Vid) :
    (s.register cfg vid).LiveVid j x ↔ if j = vid then x = s.nextVlan else s.LiveVid j x :=
  liveVid_addVlan ok missing j

theorem liveVid_dropVlan (j : Vid) :
    (s.dropVlan r v).LiveVid j x ↔ x ≠ r ∧ s.LiveVid j x := by
  constructor
  · rintro ⟨u, left, vids⟩
    obtain ⟨other, before⟩ := live_dropVlan.mp left
    exact ⟨other, u, before, vids⟩
  · rintro ⟨other, u, before, vids⟩
    exact ⟨u, live_dropVlan.mpr ⟨other, before⟩, vids⟩

theorem liveVid_freed (queued : r ∈ s.vlanRcu) :
    (ubrVlanDelRcu s r).LiveVid vid x ↔ s.LiveVid vid x := by
  simp only [Ubr.LiveVid, live_freed queued]

theorem liveVid_unique (ok : VlansOk cfg s) (left : s.LiveVid vid r) (right : s.LiveVid vid x) : r = x := by
  obtain ⟨v, live, same⟩ := left
  obtain ⟨u, live', same'⟩ := right
  exact ok.unique r x v u live.1 live'.1 (same.trans same'.symm)

theorem liveVid_of_find (found : ubrVlanFind cfg s vid = .ok (some r)) (alive : r ∉ s.vlanRcu) :
    s.LiveVid vid r := by
  obtain ⟨_, v, read, same⟩ := findInBucket_some found
  exact ⟨v, ⟨read, alive⟩, same⟩

theorem not_liveVid_of_find_none (ok : VlansOk cfg s) (missing : ubrVlanFind cfg s vid = .ok none) :
    ¬ s.LiveVid vid r := by
  rintro ⟨v, live, same⟩
  exact not_live_of_find_none ok missing live.1 same

end LiveVid

namespace VlansOk

theorem put (ok : VlansOk cfg s) (live : s.heap r = some v) (same : w.vid = v.vid) :
    VlansOk cfg (s.putVlan r w) where
  hashed x u written := by
    rcases putVlan_heap written with ⟨rfl, rfl⟩ | ⟨_, old⟩
    · rw [same]
      exact ok.hashed x v live
    · exact ok.hashed x u old
  unique x y u u' left right vids := by
    rcases putVlan_heap left with ⟨rfl, rfl⟩ | ⟨_, oldLeft⟩
    · rcases putVlan_heap right with ⟨rfl, rfl⟩ | ⟨_, oldRight⟩
      · rfl
      · exact ok.unique x y v u' live oldRight (same.symm.trans vids)
    · rcases putVlan_heap right with ⟨rfl, rfl⟩ | ⟨_, oldRight⟩
      · exact ok.unique x y u v oldLeft live (vids.trans same)
      · exact ok.unique x y u u' oldLeft oldRight vids
  bounded x u written := by
    rcases putVlan_heap written with ⟨rfl, rfl⟩ | ⟨_, old⟩
    · exact ok.bounded x v live
    · exact ok.bounded x u old
  queued := ok.queued

theorem add (ok : VlansOk cfg s) (missing : ubrVlanFind cfg s vid = .ok none) :
    VlansOk cfg (s.addVlan cfg vid) where
  hashed x u added := by
    rcases addVlan_heap_cases added with ⟨rfl, rfl⟩ | ⟨_, old⟩
    · simp [Ubr.addVlan, newVlan]
    · have inside := ok.hashed x u old
      by_cases bucket : cfg.vlanHash u.vid = cfg.vlanHash vid
      · simp only [Ubr.addVlan, bucket, Function.update_self]
        rw [bucket] at inside
        exact List.mem_cons_of_mem _ inside
      · simpa [Ubr.addVlan, bucket] using inside
  unique x y u u' left right vids := by
    rcases addVlan_heap_cases left with ⟨rfl, rfl⟩ | ⟨_, left⟩
    · rcases addVlan_heap_cases right with ⟨rfl, rfl⟩ | ⟨_, right⟩
      · rfl
      · exact absurd vids.symm (not_live_of_find_none ok missing right)
    · rcases addVlan_heap_cases right with ⟨rfl, rfl⟩ | ⟨_, right⟩
      · exact absurd vids (not_live_of_find_none ok missing left)
      · exact ok.unique x y u u' left right vids
  bounded x u added := by
    rcases addVlan_heap_cases added with ⟨rfl, rfl⟩ | ⟨_, old⟩
    · exact Nat.lt_succ_self _
    · exact Nat.lt_succ_of_lt (ok.bounded x u old)
  queued x queued := Nat.lt_succ_of_lt (ok.queued x queued)

theorem register (ok : VlansOk cfg s) (missing : ubrVlanFind cfg s vid = .ok none) :
    VlansOk cfg (s.register cfg vid) := by
  have added := ok.add missing
  exact ⟨added.hashed, added.unique, added.bounded, added.queued⟩

theorem free (ok : VlansOk cfg s) (r : VlanRef) : VlansOk cfg (ubrVlanDelRcu s r) := by
  have kept : ∀ x u, (ubrVlanDelRcu s r).heap x = some u → s.heap x = some u := by
    intro x u left
    by_cases here : x = r
    · simp [ubrVlanDelRcu, here] at left
    · simpa [ubrVlanDelRcu, here] using left
  exact {
    hashed := fun x u left => ok.hashed x u (kept x u left)
    unique := fun x y u u' left right => ok.unique x y u u' (kept x u left) (kept y u' right)
    bounded := fun x u left => ok.bounded x u (kept x u left)
    queued := fun x queued => ok.queued x (List.mem_of_mem_erase queued) }

/-- Queueing a callback for an object and changing anything but VLANs is harmless. -/
theorem drop (ok : VlansOk cfg s) (live : s.heap r = some v) : VlansOk cfg (s.dropVlan r v) := by
  have emptied := ok.put (w := { v with members := .zero }) live rfl
  exact {
    hashed := emptied.hashed
    unique := emptied.unique
    bounded := emptied.bounded
    queued := by
      intro x queued
      rcases List.mem_append.mp queued with old | new
      · exact ok.queued x old
      · cases List.mem_singleton.mp new
        exact ok.bounded r v live }

theorem plug (ok : VlansOk cfg s) {k : Pidx} {dev : Dev} (live : s.heap r = some v) :
    VlansOk cfg (s.plug k dev r v) := by
  have joined := ok.put (w := v.attach k false) live rfl
  exact ⟨joined.hashed, joined.unique, joined.bounded, joined.queued⟩

theorem fresh (dev : Dev) (devAddr : Mac) : VlansOk cfg (freshUbr cfg dev devAddr : Ubr τ) := by
  have empty : VlansOk cfg (zeroedUbr dev devAddr : Ubr τ) := ⟨nofun, nofun, nofun, nofun⟩
  have added : VlansOk cfg ((zeroedUbr dev devAddr : Ubr τ).addVlan cfg 0) := empty.add rfl
  have linked : VlansOk cfg (linkedUbr cfg dev devAddr : Ubr τ) :=
    ⟨added.hashed, added.unique, added.bounded, added.queued⟩
  exact linked.plug (linked_heap dev devAddr)

theorem step {s : Sys τ} {e : Event} {u : Ubr τ} (ok : VlansOk cfg s.ubr) (effect : Effect cfg s e u) :
    VlansOk cfg u := by
  cases effect with
  | quiet fdb => exact ⟨ok.hashed, ok.unique, ok.bounded, ok.queued⟩
  | vlanAdded missing => exact ok.register missing
  | vlanDeleted found live same fresh => exact ok.drop live
  | vlanFreed queued => exact ok.free _
  | attached found live same slot => exact ok.put live rfl
  | detached found live same slot => exact ok.put live rfl
  | pvidSet slot found => exact ⟨ok.hashed, ok.unique, ok.bounded, ok.queued⟩
  | portAdded begun whole found live => exact ok.plug live
  | @portAddFailed dev env k _ _ begun broken found live idle =>
      have plugged : VlansOk cfg (s.ubr.plug k dev _ _) := ok.plug live
      exact ⟨plugged.hashed, plugged.unique, plugged.bounded, plugged.queued⟩
  | portDeleted slave owned idle => exact ⟨ok.hashed, ok.unique, ok.bounded, ok.queued⟩
  | portCleaned queued once => exact ⟨ok.hashed, ok.unique, ok.bounded, ok.queued⟩

end VlansOk

theorem vlansOk_of_reachable [Jiffies τ] {s : Sys τ} (reached : Reachable (bridge τ cfg) s) :
    VlansOk cfg s.ubr := by
  refine reached.invariant (I := fun s => VlansOk cfg s.ubr) ?_ ?_
  · intro s init
    obtain ⟨dev, devAddr, same⟩ := init_ubr init
    rw [same]
    exact .fresh dev devAddr
  · intro s e s' o ok enabled done
    exact ok.step (exec_effect enabled done)

end UnassumingBridge
