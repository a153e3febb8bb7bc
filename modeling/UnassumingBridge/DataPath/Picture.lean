import UnassumingBridge.DataPath.Sightings
import UnassumingBridge.Invariants.Progress
import UnassumingBridge.Support.Refinement

/-! # The bridge as a learning switch

The learning switch that a bridge is meant to be, how events are read as events of that
switch, and when a switch is the picture of a bridge. Commands and the clock keep the
picture up to date.
-/

namespace UnassumingBridge

open Support

/-- Sightings count for 300 seconds, new ports and hub ports are in VLAN 0. -/
def design (cfg : Config) : LearningSwitch.Design Vid Pidx Mac where
  timeout := 300 * cfg.hz
  home := 0
  host := 0
  station := isValidEtherAddr

/-- The VLAN of untagged frames on a port; `none` when the port does not filter. -/
def pvidOf (pvid : Vid) : Option Vid := if pvid = 0 then none else some pvid

section Meaning

variable {τ : Type} (cfg : Config) (s : Sys τ)

/-- A frame on slot `k`, tagged with the VID that it brought along if that is not 0. -/
def Sys.frame (k : Pidx) (skb : Skb) (env : FrameEnv) : LearningSwitch.Event Vid Pidx Mac :=
  .frame k ((s.brought cfg k skb env).filter fun vid => vid ≠ 0) skb.frame.hSource skb.frame.hDest

/-- What an event is to the switch. -/
def Sys.meaning : Event → LearningSwitch.Event Vid Pidx Mac
  | .rx dev skb env =>
      match s.slotOf dev with
      | some k => s.frame cfg k skb env
      | none => .idle
  | .xmit skb env => s.frame cfg 0 skb env
  | .tick n => .tick n
  | .portAdd dev env =>
      match (s.initSlot dev).filter fun k => s.completes dev env k with
      | some k => .plug k
      | none => .idle
  | .portDel dev =>
      match s.slotOf dev with
      | some k => .unplug k
      | none => .idle
  | .vlanAdd vid zallocFails => if zallocFails || s.ubr.registered cfg vid then .idle else .add vid
  | .vlanAttach vid port _ =>
      match ubrPortFind s.ubr (some port) with
      | .ok k => .attach vid k
      | .error _ => .idle
  | .vlanDetach vid port =>
      match ubrPortFind s.ubr (some port) with
      | .ok k => .detach vid k
      | .error _ => .idle
  | .portSet port pvid =>
      match ubrPortFind s.ubr port with
      | .ok k => .filter k (pvidOf pvid)
      | .error _ => .idle
  | .age _ | .portCleanup _ | .vlanDel _ | .vlanFree _ | .devChange .. => .idle

end Meaning

/-- The switch `a` is what the bridge `u` stands for at the time `now`. -/
structure Pictures {w : Nat} (cfg : Config) (u : Ubr (BitVec w)) (now : BitVec w)
    (a : LearningSwitch.State Vid Pidx Mac) : Prop where
  ports k : k ∈ a.ports ↔ k ∈ u.busy
  pvid : ∀ k ∈ u.busy, a.pvid k = pvidOf (u.ports k).pvid
  members : ∀ r v, u.heap r = some v → a.members v.vid = some (UbrVec.ports v.members)
  absent vid : (∀ r v, u.heap r = some v → v.vid ≠ vid) → a.members vid = none
  stations vid m : Known (300 * cfg.hz) now (u.fdb.lookup (macKey vid m)) (a.stations vid m)
  timeout : u.fdb.ageingTimeout = 300 * cfg.hz

/-- What came out is what the switch answers: one copy for each port of the set. -/
def Answers (o : Outcome) : Option (Set Pidx) → Prop
  | none => o.log = []
  | some out => ∃ vec, UbrVec.ports vec = out ∧ DeliveredTo vec o.log

/-- How a bridge is read as a switch. -/
def asSwitch {w : Nat} (cfg : Config) : Reading (Sys (BitVec w)) Event Outcome (LearningSwitch.State Vid Pidx Mac)
    (LearningSwitch.Event Vid Pidx Mac) (Option (Set Pidx)) where
  same s a := Pictures cfg s.ubr s.jiffies a
  event := Sys.meaning cfg
  answer := Answers

/-- The event does not crash, and the switch can do the same. -/
structure Mirrors {w : Nat} (cfg : Config) (s : Sys (BitVec w)) (a : LearningSwitch.State Vid Pidx Mac) (e : Event) :
    Prop where
  enabled : a.Enabled (design cfg) (s.meaning cfg e)
  done : ∃ s' o, s.exec cfg e = .ok (s', o) ∧ Answers o (a.answer (design cfg) (s.meaning cfg e)) ∧
    Pictures cfg s'.ubr s'.jiffies (a.next (design cfg) (s.meaning cfg e))

namespace Pictures

variable {w : Nat} {cfg : Config} {u : Ubr (BitVec w)} {now : BitVec w} {a b : LearningSwitch.State Vid Pidx Mac}

theorem rewire {u' : Ubr (BitVec w)} (pictures : Pictures cfg u now a) (heap : u'.heap = u.heap) (fdb : u'.fdb = u.fdb)
    (ports : ∀ k, k ∈ b.ports ↔ k ∈ u'.busy) (pvid : ∀ k ∈ u'.busy, b.pvid k = pvidOf (u'.ports k).pvid)
    (members : b.members = a.members) (stations : b.stations = a.stations) : Pictures cfg u' now b where
  ports := ports
  pvid := pvid
  members := heap ▸ members ▸ pictures.members
  absent := heap ▸ members ▸ pictures.absent
  stations := fdb ▸ stations ▸ pictures.stations
  timeout := fdb ▸ pictures.timeout

theorem restation (pictures : Pictures cfg u now a) {fdb : UbrFdb (BitVec w)} {later : BitVec w}
    (ports : b.ports = a.ports)
    (pvid : b.pvid = a.pvid) (members : b.members = a.members) (timeout : fdb.ageingTimeout = u.fdb.ageingTimeout)
    (stations : ∀ vid m, Known (300 * cfg.hz) later (fdb.lookup (macKey vid m)) (b.stations vid m)) :
    Pictures cfg { u with fdb } later b where
  ports k := ports ▸ pictures.ports k
  pvid := pvid ▸ pictures.pvid
  members := members ▸ pictures.members
  absent := members ▸ pictures.absent
  stations := stations
  timeout := timeout.trans pictures.timeout

theorem putVlan (pictures : Pictures cfg u now a) (vlans : VlansOk cfg u) {r : VlanRef} {v : UbrVlan}
    (object : u.heap r = some v) (w : UbrVlan) (same : w.vid = v.vid) (ports : b.ports = a.ports)
    (pvid : b.pvid = a.pvid)
    (members : b.members = Function.update a.members v.vid (some (UbrVec.ports w.members)))
    (stations : b.stations = a.stations) : Pictures cfg (u.putVlan r w) now b where
  ports k := ports ▸ pictures.ports k
  pvid := pvid ▸ pictures.pvid
  members x y written := by
    rw [members]
    rcases putVlan_heap written with ⟨rfl, rfl⟩ | ⟨other, old⟩
    · rw [same, Function.update_self]
    · have apart : y.vid ≠ v.vid := fun alike => other (vlans.unique x r y v old object alike)
      rw [Function.update_of_ne apart]
      exact pictures.members x y old
  absent vid missing := by
    have other : vid ≠ v.vid := by
      rintro rfl
      exact missing r w (by simp [Ubr.putVlan]) same
    rw [members, Function.update_of_ne other]
    apply pictures.absent
    intro x y old alike
    by_cases here : x = r
    · subst here
      cases object.symm.trans old
      exact other alike.symm
    · exact missing x y (by simpa [Ubr.putVlan, here] using old) alike
  stations := stations ▸ pictures.stations
  timeout := pictures.timeout

theorem register (pictures : Pictures cfg u now a) (vlans : VlansOk cfg u) {vid : Vid}
    (missing : ubrVlanFind cfg u vid = .ok none) :
    Pictures cfg (u.register cfg vid) now (a.next (design cfg) (.add vid)) where
  ports := pictures.ports
  pvid k inUse := by
    have kept : ((u.register cfg vid).ports k).pvid = (u.ports k).pvid := by
      by_cases mine : k ∈ u.busy ∧ (u.ports k).pvid = vid
      · have slot : (u.register cfg vid).ports k = { u.ports k with ingressCb.vlan := some u.nextVlan } := if_pos mine
        rw [slot]
      · have slot : (u.register cfg vid).ports k = u.ports k := if_neg mine
        rw [slot]
    rw [kept]
    exact pictures.pvid k inUse
  members r v object := by
    have added : (u.addVlan cfg vid).heap r = some v := object
    rw [LearningSwitch.members_add]
    rcases addVlan_heap_cases added with ⟨_, rfl⟩ | ⟨_, old⟩
    · have none : UbrVec.ports (newVlan vid).members = ∅ := by
        ext k
        simp [UbrVec.ports, newVlan]
      rw [none]
      exact Function.update_self ..
    · rw [Function.update_of_ne (not_live_of_find_none vlans missing old)]
      exact pictures.members r v old
  absent j unknown := by
    have other : j ≠ vid := by
      rintro rfl
      exact unknown u.nextVlan (newVlan j) (addVlan_heap cfg u j) rfl
    rw [LearningSwitch.members_add, Function.update_of_ne other]
    apply pictures.absent
    intro r v old
    have before : r ≠ u.nextVlan := Nat.ne_of_lt (vlans.bounded r v old)
    have kept : (u.addVlan cfg vid).heap r = some v := by simpa [Ubr.addVlan, before] using old
    exact unknown r v kept
  stations vid' m := by
    rw [LearningSwitch.stations_kept (.inl ⟨vid, rfl⟩)]
    exact pictures.stations vid' m
  timeout := pictures.timeout

theorem plug (pictures : Pictures cfg u now a) (vlans : VlansOk cfg u) {r : VlanRef} {v : UbrVlan}
    (object : u.heap r = some v) (home : v.vid = 0) {k : Pidx} (clean : u.ports k = {}) (dev : Dev) :
    Pictures cfg (u.plug k dev r v) now (a.next (design cfg) (.plug k)) := by
  have known : a.members (design cfg).home = some (UbrVec.ports v.members) := by
    rw [← pictures.members r v object, home]
    rfl
  have joined : Pictures cfg (u.putVlan r (v.attach k false)) now
      { a with members := Function.update a.members v.vid (some (insert k (UbrVec.ports v.members))) } :=
    pictures.putVlan vlans object _ rfl rfl rfl (by rw [UbrVlan.attach, ports_set]) rfl
  refine joined.rewire rfl rfl (fun j => ?_) (fun j inUse => ?_) ?_ ?_
  · change j ∈ insert k a.ports ↔ j ∈ u.busy.set k
    rw [Set.mem_insert_iff, Bitmap.mem_set, pictures.ports]
  · change Function.update a.pvid k none j = _
    by_cases here : j = k
    · rw [here, Function.update_self, plug_self, clean]
      rfl
    · rw [Function.update_of_ne here, plug_other _ _ here]
      exact pictures.pvid j ((Bitmap.mem_set.mp inUse).resolve_left here)
  · rw [LearningSwitch.members_plug known, home]
    rfl
  · exact LearningSwitch.stations_kept (.inr (.inr (.inr ⟨k, rfl⟩)))

/-- A port goes when it is in no VLAN and no current entry speaks of it. -/
theorem vacate (wide : 0 < w) (half : 300 * cfg.hz < 2 ^ (w - 1)) (pictures : Pictures cfg u now a) {k : Pidx}
    (left : ∀ r v, u.heap r = some v → k ∉ v.members)
    (silent : ∀ vid m, ∀ node ∈ u.fdb.lookup (macKey vid m), ¬ Lapsed (300 * cfg.hz) now node → k ∉ node.vec) :
    Pictures cfg (u.vacate k) now (a.next (design cfg) (.unplug k)) where
  ports j := by
    change j ∈ a.ports \ {k} ↔ j ∈ u.busy.clear k
    rw [Set.mem_sdiff, Set.mem_singleton_iff, Bitmap.mem_clear, pictures.ports, and_comm]
  pvid j inUse := pictures.pvid j (Bitmap.mem_clear.mp inUse).2
  members r v object := by
    change (a.members v.vid).map (fun m => m \ {k}) = _
    have outside : k ∉ UbrVec.ports v.members := left r v object
    rw [pictures.members r v object, Option.map_some, Set.sdiff_singleton_eq_self outside]
  absent vid missing := by
    change (a.members vid).map (fun m => m \ {k}) = _
    rw [pictures.absent vid missing, Option.map_none]
  stations vid m := (pictures.stations vid m).unplug wide half (silent vid m)
  timeout := pictures.timeout

theorem fresh (dev : Dev) (devAddr : Mac) :
    Pictures cfg (freshUbr cfg dev devAddr) now (LearningSwitch.fresh (design cfg)) where
  ports k := (fresh_busy dev devAddr k).symm
  pvid k inUse := by
    rw [fresh_port, if_pos ((fresh_busy dev devAddr k).mp inUse)]
    rfl
  members r v object := by
    rcases putVlan_heap object with ⟨_, rfl⟩ | ⟨other, old⟩
    · have host : UbrVec.ports ((newVlan 0).attach 0 false).members = {0} := by
        ext k
        simp [UbrVec.ports, newVlan, UbrVlan.attach]
      rw [host]
      change Function.update (fun _ => none) (0 : Vid) (some {0}) 0 = _
      exact Function.update_self ..
    · have added : ((zeroedUbr dev devAddr : Ubr (BitVec w)).addVlan cfg 0).heap r = some v := old
      rcases addVlan_heap_cases added with ⟨first, _⟩ | ⟨_, empty⟩
      · exact absurd first other
      · cases empty
  absent vid missing := by
    have object : (freshUbr cfg dev devAddr : Ubr (BitVec w)).heap 0 = some ((newVlan 0).attach 0 false) := by
      simp [freshUbr, Ubr.plug, Ubr.putVlan, Ubr.putPort]
    have other : vid ≠ 0 := (missing 0 _ object).symm
    change Function.update (fun _ => none) (0 : Vid) (some {0}) vid = none
    exact Function.update_of_ne other ..
  stations vid m := .unknown
  timeout := rfl

end Pictures
end UnassumingBridge
