import UnassumingBridge.Invariants.Ports
import UnassumingBridge.Invariants.Registry

/-! # Membership of VLANs

A port is a set bit in the objects of its VLANs. Nothing clears these bits when
the port goes away, so they name live ports only as long as every port has left
its VLANs before it is removed.
-/

namespace UnassumingBridge

open Support

variable {τ : Type} {cfg : Config}

/-- The members of a registered VLAN are busy slots, and its tagged ports are members. -/
structure MembersOk (s : Ubr τ) : Prop where
  busy : ∀ r v, s.Live r v → ∀ k ∈ v.members, k ∈ s.busy
  tagged : ∀ r v, s.Live r v → ∀ k ∈ v.tagged, k ∈ v.members

/-- A port is removed when it is in no live VLAN. While VLAN 0 is registered, an
    addition that has initialised its slot succeeds; otherwise it fails. -/
def Sys.KeepsMembers (cfg : Config) (s : Sys τ) : Event → Prop
  | .portDel dev => ∀ k ∈ s.slotOf dev, ∀ r < s.ubr.nextVlan, ∀ v ∈ s.ubr.heap r,
      r ∉ s.ubr.vlanRcu → k ∉ v.members
  | .portAdd dev env => ∀ k ∈ s.initSlot dev, s.completes dev env k = s.ubr.registered cfg 0
  | _ => True

instance (s : Sys τ) : (e : Event) → Decidable (s.KeepsMembers cfg e)
  | .portDel dev => inferInstanceAs (Decidable (∀ k ∈ s.slotOf dev, ∀ r < s.ubr.nextVlan,
      ∀ v ∈ s.ubr.heap r, r ∉ s.ubr.vlanRcu → k ∉ v.members))
  | .portAdd dev env =>
      inferInstanceAs (Decidable (∀ k ∈ s.initSlot dev, s.completes dev env k = s.ubr.registered cfg 0))
  | .rx .. | .xmit .. | .age .. | .tick .. | .portCleanup .. | .vlanAdd .. | .vlanDel ..
  | .vlanFree .. | .vlanAttach .. | .vlanDetach .. | .portSet .. | .devChange .. => .isTrue trivial

namespace MembersOk

section Operations

variable {s : Ubr τ} {r : VlanRef} {v w : UbrVlan} {k : Pidx}

theorem put (ok : MembersOk s) (live : s.heap r = some v)
    (busy : s.Live r v → ∀ k ∈ w.members, k ∈ s.busy)
    (tagged : s.Live r v → ∀ k ∈ w.tagged, k ∈ w.members) : MembersOk (s.putVlan r w) where
  busy x u stays := by
    rcases live_putVlan live stays with ⟨rfl, rfl, before⟩ | ⟨_, before⟩
    · exact busy before
    · exact ok.busy x u before
  tagged x u stays := by
    rcases live_putVlan live stays with ⟨rfl, rfl, before⟩ | ⟨_, before⟩
    · exact tagged before
    · exact ok.tagged x u before

theorem attach (ok : MembersOk s) (live : s.heap r = some v) (inUse : k ∈ s.busy) (tagged : Bool) :
    MembersOk (s.putVlan r (v.attach k tagged)) := by
  refine ok.put live ?_ ?_
  · intro before j member
    rcases Bitmap.mem_set.mp member with rfl | old
    · exact inUse
    · exact ok.busy r v before j old
  · intro before j inside
    have old : j = k ∨ j ∈ v.tagged := by
      cases tagged with
      | true => exact Bitmap.mem_set.mp inside
      | false => exact .inr inside
    rcases old with rfl | old
    · exact Bitmap.mem_set.mpr (.inl rfl)
    · exact Bitmap.mem_set.mpr (.inr (ok.tagged r v before j old))

theorem detach (ok : MembersOk s) (live : s.heap r = some v) (k : Pidx) :
    MembersOk (s.putVlan r (v.detach k)) := by
  refine ok.put live ?_ ?_
  · intro before j member
    exact ok.busy r v before j (Bitmap.mem_clear.mp member).2
  · intro before j inside
    obtain ⟨other, old⟩ := Bitmap.mem_clear.mp inside
    exact Bitmap.mem_clear.mpr ⟨other, ok.tagged r v before j old⟩

theorem grow (ok : MembersOk s) (k : Pidx) : MembersOk { s with busy := s.busy.set k } where
  busy r v live j member := Bitmap.mem_set.mpr (.inr (ok.busy r v live j member))
  tagged := ok.tagged

theorem add (ok : MembersOk s) (vid : Vid) : MembersOk (s.addVlan cfg vid) where
  busy x u live := by
    rcases live_addVlan live with ⟨_, rfl⟩ | old
    · intro j member
      exact absurd member (Bitmap.mem_zero j)
    · exact ok.busy x u old
  tagged x u live := by
    rcases live_addVlan live with ⟨_, rfl⟩ | old
    · intro j member
      exact absurd member (Bitmap.mem_zero j)
    · exact ok.tagged x u old

theorem plug (ok : MembersOk s) (live : s.heap r = some v) (dev : Dev) :
    MembersOk (s.plug k dev r v) := by
  have joined := (ok.grow k).attach live (Bitmap.mem_set.mpr (.inl rfl)) false
  exact ⟨joined.busy, joined.tagged⟩

end Operations

variable {s : Sys τ} {e : Event} {u : Ubr τ}

theorem step (ok : MembersOk s.ubr) (safe : s.KeepsMembers cfg e) (vlans : VlansOk cfg s.ubr)
    (effect : Effect cfg s e u) : MembersOk u := by
  cases effect with
  | quiet fdb => exact ⟨ok.busy, ok.tagged⟩
  | @vlanAdded vid _ missing =>
      have added : MembersOk (s.ubr.addVlan cfg vid) := ok.add vid
      exact ⟨added.busy, added.tagged⟩
  | vlanDeleted found live same fresh =>
      exact ⟨fun x u left => ok.busy x u (live_dropVlan.mp left).2,
        fun x u left => ok.tagged x u (live_dropVlan.mp left).2⟩
  | vlanFreed queued =>
      exact ⟨fun x u left => ok.busy x u ((live_freed queued).mp left),
        fun x u left => ok.tagged x u ((live_freed queued).mp left)⟩
  | attached found live same slot => exact ok.attach live (ubrPortFind_ok slot).1 _
  | detached found live same slot => exact ok.detach live _
  | pvidSet slot found => exact ⟨ok.busy, ok.tagged⟩
  | portAdded begun whole found live => exact ok.plug live _
  | @portAddFailed dev env k r v begun broken found live idle =>
      have gone : s.ubr.registered cfg 0 = false := (safe k begun).symm.trans broken
      have queued : r ∈ s.ubr.vlanRcu := by
        rw [registered_eq found] at gone
        simpa using gone
      have untouched : ∀ x u, (s.ubr.putVlan r (v.attach k false)).Live x u → s.ubr.Live x u := by
        intro x u left
        rcases live_putVlan live left with ⟨_, _, before⟩ | ⟨_, before⟩
        · exact absurd queued before.2
        · exact before
      refine ⟨fun x u left j member => ?_, fun x u left => ok.tagged x u (untouched x u left)⟩
      have before := ok.busy x u (untouched x u left) j member
      refine Bitmap.mem_clear.mpr ⟨?_, Bitmap.mem_set.mpr (.inr before)⟩
      intro here
      exact initSlot_idle begun (here ▸ before)
  | @portDeleted dev k slave owned idle =>
      refine ⟨fun x u left j member => ?_, ok.tagged⟩
      refine Bitmap.mem_clear.mpr ⟨?_, ok.busy x u left j member⟩
      intro here
      exact safe k slave x (vlans.bounded x u left.1) u left.1 left.2 (here ▸ member)
  | portCleaned queued once => exact ⟨ok.busy, ok.tagged⟩

theorem fresh (dev : Dev) (devAddr : Mac) : MembersOk (freshUbr cfg dev devAddr : Ubr τ) := by
  have empty : MembersOk (zeroedUbr dev devAddr : Ubr τ) := by
    constructor
    · intro r v live
      cases live.1
    · intro r v live
      cases live.1
  have added : MembersOk ((zeroedUbr dev devAddr : Ubr τ).addVlan cfg 0) := empty.add 0
  have linked : MembersOk (linkedUbr cfg dev devAddr : Ubr τ) := ⟨added.busy, added.tagged⟩
  exact linked.plug (linked_heap dev devAddr) dev

end MembersOk

variable [Jiffies τ]

end UnassumingBridge
