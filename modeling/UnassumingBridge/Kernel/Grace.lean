import UnassumingBridge.Kernel.Transit

/-! # Frames in flight and the callbacks that wait for them

The machine of `UnassumingBridge.Kernel.Transit`, in which the callbacks of
`ubr_port_cleanup` and `ubr_vlan_del` run when `call_rcu` lets them: when every frame that
was in flight as the callback was queued has left the bridge.
-/

namespace UnassumingBridge

open Support

variable {τ : Type}

/-- What is known of a frame in flight. -/
structure Reader where
  /-- The devices of the slots when the frame came in. -/
  devs : Pidx → Option Dev
  /-- The slots whose cleanup waits for the frame. -/
  ports : List Pidx := []
  /-- The VLANs whose release waits for the frame. -/
  vlans : List VlanRef := []

/-- Callbacks are queued behind the frame. -/
def Reader.behind (w : Reader) (s s' : Ubr τ) : Reader :=
  { w with
    ports := w.ports ++ s'.portRcu.filter (!s.portRcu.contains ·)
    vlans := w.vlans ++ s'.vlanRcu.filter (!s.vlanRcu.contains ·) }

/-- A bridge with frames in flight and what RCU holds back for each of them. -/
structure Grace (τ : Type) where
  transit : Transit τ
  /-- One for each frame in flight. -/
  readers : List Reader := []

namespace Grace

def ubr (s : Grace τ) : Ubr τ := s.transit.sys.ubr

/-- The grace period of a callback is over. -/
def Elapsed (s : Grace τ) : TransitEvent → Prop
  | .around (.portCleanup slot) => ∀ w ∈ s.readers, slot ∉ w.ports
  | .around (.vlanFree vlan) => ∀ w ∈ s.readers, vlan ∉ w.vlans
  | _ => True

def Enabled (s : Grace τ) (e : TransitEvent) : Prop := s.transit.Enabled e ∧ s.Elapsed e

/-- Who is in flight after an event. -/
def readersAfter (s : Grace τ) (t : Transit τ) : TransitEvent → List Reader
  | .around _ => s.readers.map fun w => w.behind s.ubr t.sys.ubr
  | .rx .. | .xmit .. =>
      if s.transit.flight.length < t.flight.length then s.readers ++ [{ devs := fun k => (s.ubr.ports k).dev }]
      else s.readers
  | .egress i _ => if t.flight.length < s.transit.flight.length then s.readers.eraseIdx i else s.readers
  | .attach .. | .detach .. | .write => s.readers

def exec [Jiffies τ] (cfg : Config) (s : Grace τ) (e : TransitEvent) : Except Fault (Grace τ × Outcome) := do
  let (transit, o) ← s.transit.exec cfg e
  .ok ({ transit, readers := s.readersAfter transit e }, o)

end Grace

/-- The machine of one bridge with frames in flight and grace periods. -/
def grace (τ : Type) [Jiffies τ] (cfg : Config) : Machine (Grace τ) TransitEvent Outcome Fault where
  Init s := (transit τ cfg).Init s.transit ∧ s.readers = []
  Enabled := Grace.Enabled
  exec := Grace.exec cfg

instance (s : Grace τ) : (e : TransitEvent) → Decidable (s.Elapsed e)
  | .around (.portCleanup slot) => inferInstanceAs (Decidable (∀ w ∈ s.readers, slot ∉ w.ports))
  | .around (.vlanFree vlan) => inferInstanceAs (Decidable (∀ w ∈ s.readers, vlan ∉ w.vlans))
  | .around (.rx ..) | .around (.xmit ..) | .around (.age ..) | .around (.tick ..) | .around (.portAdd ..)
  | .around (.portDel ..) | .around (.vlanAdd ..) | .around (.vlanDel ..) | .around (.vlanAttach ..)
  | .around (.vlanDetach ..) | .around (.portSet ..) | .around (.devChange ..) => .isTrue trivial
  | .attach .. | .detach .. | .write | .rx .. | .xmit .. | .egress .. => .isTrue trivial

instance [Jiffies τ] (cfg : Config) (s : Grace τ) (e : TransitEvent) : Decidable ((grace τ cfg).Enabled s e) :=
  inferInstanceAs (Decidable ((transit τ cfg).Enabled s.transit e ∧ s.Elapsed e))

end UnassumingBridge
