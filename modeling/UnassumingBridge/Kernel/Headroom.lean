import UnassumingBridge.Kernel.System

/-! # Headroom (`ubr-dev.c`)

`ubr_update_headroom` with the values that it works on. `ubr_port_add` calls it on the
bridge that `ubr_port_init` leaves behind, before the steps that may fail.
-/

namespace UnassumingBridge

open Support

variable {τ : Type}

/-- A bridge and the headroom that its devices were told. -/
structure Headroom (τ : Type) where
  sys : Sys τ
  /-- `needed_headroom` of the bridge device -/
  needed : BitVec 16 := 0
  /-- What `netdev_set_rx_headroom` has set last on each device. -/
  rx : Dev → Option (BitVec 16) := fun _ => none

/-- `max_t(unsigned short, x, y)` -/
def maxShort (x y : BitVec 16) : BitVec 16 := if y < x then x else y

/-- The loop over the busy ports. -/
def setRxHeadroom (ubr : Ubr τ) (needed : BitVec 16) :
    List Pidx → (Dev → Option (BitVec 16)) → Except Fault (Dev → Option (BitVec 16))
  | [], rx => .ok rx
  | pidx :: rest, rx =>
      match (ubr.ports pidx).dev with
      | none => .error .nullDeref
      | some dev => setRxHeadroom ubr needed rest (Function.update rx dev (some needed))

/-- The bridge as `ubr_port_init` leaves it for the new device, when `ubr_port_add` gets so far. -/
def Sys.inited (cfg : Config) (s : Sys τ) : Event → Option (Dev × Ubr τ)
  | .portAdd dev _ =>
      match ubrPortAddAllowed (s.devs dev), s.ubr.busy.findFirstZero with
      | .ok (), some pidx => (ubrPortInit cfg s.ubr pidx dev).toOption.map fun ubr => (dev, ubr)
      | _, _ => none
  | _ => none

namespace Headroom

/-- `fwd` is `netdev_get_fwd_headroom`, which is taken to be constant. -/
def update (fwd : Dev → BitVec 16) (s : Headroom τ) (ubr : Ubr τ) (newDev : Dev) :
    Except Fault (BitVec 16 × (Dev → Option (BitVec 16))) := do
  let needed := maxShort s.needed (fwd newDev)
  let rx ← setRxHeadroom ubr needed ubr.busy.toList s.rx
  .ok (needed, rx)

def exec [Jiffies τ] (cfg : Config) (fwd : Dev → BitVec 16) (s : Headroom τ) (e : Event) :
    Except Fault (Headroom τ × Outcome) := do
  let (sys, o) ← s.sys.exec cfg e
  match s.sys.inited cfg e with
  | none => .ok ({ s with sys }, o)
  | some (newDev, ubr) => do
      let (needed, rx) ← s.update fwd ubr newDev
      .ok ({ sys, needed, rx }, o)

end Headroom

/-- The machine of one bridge with the headroom of its ports. -/
def headroom (τ : Type) [Jiffies τ] (cfg : Config) (fwd : Dev → BitVec 16) :
    Machine (Headroom τ) Event Outcome Fault where
  Init s := s.sys.Init cfg ∧ s.needed = 0 ∧ s.rx = fun _ => none
  Enabled s := s.sys.Enabled
  exec := Headroom.exec cfg fwd

instance [Jiffies τ] (cfg : Config) (fwd : Dev → BitVec 16) (s : Headroom τ) (e : Event) :
    Decidable ((headroom τ cfg fwd).Enabled s e) :=
  inferInstanceAs (Decidable (s.sys.Enabled e))

end UnassumingBridge
