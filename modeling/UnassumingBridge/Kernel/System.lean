import UnassumingBridge.Kernel.Dev
import UnassumingBridge.Kernel.Netlink
import UnassumingBridge.Support.Machine

/-! # The bridge as a machine

One bridge from its creation on, with the network devices around it and the
clock. Events are the entry points of the module, the RCU callbacks it has
queued, and what the rest of the kernel does to devices that are not its slaves.
-/

namespace UnassumingBridge

open Support

variable {τ : Type}

/-- One bridge, the devices of its network namespace, and the clock. -/
structure Sys (τ : Type) where
  ubr : Ubr τ
  devs : Dev → NetDev
  jiffies : τ

/-- The slot that the device's `rx_handler_data` points at, for a slave of this bridge. -/
def Sys.slotOf (s : Sys τ) (dev : Dev) : Option Pidx :=
  match (s.devs dev).rxHandler with
  | some (.ubrPort bridge slot) => if bridge = s.ubr.dev then some slot else none
  | _ => none

/-- What happens to the bridge: frames, the ageing work, commands, callbacks, and the rest of
    the kernel. -/
inductive Event where
  /-- a frame received on a slave -/
  | rx (dev : Dev) (skb : Skb) (env : FrameEnv)
  /-- a frame sent by the host through the bridge device -/
  | xmit (skb : Skb) (env : FrameEnv)
  | age (walk : List WalkItem)
  | tick (n : Nat)
  | portAdd (dev : Dev) (env : PortAddEnv)
  | portDel (dev : Dev)
  | portCleanup (slot : Pidx)
  | vlanAdd (vid : Vid) (zallocFails : Bool)
  | vlanDel (vid : Vid)
  | vlanFree (vlan : VlanRef)
  | vlanAttach (vid : Vid) (port : Dev) (tagged : BitVec 32)
  | vlanDetach (vid : Vid) (port : Dev)
  | portSet (port : Option Dev) (pvid : Vid)
  /-- the rest of the kernel reconfigures a device that is not a slave -/
  | devChange (dev : Dev) (nd : NetDev)

/-- What an event returns and what it does with buffers. -/
structure Outcome where
  ret : Ret := .ok ()
  log : List SkbEvent := []

/-- The executed events, newest first. -/
abbrev History (τ : Type) := List (Transition (Sys τ) Event Outcome)

def NetDev.onBridge (nd : NetDev) (bridge : Dev) : Bool :=
  match nd.rxHandler with
  | some (.ubrPort b _) => b = bridge
  | _ => false

/-- Slaves are the only devices that frames come from and that are released;
    a callback runs when it is queued. -/
def Sys.Enabled (s : Sys τ) : Event → Prop
  | .rx dev _ _ => (s.slotOf dev).isSome
  | .portDel dev => (s.slotOf dev).isSome
  | .portCleanup slot => slot ∈ s.ubr.portRcu
  | .vlanFree vlan => vlan ∈ s.ubr.vlanRcu
  | .devChange dev nd => s.slotOf dev = none ∧ nd.onBridge s.ubr.dev = false
  | _ => True

instance (s : Sys τ) : (e : Event) → Decidable (s.Enabled e)
  | .rx dev _ _ | .portDel dev => inferInstanceAs (Decidable ((s.slotOf dev).isSome = true))
  | .portCleanup slot => inferInstanceAs (Decidable (slot ∈ s.ubr.portRcu))
  | .vlanFree vlan => inferInstanceAs (Decidable (vlan ∈ s.ubr.vlanRcu))
  | .devChange dev nd =>
      inferInstanceAs (Decidable (s.slotOf dev = none ∧ nd.onBridge s.ubr.dev = false))
  | .xmit .. | .age .. | .tick .. | .portAdd .. | .vlanAdd .. | .vlanDel .. | .vlanAttach ..
  | .vlanDetach .. | .portSet .. => .isTrue trivial

/-- The system after the bridge handled a frame. -/
def Sys.forwarded (s : Sys τ) (run : Forwarding (Ubr τ × Bool)) : Except Fault (Sys τ × Outcome) :=
  match run.res with
  | .error e => .error e
  | .ok (ubr, _) => .ok ({ s with ubr }, { log := run.log })

def Sys.configured (s : Sys τ) (result : Except Fault (Ubr τ × Ret)) : Except Fault (Sys τ × Outcome) :=
  match result with
  | .error e => .error e
  | .ok (ubr, ret) => .ok ({ s with ubr }, { ret })

def Sys.setDev (s : Sys τ) (dev : Dev) (nd : NetDev) : Sys τ :=
  { s with devs := Function.update s.devs dev nd }

variable [Jiffies τ]

def Sys.exec (cfg : Config) (s : Sys τ) : Event → Except Fault (Sys τ × Outcome)
  | .rx dev skb env =>
      match s.slotOf dev with
      | none => .ok (s, {})
      | some slot => s.forwarded (ubrPortRxHandler cfg s.ubr s.jiffies env slot skb)
  | .xmit skb env => s.forwarded (ubrNdoStartXmit cfg s.ubr s.jiffies env skb)
  | .age walk => .ok ({ s with ubr.fdb := ubrFdbAge s.ubr.fdb s.jiffies walk }, {})
  | .tick n => .ok ({ s with jiffies := Jiffies.later s.jiffies n }, {})
  | .portAdd dev env => do
      let (ubr, nd, ret) ← ubrPortAdd cfg s.ubr dev env (s.devs dev)
      .ok ({ s with ubr }.setDev dev nd, { ret })
  | .portDel dev => do
      let (ubr, nd) ← ubrPortDel s.ubr (s.devs dev)
      .ok ({ s with ubr }.setDev dev nd, {})
  | .portCleanup slot => do
      let ubr ← ubrPortCleanupRcu s.ubr slot
      .ok ({ s with ubr }, {})
  | .vlanAdd vid zallocFails => s.configured (ubrVlanNlAdd cfg s.ubr vid zallocFails)
  | .vlanDel vid => s.configured (ubrVlanNlDel cfg s.ubr vid)
  | .vlanFree vlan => .ok ({ s with ubr := ubrVlanDelRcu s.ubr vlan }, {})
  | .vlanAttach vid port tagged => s.configured (ubrVlanNlAttach cfg s.ubr vid port tagged)
  | .vlanDetach vid port => s.configured (ubrVlanNlDetach cfg s.ubr vid port)
  | .portSet port pvid => s.configured (ubrPortNlSet cfg s.ubr port pvid)
  | .devChange dev nd => .ok (s.setDev dev nd, {})

/-- A bridge that was just created; no device points into its memory yet. -/
def Sys.Init (cfg : Config) (s : Sys τ) : Prop :=
  (∃ dev devAddr env, ubrDevNewlink cfg dev devAddr env = .ok (.ok s.ubr)) ∧
    ∀ dev, s.slotOf dev = none

/-- The machine of one bridge. -/
def bridge (τ : Type) [Jiffies τ] (cfg : Config) : Machine (Sys τ) Event Outcome Fault where
  Init := Sys.Init cfg
  Enabled := Sys.Enabled
  exec := Sys.exec cfg

instance (cfg : Config) (s : Sys τ) (e : Event) : Decidable ((bridge τ cfg).Enabled s e) :=
  inferInstanceAs (Decidable (s.Enabled e))

end UnassumingBridge
