import UnassumingBridge.Kernel.Genl
import UnassumingBridge.Kernel.System

/-! # All bridges as one machine

Any number of bridges, from the loading of the module on. What happens to one bridge
is an event of its own machine; the link operations of `ubr-dev.c` and the requests of
user space choose the bridge.

Each event is one step here. What passes through a bridge while `ubr_dev_dellink` is at
work is in `UnassumingBridge.Kernel.Teardown`.
-/

namespace UnassumingBridge

open Support

variable {τ : Type}

/-- What happens in a network namespace with any number of bridges. -/
inductive NetEvent where
  /-- a bridge is created -/
  | newlink (ifindex : BitVec 32) (devAddr : Mac) (env : NewlinkEnv)
  /-- a device of another kind appears -/
  | appear (ifindex : BitVec 32) (nd : NetDev)
  | addSlave (bridge dev : Dev) (env : PortAddEnv)
  | delSlave (bridge dev : Dev)
  /-- a device that is not a bridge goes away -/
  | unregister (dev : Dev)
  | dellink (bridge : Dev)
  /-- a generic netlink request; `admin` says that the sender has `CAP_NET_ADMIN` -/
  | request (admin : Bool) (req : Request)
  | rx (dev : Dev) (skb : Skb) (env : FrameEnv)
  | xmit (bridge : Dev) (skb : Skb) (env : FrameEnv)
  | age (bridge : Dev) (walk : List WalkItem)
  | portCleanup (bridge : Dev) (slot : Pidx)
  | vlanFree (bridge : Dev) (vlan : VlanRef)
  | tick (n : Nat)
  /-- the rest of the kernel reconfigures a device that is not a slave of a bridge -/
  | devChange (dev : Dev) (nd : NetDev)
  /-- the rest of the kernel changes the counts of any device -/
  | counted (dev : Dev) (promisc allmulti : Int)

/-- The device has nothing of this module. -/
def NetDev.outside (nd : NetDev) : Bool :=
  !nd.ubrPort && match nd.rxHandler with
    | some (.ubrPort ..) => false
    | _ => true

namespace Net

/-- One bridge with the devices around it. -/
def sys (net : Net τ) (ubr : Ubr τ) : Sys τ := ⟨ubr, net.devs, net.jiffies⟩

/-- The master, if there is one, is a device that exists and no bridge. -/
def foreignMaster (net : Net τ) (nd : NetDev) : Bool :=
  nd.master.all fun master => decide (master < net.nextDev) && (net.ubrs master).isNone

/-- A callback runs when it is queued, a bridge is used while it exists. -/
def Enabled (net : Net τ) : NetEvent → Prop
  | .newlink ifindex _ _ => net.byIndex ifindex = none
  | .appear ifindex nd => net.byIndex ifindex = none ∧ nd.outside = true ∧ net.foreignMaster nd = true
  | .addSlave bridge dev _ => (net.ubrs bridge).isSome ∧ dev < net.nextDev
  | .delSlave bridge dev => (net.ubrs bridge).isSome ∧ (net.devs dev).master = some bridge
  | .unregister dev => dev < net.nextDev ∧ net.ubrs dev = none
  | .dellink bridge | .xmit bridge _ _ | .age bridge _ => (net.ubrs bridge).isSome
  | .rx dev _ _ => (net.devs dev).outside = false
  | .portCleanup bridge slot => ∃ ubr ∈ net.ubrs bridge, slot ∈ ubr.portRcu
  | .vlanFree bridge vlan => ∃ ubr ∈ net.ubrs bridge, vlan ∈ ubr.vlanRcu
  | .devChange dev nd => dev < net.nextDev ∧ (net.devs dev).outside = true ∧
      net.foreignMaster (net.devs dev) = true ∧ nd.outside = true ∧ net.foreignMaster nd = true
  | .request .. | .tick .. | .counted .. => True

def setDev (net : Net τ) (dev : Dev) (nd : NetDev) : Net τ :=
  { net with
    devs := Function.update net.devs dev nd
    othersPromisc := Function.update net.othersPromisc dev nd.promiscuity
    othersAllmulti := Function.update net.othersAllmulti dev nd.allmulti }

/-- A device is registered under an index. -/
def enlist (net : Net τ) (ifindex : BitVec 32) (nd : NetDev) : Net τ :=
  { net.setDev net.nextDev nd with
    byIndex := Function.update net.byIndex ifindex (some net.nextDev)
    nextDev := net.nextDev + 1 }

def delist (net : Net τ) (dev : Dev) : Net τ :=
  { net with byIndex := fun ifindex => if net.byIndex ifindex = some dev then none else net.byIndex ifindex }

def withSys (net : Net τ) (bridge : Dev) (s : Sys τ) : Net τ :=
  { net with
    devs := s.devs
    ubrs := Function.update net.ubrs bridge (some s.ubr) }

def counted (net : Net τ) (dev : Dev) (promisc allmulti : Int) : Net τ :=
  { net with
    devs := Function.update net.devs dev { net.devs dev with
      promiscuity := (net.devs dev).promiscuity + promisc
      allmulti := (net.devs dev).allmulti + allmulti }
    othersPromisc := Function.update net.othersPromisc dev (net.othersPromisc dev + promisc)
    othersAllmulti := Function.update net.othersAllmulti dev (net.othersAllmulti dev + allmulti) }

end Net

/-- The loop of `ubr_dev_dellink`, which tests every bit when it gets there. -/
def dellinkPorts (s : Sys τ) : List Pidx → Except Fault (Sys τ)
  | [] => .ok s
  | pidx :: rest =>
      if pidx ∉ s.ubr.busy ∨ pidx = 0 then dellinkPorts s rest
      else
        match (s.ubr.ports pidx).dev with
        | none => .error .nullDeref
        | some dev => do
            let (ubr, nd) ← ubrPortDel s.ubr (s.devs dev)
            dellinkPorts ({ s with ubr }.setDev dev nd) rest

/-- `ubr_dev_dellink` up to the unregistration. The bridge's own memory goes with the
    device, after the callbacks that are queued for it. -/
def ubrDevDellink (net : Net τ) (bridge : Dev) : Except Fault (Net τ) :=
  match net.ubrs bridge with
  | none => .error .useAfterFree
  | some ubr => do
      let s ← dellinkPorts (net.sys ubr) (List.finRange 256)
      .ok { net with
        devs := s.devs
        ubrs := Function.update net.ubrs bridge none }

variable [Jiffies τ]

/-- An event of one bridge. -/
def Net.onBridge (cfg : Config) (net : Net τ) (bridge : Dev) (e : Event) : Except Fault (Net τ × Outcome) :=
  match net.ubrs bridge with
  | none => .error .useAfterFree
  | some ubr => do
      let (s, o) ← (net.sys ubr).exec cfg e
      .ok (net.withSys bridge s, o)

/-- `ubr_device_event` for `NETDEV_UNREGISTER` -/
def ubrDeviceEvent (cfg : Config) (net : Net τ) (dev : Dev) : Except Fault (Net τ × Outcome) :=
  if !(net.devs dev).ubrPort then .ok (net, {})
  else
    match (net.devs dev).rxHandler with
    | some (.ubrPort bridge _) => net.onBridge cfg bridge (.portDel dev)
    | _ => .error .nullDeref

/-- The notifiers hear of an unregistration before the index is given up. -/
def Net.unregister (cfg : Config) (net : Net τ) (dev : Dev) : Except Fault (Net τ × Outcome) := do
  let (net, o) ← ubrDeviceEvent cfg net dev
  .ok (net.delist dev, o)

/-- `ubr_dev_dellink` and the unregistration that follows it are one step. -/
def Net.exec (cfg : Config) (net : Net τ) : NetEvent → Except Fault (Net τ × Outcome)
  | .newlink ifindex devAddr env => do
      match ← ubrDevNewlink cfg net.nextDev devAddr env with
      | .error e => .ok ({ net with nextDev := net.nextDev + 1 }, { ret := .error e })
      | .ok ubr => .ok ((net.enlist ifindex { devAddr }).setUbr net.nextDev ubr, {})
  | .appear ifindex nd => .ok (net.enlist ifindex nd, {})
  | .addSlave bridge dev env => net.onBridge cfg bridge (.portAdd dev env)
  | .delSlave bridge dev => net.onBridge cfg bridge (.portDel dev)
  | .unregister dev => net.unregister cfg dev
  | .dellink bridge => do
      let net ← ubrDevDellink net bridge
      net.unregister cfg bridge
  | .request admin req => do
      let (net, ret) ← genlRcvMsg cfg net admin req
      .ok (net, { ret })
  | .rx dev skb env =>
      match (net.devs dev).rxHandler with
      | some (.ubrPort bridge _) => net.onBridge cfg bridge (.rx dev skb env)
      | _ => .ok (net, {})
  | .xmit bridge skb env => net.onBridge cfg bridge (.xmit skb env)
  | .age bridge walk => net.onBridge cfg bridge (.age walk)
  | .portCleanup bridge slot => net.onBridge cfg bridge (.portCleanup slot)
  | .vlanFree bridge vlan => net.onBridge cfg bridge (.vlanFree vlan)
  | .tick n => .ok ({ net with jiffies := Jiffies.later net.jiffies n }, {})
  | .devChange dev nd => .ok (net.setDev dev nd, {})
  | .counted dev promisc allmulti => .ok (net.counted dev promisc allmulti, {})

/-- The module has just been loaded. -/
structure Net.Init (net : Net τ) : Prop where
  ubrs : net.ubrs = fun _ => none
  outside : ∀ dev, (net.devs dev).outside = true
  masters : ∀ dev, net.foreignMaster (net.devs dev) = true
  refs : net.refs = fun _ => 0
  promisc : ∀ dev, net.othersPromisc dev = (net.devs dev).promiscuity
  allmulti : ∀ dev, net.othersAllmulti dev = (net.devs dev).allmulti

/-- The machine of all bridges. -/
def bridges (τ : Type) [Jiffies τ] (cfg : Config) : Machine (Net τ) NetEvent Outcome Fault where
  Init := Net.Init
  Enabled := Net.Enabled
  exec := Net.exec cfg

instance (net : Net τ) : (e : NetEvent) → Decidable (net.Enabled e)
  | .newlink ifindex _ _ => inferInstanceAs (Decidable (net.byIndex ifindex = none))
  | .appear ifindex nd => inferInstanceAs
      (Decidable (net.byIndex ifindex = none ∧ nd.outside = true ∧ net.foreignMaster nd = true))
  | .addSlave bridge dev _ => inferInstanceAs (Decidable ((net.ubrs bridge).isSome ∧ dev < net.nextDev))
  | .delSlave bridge dev => inferInstanceAs
      (Decidable ((net.ubrs bridge).isSome ∧ (net.devs dev).master = some bridge))
  | .unregister dev => inferInstanceAs (Decidable (dev < net.nextDev ∧ (net.ubrs dev) = none))
  | .dellink bridge | .xmit bridge _ _ | .age bridge _ =>
      inferInstanceAs (Decidable ((net.ubrs bridge).isSome = true))
  | .rx dev _ _ => inferInstanceAs (Decidable ((net.devs dev).outside = false))
  | .portCleanup bridge slot => inferInstanceAs (Decidable (∃ ubr ∈ net.ubrs bridge, slot ∈ ubr.portRcu))
  | .vlanFree bridge vlan => inferInstanceAs (Decidable (∃ ubr ∈ net.ubrs bridge, vlan ∈ ubr.vlanRcu))
  | .devChange dev nd => inferInstanceAs (Decidable (dev < net.nextDev ∧ (net.devs dev).outside = true ∧
      net.foreignMaster (net.devs dev) = true ∧ nd.outside = true ∧ net.foreignMaster nd = true))
  | .request .. | .tick .. | .counted .. => .isTrue trivial

instance (cfg : Config) (net : Net τ) (e : NetEvent) : Decidable ((bridges τ cfg).Enabled net e) :=
  inferInstanceAs (Decidable (net.Enabled e))

end UnassumingBridge
