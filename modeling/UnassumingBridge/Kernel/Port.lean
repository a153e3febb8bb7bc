import UnassumingBridge.Kernel.Forward

/-! # Ports (`ubr-port.c`)

A port slot of the bridge and the network device behind it. `ubr_port_del` only
clears the busy bit: the slot is zeroed by an RCU callback that runs after a
grace period.
-/

namespace UnassumingBridge

open Support

variable {τ : Type}

/-- `rx_handler` with its `rx_handler_data`: `ubr_port_rx_handler` on a port slot
    of a bridge, or a handler of somebody else. -/
inductive RxHandler where
  | ubrPort (bridge : Dev) (slot : Pidx)
  | other
  deriving DecidableEq, Repr

/-- `struct net_device` -/
structure NetDev where
  /-- `flags & IFF_LOOPBACK` -/
  loopback : Bool := false
  /-- `type == ARPHRD_ETHER` -/
  ether : Bool := true
  addrLen : Nat := 6
  devAddr : Mac
  usesDsa : Bool := false
  /-- `priv_flags & IFF_DONT_BRIDGE` -/
  dontBridge : Bool := false
  /-- `priv_flags & IFF_UBR_PORT` -/
  ubrPort : Bool := false
  master : Option Dev := none
  promiscuity : Int := 0
  allmulti : Int := 0
  rxHandler : Option RxHandler := none
  deriving DecidableEq, Repr

/-- `ubr_from_port`: the address computed from the index in the slot is the
    bridge's only when the index is the slot's own. -/
def ubrFromPort (s : Ubr τ) (slot : Pidx) : Except Fault Unit :=
  if (s.ports slot).ingressCb.pidx = slot then .ok () else .error .wrongBridge

/-- `__ubr_port_cleanup`: zero the slot, its RCU head included. -/
def ubrPortZero (s : Ubr τ) (slot : Pidx) : Except Fault (Ubr τ) :=
  if slot ∈ s.portRcu then .error .rcuHeadInUse else .ok (s.putPort slot {})

/-- The queued callback takes its head off the queue and zeroes the slot. -/
def ubrPortCleanupRcu (s : Ubr τ) (slot : Pidx) : Except Fault (Ubr τ) :=
  ubrPortZero { s with portRcu := s.portRcu.erase slot } slot

def ubrPortCleanup (s : Ubr τ) (slot : Pidx) : Except Fault (Ubr τ) := do
  ubrFromPort s slot
  let s := { s with busy := s.busy.clear slot }
  if slot ∈ s.portRcu then .error .rcuHeadInUse
  else .ok { s with portRcu := s.portRcu ++ [slot] }

/-- The slot that `ubr_port_init` leaves behind; `pvid` and `vlan_filtering` stay
    what they were. -/
def UbrPort.init (p : UbrPort) (pidx : Pidx) (dev : Dev) (vlan : Option VlanRef) : UbrPort :=
  { p with
    dev := some dev
    ingressCb := { p.ingressCb with pidx, saLearning := true, vec := Bitmap.fill.clear pidx, vlan } }

def ubrPortInit (cfg : Config) (s : Ubr τ) (pidx : Pidx) (dev : Dev) : Except Fault (Ubr τ) := do
  let vlan ← ubrVlanFind cfg s 0
  let s := s.putPort pidx ((s.ports pidx).init pidx dev vlan)
  let s ← ubrVlanPortAdd s vlan pidx false
  .ok { s with busy := s.busy.set pidx }

/-- `__ubr_port_add_allowed` -/
def ubrPortAddAllowed (dev : NetDev) : Ret :=
  if dev.loopback then .error .einval
  else if !dev.ether || dev.addrLen != 6 || !isValidEtherAddr dev.devAddr then .error .einval
  else if dev.usesDsa then .error .ebusy
  else if dev.master.isSome then .error .ebusy
  else if dev.dontBridge then .error .eopnotsupp
  else .ok ()

/-- The kernel calls of `ubr_port_add` that may fail, with their errors. -/
structure PortAddEnv where
  link : Option Errno := none
  promisc : Option Errno := none
  allmulti : Option Errno := none
  rxRegister : Option Errno := none

def NetDev.unlink (dev : NetDev) : NetDev := { dev with master := none }

def NetDev.clearPromisc (dev : NetDev) : NetDev := { dev with promiscuity := dev.promiscuity - 1 }

def NetDev.clearAllmulti (dev : NetDev) : NetDev := { dev with allmulti := dev.allmulti - 1 }

/-- `netdev_rx_handler_register` -/
def rxHandlerRegister (env : PortAddEnv) (handler : RxHandler) (dev : NetDev) : Except Errno NetDev :=
  if dev.rxHandler.isSome then .error .ebusy
  else match env.rxRegister with
    | some e => .error e
    | none => .ok { dev with rxHandler := some handler }

/-- The part of `ubr_port_add` that acts on the device, with what its error labels
    down to `err_unlink` undo. -/
def ubrPortEnslave (bridge : Dev) (pidx : Pidx) (env : PortAddEnv) (dev : NetDev) : NetDev × Ret :=
  match env.link with
  | some e => (dev, .error e)
  | none =>
      let dev := { dev with master := some bridge }
      match env.promisc with
      | some e => (dev.unlink, .error e)
      | none =>
          let dev := { dev with promiscuity := dev.promiscuity + 1 }
          match env.allmulti with
          | some e => (dev.clearPromisc.unlink, .error e)
          | none =>
              let dev := { dev with allmulti := dev.allmulti + 1 }
              match rxHandlerRegister env (.ubrPort bridge pidx) dev with
              | .error e => (dev.clearAllmulti.clearPromisc.unlink, .error e)
              | .ok dev => ({ dev with ubrPort := true }, .ok ())

/-- `ubr_update_headroom` follows the device pointer of every busy port. -/
def ubrUpdateHeadroom (s : Ubr τ) : Except Fault Unit :=
  if s.busy.toList.all fun pidx => (s.ports pidx).dev.isSome then .ok () else .error .nullDeref

def ubrPortAdd (cfg : Config) (s : Ubr τ) (dev : Dev) (env : PortAddEnv) (nd : NetDev) :
    Except Fault (Ubr τ × NetDev × Ret) :=
  match ubrPortAddAllowed nd with
  | .error e => .ok (s, nd, .error e)
  | .ok () =>
      match s.busy.findFirstZero with
      | none => .ok (s, nd, .error .ebusy)
      | some pidx => do
          let s ← ubrPortInit cfg s pidx dev
          ubrUpdateHeadroom s
          match ubrPortEnslave s.dev pidx env nd with
          | (nd, .ok ()) => .ok (s, nd, .ok ())
          -- err_uninit
          | (nd, .error e) => do
              let s ← ubrPortZero { s with busy := s.busy.clear pidx } pidx
              .ok (s, nd, .error e)

/-- Called on current slaves only: `rx_handler_data` is the port. -/
def ubrPortDel (s : Ubr τ) (nd : NetDev) : Except Fault (Ubr τ × NetDev) :=
  match nd.rxHandler with
  | some (.ubrPort _ slot) => do
      let nd := { nd with ubrPort := false, rxHandler := none }.clearAllmulti.clearPromisc.unlink
      let s ← ubrPortCleanup s slot
      .ok (s, nd)
  | _ => .error .nullDeref

def ubrPortFind (s : Ubr τ) (dev : Option Dev) : Except Errno Pidx :=
  match dev with
  | none => .error .einval
  | some _ =>
      match s.busy.toList.find? fun pidx => (s.ports pidx).dev = dev with
      | some pidx => .ok pidx
      | none => .error .enoent

def ubrPortRxHandler [Jiffies τ] (cfg : Config) (s : Ubr τ) (now : τ) (env : FrameEnv) (slot : Pidx)
    (skb : Skb) : Forwarding (Ubr τ × Bool) := do
  let skb := { skb with cb := (s.ports slot).ingressCb }
  ubrFromPort s slot
  ubrForward cfg s now env skb

end UnassumingBridge
