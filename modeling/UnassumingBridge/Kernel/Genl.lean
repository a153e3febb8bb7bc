import UnassumingBridge.Kernel.Netlink

/-! # Requests from user space (`ubr-netlink.c`)

The handlers of the generic netlink family, from a request's attributes down to the
commands of `UnassumingBridge.Kernel.Netlink`. Several bridges share the devices of
a network namespace, and a handler takes a reference on every device that it looks up.
-/

namespace UnassumingBridge

open Support

variable {τ : Type}

/-- The devices of the namespace and the bridges among them. -/
structure Net (τ : Type) where
  devs : Dev → NetDev
  /-- `netdev_priv` of the devices whose `netdev_ops` are the module's. -/
  ubrs : Dev → Option (Ubr τ) := fun _ => none
  /-- What `dev_get_by_index` finds. -/
  byIndex : BitVec 32 → Option Dev
  /-- Identities from this one on are not in use yet, and none is used twice. -/
  nextDev : Dev
  /-- The references on each device that the handlers have taken and not dropped. -/
  refs : Dev → Int := fun _ => 0
  /-- What the rest of the kernel has contributed to the counts of each device. -/
  othersPromisc : Dev → Int
  othersAllmulti : Dev → Int
  jiffies : τ

namespace Net

/-- `dev_hold` -/
def hold (net : Net τ) (dev : Dev) : Net τ :=
  { net with refs := Function.update net.refs dev (net.refs dev + 1) }

/-- `dev_put` -/
def put (net : Net τ) (dev : Dev) : Net τ :=
  { net with refs := Function.update net.refs dev (net.refs dev - 1) }

def setUbr (net : Net τ) (bridge : Dev) (ubr : Ubr τ) : Net τ :=
  { net with ubrs := Function.update net.ubrs bridge (some ubr) }

/-- `dev_get_by_index` -/
def devGetByIndex (net : Net τ) (ifindex : BitVec 32) : Net τ × Option Dev :=
  match net.byIndex ifindex with
  | none => (net, none)
  | some dev => (net.hold dev, some dev)

/-- A command has run on a bridge. -/
def commanded (net : Net τ) (bridge : Dev) (result : Except Fault (Ubr τ × Ret)) : Except Fault (Net τ × Ret) :=
  match result with
  | .error f => .error f
  | .ok (ubr, ret) => .ok (net.setUbr bridge ubr, ret)

end Net

/-- The attributes nested in `UBR_NLA_VLAN`. -/
structure VlanAttrs where
  vid : Option Vid := none
  port : Option (BitVec 32) := none
  tagged : Option (BitVec 32) := none
  learning : Option (BitVec 32) := none
  deriving DecidableEq, Repr

/-- The attributes nested in `UBR_NLA_PORT`. -/
structure PortAttrs where
  ifindex : Option (BitVec 32) := none
  pvid : Option Vid := none
  deriving DecidableEq, Repr

/-- `info->attrs`, which is there because the family has a `maxattr`. A nested
    attribute is what `nla_parse_nested` makes of it. -/
structure GenlInfo where
  ifindex : Option (BitVec 32) := none
  vlan : Option (Except Errno VlanAttrs) := none
  port : Option (Except Errno PortAttrs) := none

/-- `ubr_netlink_dev`, with the private area of the device. -/
def ubrNetlinkDev (net : Net τ) (info : GenlInfo) : Net τ × Option (Dev × Ubr τ) :=
  match info.ifindex with
  | none => (net, none)
  | some ifindex =>
      match net.devGetByIndex ifindex with
      | (net, none) => (net, none)
      | (net, some dev) =>
          match net.ubrs dev with
          -- dev->netdev_ops != devops
          | none => (net.put dev, none)
          | some ubr => (net, some (dev, ubr))

/-- `__get_vid`, with the parsed attributes. -/
def GenlInfo.getVid (info : GenlInfo) : Except Errno (VlanAttrs × Vid) :=
  match info.vlan with
  | none => .error .einval
  | some (.error e) => .error e
  | some (.ok attrs) =>
      match attrs.vid with
      | none => .error .einval
      | some vid => .ok (attrs, vid)

/-- `__get_port` of `ubr-vlan.c`: the port's index, and whether it is tagged. -/
def VlanAttrs.getPort (attrs : VlanAttrs) : Except Errno (BitVec 32 × BitVec 32) :=
  match attrs.port with
  | none => .error .einval
  | some port => .ok (port, attrs.tagged.getD 0)

/-- `__get_port` of `ubr-port.c`, with the parsed attributes. -/
def GenlInfo.getPort (info : GenlInfo) : Except Errno (PortAttrs × BitVec 32) :=
  match info.port with
  | none => .error .einval
  | some (.error e) => .error e
  | some (.ok attrs) =>
      match attrs.ifindex with
      | none => .error .einval
      | some port => .ok (attrs, port)

/-- What `__get_bridge_vlan_port` finds. -/
structure BridgeVlanPort (τ : Type) where
  bridge : Dev
  ubr : Ubr τ
  vid : Vid
  port : Dev
  tagged : BitVec 32

/-- `__get_bridge_vlan_port`. Its checks of `!ubr` look at the address of the
    caller's variable and never fail; the VLAN is looked up by the command. -/
def getBridgeVlanPort (net : Net τ) (info : GenlInfo) : Net τ × Except Errno (BridgeVlanPort τ) :=
  match ubrNetlinkDev net info with
  | (net, none) => (net, .error .einval)
  | (net, some (dev, ubr)) =>
      match info.getVid with
      | .error e => (net.put dev, .error e)
      | .ok (attrs, vid) =>
          match attrs.getPort with
          | .error e => (net.put dev, .error e)
          | .ok (ifindex, tagged) =>
              match net.devGetByIndex ifindex with
              | (net, none) => (net.put dev, .error .einval)
              | (net, some port) => (net.put dev, .ok ⟨dev, ubr, vid, port, tagged⟩)

/-- `ubr_fdb_nl_flush_cmd` prints the name of the device, and that is all. -/
def ubrFdbNlFlushCmd (net : Net τ) (info : GenlInfo) : Except Fault (Net τ × Ret) :=
  match ubrNetlinkDev net info with
  | (_, none) => .error .nullDeref
  | (net, some (dev, _)) => .ok (net.put dev, .ok ())

def ubrVlanNlAddCmd (cfg : Config) (net : Net τ) (info : GenlInfo) (zallocFails : Bool) :
    Except Fault (Net τ × Ret) :=
  match info.getVid with
  | .error e => .ok (net, .error e)
  | .ok (_, vid) =>
      match ubrNetlinkDev net info with
      | (net, none) => .ok (net, .error .einval)
      | (net, some (dev, ubr)) => (net.put dev).commanded dev (ubrVlanNlAdd cfg ubr vid zallocFails)

def ubrVlanNlDelCmd (cfg : Config) (net : Net τ) (info : GenlInfo) : Except Fault (Net τ × Ret) :=
  match info.getVid with
  | .error e => .ok (net, .error e)
  | .ok (_, vid) =>
      match ubrNetlinkDev net info with
      | (net, none) => .ok (net, .error .einval)
      | (net, some (dev, ubr)) => (net.put dev).commanded dev (ubrVlanNlDel cfg ubr vid)

/-- `ubr_vlan_nl_set_cmd` prints what was asked for, and that is all. The learning
    attribute may be missing. -/
def ubrVlanNlSetCmd (net : Net τ) (info : GenlInfo) : Except Fault (Net τ × Ret) :=
  match info.getVid with
  | .error e => .ok (net, .error e)
  | .ok _ =>
      match ubrNetlinkDev net info with
      | (_, none) => .error .nullDeref
      | (net, some (dev, _)) => .ok (net.put dev, .ok ())

def ubrVlanNlAttachCmd (cfg : Config) (net : Net τ) (info : GenlInfo) : Except Fault (Net τ × Ret) :=
  match getBridgeVlanPort net info with
  | (net, .error e) => .ok (net, .error e)
  | (net, .ok found) =>
      (net.put found.port).commanded found.bridge
        (ubrVlanNlAttach cfg found.ubr found.vid found.port found.tagged)

def ubrVlanNlDetachCmd (cfg : Config) (net : Net τ) (info : GenlInfo) : Except Fault (Net τ × Ret) :=
  match getBridgeVlanPort net info with
  | (net, .error e) => .ok (net, .error e)
  | (net, .ok found) =>
      (net.put found.port).commanded found.bridge (ubrVlanNlDetach cfg found.ubr found.vid found.port)

/-- `ubr_port_nl_set_cmd`; no path drops the reference on the port. -/
def ubrPortNlSetCmd (cfg : Config) (net : Net τ) (info : GenlInfo) : Except Fault (Net τ × Ret) :=
  match info.getPort with
  | .error e => .ok (net, .error e)
  | .ok (attrs, ifindex) =>
      let (net, port) := net.devGetByIndex ifindex
      let pvid := attrs.pvid.getD 0
      match ubrNetlinkDev net info with
      | (net, none) => .ok (net, .error .einval)
      | (net, some (dev, ubr)) => (net.put dev).commanded dev (ubrPortNlSet cfg ubr port pvid)

/-- `UBR_NL_*` -/
inductive UbrNlCmd where
  | fdbFlush | vlanAdd | vlanDel | vlanSet | vlanAttach | vlanDetach | portSet
  deriving DecidableEq, Repr

/-- A request, and whether `kzalloc` fails while it is handled. -/
structure Request where
  cmd : UbrNlCmd
  info : GenlInfo
  zallocFails : Bool := false

/-- `struct genl_ops` -/
structure GenlOps (τ : Type) where
  cmd : UbrNlCmd
  /-- `GENL_ADMIN_PERM` or `GENL_UNS_ADMIN_PERM` is among the flags. -/
  adminPerm : Bool := false
  doit : Net τ → Request → Except Fault (Net τ × Ret)

def ubrGenlOps (cfg : Config) : List (GenlOps τ) :=
  [{ cmd := .fdbFlush, doit := fun net req => ubrFdbNlFlushCmd net req.info },
    { cmd := .vlanAdd, doit := fun net req => ubrVlanNlAddCmd cfg net req.info req.zallocFails },
    { cmd := .vlanDel, doit := fun net req => ubrVlanNlDelCmd cfg net req.info },
    { cmd := .vlanSet, doit := fun net req => ubrVlanNlSetCmd net req.info },
    { cmd := .vlanAttach, doit := fun net req => ubrVlanNlAttachCmd cfg net req.info },
    { cmd := .vlanDetach, doit := fun net req => ubrVlanNlDetachCmd cfg net req.info },
    { cmd := .portSet, doit := fun net req => ubrPortNlSetCmd cfg net req.info }]

def eperm : Errno := .other 1

/-- Generic netlink looks the operation up and checks the sender if it is told to. -/
def genlRcvMsg (cfg : Config) (net : Net τ) (admin : Bool) (req : Request) : Except Fault (Net τ × Ret) :=
  match (ubrGenlOps cfg).find? fun op => op.cmd = req.cmd with
  | none => .ok (net, .error .eopnotsupp)
  | some op => if op.adminPerm && !admin then .ok (net, .error eperm) else op.doit net req

end UnassumingBridge
