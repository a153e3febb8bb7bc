import UnassumingBridge.Kernel.Port

/-! # Netlink commands (`ubr-vlan.c`, `ubr-port.c`)

The commands from the point where a request has named this bridge and, for the
commands on ports, a network device. What a request must carry to get there is
not part of this module.
-/

namespace UnassumingBridge

open Support

variable {τ : Type}

/-- `__update_port_vlan` -/
def updatePortVlan (s : Ubr τ) (vlan : VlanRef) (add : Bool) : Except Fault (Ubr τ) := do
  let v ← s.vlanAt (some vlan)
  .ok (s.busy.toList.foldl (fun s pidx =>
    let p := s.ports pidx
    if p.pvid ≠ v.vid then s
    else s.putPort pidx { p with ingressCb.vlan := if add then some vlan else none }) s)

/-- `ubr_vlan_nl_add_cmd` -/
def ubrVlanNlAdd (cfg : Config) (s : Ubr τ) (vid : Vid) (zallocFails : Bool) :
    Except Fault (Ubr τ × Ret) := do
  match ← ubrVlanNew cfg s vid zallocFails with
  | (s, .error e) => .ok (s, .error e)
  | (s, .ok vlan) => do
      let s ← updatePortVlan s vlan true
      .ok (s, .ok ())

/-- `ubr_vlan_nl_del_cmd` -/
def ubrVlanNlDel (cfg : Config) (s : Ubr τ) (vid : Vid) : Except Fault (Ubr τ × Ret) := do
  match ← ubrVlanFind cfg s vid with
  | none => .ok (s, .error .enoent)
  | some vlan => do
      let s ← updatePortVlan s vlan false
      let s ← ubrVlanDel s vlan
      .ok (s, .ok ())

/-- `ubr_vlan_nl_attach_cmd`; `__get_bridge_vlan_port` lets an unknown VID through. -/
def ubrVlanNlAttach (cfg : Config) (s : Ubr τ) (vid : Vid) (port : Dev) (tagged : BitVec 32) :
    Except Fault (Ubr τ × Ret) := do
  let vlan ← ubrVlanFind cfg s vid
  match ubrPortFind s (some port) with
  | .error _ => .ok (s, .error .enodev)
  | .ok pidx => do
      let s ← ubrVlanPortAdd s vlan pidx (tagged != 0)
      .ok (s, .ok ())

/-- `ubr_vlan_nl_detach_cmd`; `err` is still 0 when the port is not found. -/
def ubrVlanNlDetach (cfg : Config) (s : Ubr τ) (vid : Vid) (port : Dev) : Except Fault (Ubr τ × Ret) := do
  let vlan ← ubrVlanFind cfg s vid
  match ubrPortFind s (some port) with
  | .error _ => .ok (s, .ok ())
  | .ok pidx => do
      let s ← ubrVlanPortDel s vlan pidx
      .ok (s, .ok ())

/-- `ubr_port_nl_set_cmd`; the port is missing when no device has its index. -/
def ubrPortNlSet (cfg : Config) (s : Ubr τ) (port : Option Dev) (pvid : Vid) : Except Fault (Ubr τ × Ret) :=
  match ubrPortFind s port with
  | .error _ => .ok (s, .error .einval)
  | .ok pidx => do
      let vlan ← ubrVlanFind cfg s pvid
      let p := s.ports pidx
      .ok (s.putPort pidx { p with
        pvid
        ingressCb := { p.ingressCb with vlan, vlanFiltering := pvid != 0 } }, .ok ())

end UnassumingBridge
