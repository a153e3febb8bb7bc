import UnassumingBridge.Kernel.System

/-! # Membership that changes under a frame

The machine of one bridge with the two loops that meet in `struct ubr_vlan` taken apart:
`ubr_vlan_port_add` and `ubr_vlan_port_del` write one bit at a time, and a frame that
has its vector from the ingress stage sends one copy at a time. Configuration commands
follow each other, as the generic netlink lock makes them.
-/

namespace UnassumingBridge

open Support

variable {τ : Type}

/-- A write to a bit vector of a VLAN. -/
inductive BitWrite where
  | setTagged (vlan : VlanRef) (pidx : Pidx)
  | setMember (vlan : VlanRef) (pidx : Pidx)
  | clearMember (vlan : VlanRef) (pidx : Pidx)
  | clearTagged (vlan : VlanRef) (pidx : Pidx)

def BitWrite.vlan : BitWrite → VlanRef
  | .setTagged vlan _ | .setMember vlan _ | .clearMember vlan _ | .clearTagged vlan _ => vlan

def BitWrite.on (v : UbrVlan) : BitWrite → UbrVlan
  | .setTagged _ pidx => { v with tagged := v.tagged.set pidx }
  | .setMember _ pidx => { v with members := v.members.set pidx }
  | .clearMember _ pidx => { v with members := v.members.clear pidx }
  | .clearTagged _ pidx => { v with tagged := v.tagged.clear pidx }

def BitWrite.apply (s : Ubr τ) (w : BitWrite) : Except Fault (Ubr τ) :=
  s.modVlan (some w.vlan) fun v => w.on v

/-- `ubr_vlan_port_add` in program order -/
def portAddWrites (vlan : VlanRef) (pidx : Pidx) (tagged : Bool) : List BitWrite :=
  (if tagged then [.setTagged vlan pidx] else []) ++ [.setMember vlan pidx]

/-- `ubr_vlan_port_del` in program order -/
def portDelWrites (vlan : VlanRef) (pidx : Pidx) : List BitWrite :=
  [.clearMember vlan pidx, .clearTagged vlan pidx]

/-- A frame with the ports that `ubr_deliver` has not come to. -/
structure Copying where
  skb : Skb
  todo : List Pidx

/-- The order of `ubr_deliver`: clones upwards from the second port, then the frame itself. -/
def deliveryOrder (vec : UbrVec) : List Pidx :=
  match vec.findFirst with
  | none => []
  | some first => vec.toList.filter (first < ·) ++ [first]

/-- A bridge between two writes of a command, with the frames whose copies are being made. -/
structure Transit (τ : Type) where
  sys : Sys τ
  /-- What the command that is being executed has still to write. -/
  writes : List BitWrite := []
  flight : List Copying := []

/-- What happens to it; commands on membership write one bit at a time. -/
inductive TransitEvent where
  /-- an event that is neither a frame nor a change of membership -/
  | around (e : Event)
  | attach (vid : Vid) (port : Dev) (tagged : BitVec 32)
  | detach (vid : Vid) (port : Dev)
  | write
  | rx (dev : Dev) (skb : Skb) (env : FrameEnv)
  | xmit (skb : Skb) (env : FrameEnv)
  /-- a frame in flight comes to its next port -/
  | egress (i : Nat) (env : FrameEnv)

namespace Transit

/-- Requests wait for the one that is being executed. -/
def Free (s : Transit τ) : Event → Prop
  | .rx .. | .xmit .. | .vlanAttach .. | .vlanDetach .. => False
  | .vlanAdd .. | .vlanDel .. | .portSet .. => s.writes = []
  | _ => True

def Enabled (s : Transit τ) : TransitEvent → Prop
  | .around e => s.sys.Enabled e ∧ s.Free e
  | .attach .. | .detach .. => s.writes = []
  | .write => s.writes ≠ []
  | .rx dev _ _ => (s.sys.slotOf dev).isSome
  | .xmit .. => True
  | .egress i _ => i < s.flight.length

/-- `ubr_vlan_port_add` and `ubr_vlan_port_del` follow the pointer whatever it is. -/
def begin (s : Transit τ) (writes : VlanRef → List BitWrite) :
    Option VlanRef → Except Fault (Transit τ × Outcome)
  | none => .error .nullDeref
  | some vlan => .ok ({ s with writes := writes vlan }, {})

/-- One copy, or the frame itself for the last port. -/
def egress (cfg : Config) (s : Transit τ) (env : FrameEnv) (i : Nat) (f : Copying) :
    Except Fault (Transit τ × Outcome) :=
  match f.todo with
  | [] => .ok ({ s with flight := s.flight.eraseIdx i }, {})
  | [pidx] =>
      let run := if pidx = 0 then ubrDeliverUp cfg s.sys.ubr env f.skb
        else ubrDeliverDown cfg s.sys.ubr env f.skb pidx
      match run.res with
      | .error e => .error e
      | .ok () => .ok ({ s with flight := s.flight.eraseIdx i }, { log := run.log })
  | pidx :: rest =>
      if env.cloneFails pidx then
        .ok ({ s with flight := s.flight.eraseIdx i }, { log := [.free f.skb.buf] })
      else
        let run := ubrDeliverDown cfg s.sys.ubr env { f.skb with buf := .clone pidx } pidx
        match run.res with
        | .error e => .error e
        | .ok () => .ok ({ s with flight := s.flight.set i { f with todo := rest } }, { log := run.log })

variable [Jiffies τ]

/-- The stages of `ubr_forward` before the delivery. -/
def ingress (cfg : Config) (s : Transit τ) (env : FrameEnv) (skb : Skb) :
    Except Fault (Transit τ × Outcome) := do
  let (allow, skb?) ← ubrVlanIngress cfg s.sys.ubr env skb
  match skb? with
  | none => .error .useAfterFree
  | some skb =>
      if skb.cb.ctrl then .ok (s, {})
      else do
        let vlan ← s.sys.ubr.vlanAt skb.cb.vlan
        let (fdb, skb) := ubrFdbForward cfg s.sys.ubr.fdb s.sys.jiffies env vlan skb
        let s := { s with sys.ubr.fdb := fdb }
        let allow := allow && ubrCtrlIngress skb && ubrStpIngress skb && ubrFdbIngress skb
        if allow ∧ skb.cb.vec.findFirst.isSome then
          .ok ({ s with flight := s.flight ++ [⟨skb, deliveryOrder skb.cb.vec⟩] }, {})
        else .ok (s, { log := [.free skb.buf] })

def exec (cfg : Config) (s : Transit τ) : TransitEvent → Except Fault (Transit τ × Outcome)
  | .around e => do
      let (sys, out) ← s.sys.exec cfg e
      .ok ({ s with sys }, out)
  | .attach vid port tagged => do
      let vlan ← ubrVlanFind cfg s.sys.ubr vid
      match ubrPortFind s.sys.ubr (some port) with
      | .error _ => .ok (s, { ret := .error .enodev })
      | .ok pidx => s.begin (portAddWrites · pidx (tagged != 0)) vlan
  | .detach vid port => do
      let vlan ← ubrVlanFind cfg s.sys.ubr vid
      match ubrPortFind s.sys.ubr (some port) with
      | .error _ => .ok (s, {})
      | .ok pidx => s.begin (portDelWrites · pidx) vlan
  | .write =>
      match s.writes with
      | [] => .ok (s, {})
      | w :: rest => do
          let ubr ← w.apply s.sys.ubr
          .ok ({ s with sys.ubr := ubr, writes := rest }, {})
  | .rx dev skb env =>
      match s.sys.slotOf dev with
      | none => .ok (s, {})
      | some slot => do
          ubrFromPort s.sys.ubr slot
          s.ingress cfg env { skb with cb := (s.sys.ubr.ports slot).ingressCb }
  | .xmit skb env => s.ingress cfg env { skb with cb := (s.sys.ubr.ports 0).ingressCb }
  | .egress i env =>
      match s.flight[i]? with
      | none => .ok (s, {})
      | some f => s.egress cfg env i f

instance (s : Transit τ) : (e : Event) → Decidable (s.Free e)
  | .rx .. | .xmit .. | .vlanAttach .. | .vlanDetach .. => .isFalse id
  | .vlanAdd .. | .vlanDel .. | .portSet .. =>
      decidable_of_iff (s.writes.isEmpty = true) List.isEmpty_iff
  | .age .. | .tick .. | .portAdd .. | .portDel .. | .portCleanup .. | .vlanFree .. | .devChange .. => .isTrue trivial

end Transit

/-- The machine of one bridge with frames and membership in small steps. -/
def transit (τ : Type) [Jiffies τ] (cfg : Config) : Machine (Transit τ) TransitEvent Outcome Fault where
  Init s := s.sys.Init cfg ∧ s.writes = [] ∧ s.flight = []
  Enabled := Transit.Enabled
  exec := Transit.exec cfg

instance [Jiffies τ] (cfg : Config) (s : Transit τ) : (e : TransitEvent) → Decidable ((transit τ cfg).Enabled s e)
  | .around e => inferInstanceAs (Decidable (s.sys.Enabled e ∧ s.Free e))
  | .attach .. | .detach .. => decidable_of_iff (s.writes.isEmpty = true) List.isEmpty_iff
  | .write => decidable_of_iff (¬ s.writes.isEmpty = true) (not_congr List.isEmpty_iff)
  | .rx dev _ _ => inferInstanceAs (Decidable ((s.sys.slotOf dev).isSome = true))
  | .xmit .. => .isTrue trivial
  | .egress i _ => inferInstanceAs (Decidable (i < s.flight.length))

end UnassumingBridge
