import UnassumingBridge.Kernel.Vlan
import UnassumingBridge.Kernel.Fdb
import UnassumingBridge.Support.Logged

/-! # Forwarding (`ubr-forward.c`)

The pipeline of one frame. What happens to buffers is the log of the
computation: a transmission down through a port's device, a delivery up to the
host, or a free. Using a buffer that was freed is a fault.
-/

namespace UnassumingBridge

open Support

variable {τ : Type}

/-- How a buffer leaves the bridge. -/
inductive SkbEvent where
  /-- `dev_queue_xmit` through the device of slot `q` -/
  | down (q : Pidx) (dev : Dev) (skb : Skb)
  /-- `netif_receive_skb` on the bridge device -/
  | up (skb : Skb)
  /-- `kfree_skb` -/
  | free (buf : Buf)

abbrev Forwarding (α : Type) := Logged SkbEvent Fault α

/-- The first stage of `ubr_common_egress`. -/
def ubrEgressTag (cfg : Config) (s : Ubr τ) (env : FrameEnv) (atMac : Bool) (skb : Skb) (pidx : Pidx) :
    Except Fault Skb :=
  if skb.cb.vlanFiltering then do
    let vlan ← s.vlanAt skb.cb.vlan
    let tci := (skb.vlanTag.map VlanTag.tci).getD 0
    .ok (if pidx ∈ vlan.tagged then skbVlanPush cfg (env.pushFails pidx) atMac ⟨cfg.htons s.vlanProto, tci⟩ skb
      else vlanHwaccelClearTag skb)
  else .ok skb

/-- `none` when the buffer was freed because `__vlan_get_protocol` returned 0. The
    network header that is set otherwise is not used by the bridge any more. -/
def ubrCommonEgress (cfg : Config) (s : Ubr τ) (env : FrameEnv) (atMac : Bool) (skb : Skb) (pidx : Pidx) :
    Forwarding (Option Skb) := do
  let skb ← ubrEgressTag cfg s env atMac skb pidx
  if vlanGetProtocol cfg atMac skb = 0 then do
    Logged.emit (.free skb.buf)
    pure none
  else pure (some skb)

def ubrDeliverUp (cfg : Config) (s : Ubr τ) (env : FrameEnv) (skb : Skb) : Forwarding Unit := do
  let skb := { skb with dev := some s.dev }
  match ← ubrCommonEgress cfg s env false skb 0 with
  | none => Logged.lift (.error .useAfterFree)
  | some skb =>
      Logged.emit (.up { skb with pktHost := skb.pktHost || s.devAddr == skb.frame.hDest })

def ubrDeliverDown (cfg : Config) (s : Ubr τ) (env : FrameEnv) (skb : Skb) (pidx : Pidx) :
    Forwarding Unit := do
  let skb := { skb with dev := (s.ports pidx).dev }
  match ← ubrCommonEgress cfg s env true skb pidx with
  | none => Logged.lift (.error .useAfterFree)
  | some skb =>
      match skb.dev with
      | none => Logged.lift (.error .nullDeref)
      | some dev => Logged.emit (.down pidx dev skb)

/-- The clone loop of `ubr_deliver`; `false` when a clone could not be made. -/
def ubrDeliverClones (cfg : Config) (s : Ubr τ) (env : FrameEnv) (skb : Skb) : List Pidx → Forwarding Bool
  | [] => pure true
  | pidx :: rest =>
      if env.cloneFails pidx then pure false
      else do
        ubrDeliverDown cfg s env { skb with buf := .clone pidx } pidx
        ubrDeliverClones cfg s env skb rest

def ubrDeliver (cfg : Config) (s : Ubr τ) (env : FrameEnv) (skb : Skb) : Forwarding Unit :=
  match skb.cb.vec.findFirst with
  | none => Logged.emit (.free skb.buf)
  | some first => do
      let cloned ← ubrDeliverClones cfg s env skb (skb.cb.vec.toList.filter (first < ·))
      if cloned then
        if first = 0 then ubrDeliverUp cfg s env skb
        else ubrDeliverDown cfg s env skb first
      else Logged.emit (.free skb.buf)

def ubrCtrlIngress (_ : Skb) : Bool := true

def ubrStpIngress (_ : Skb) : Bool := true

def ubrFdbIngress (_ : Skb) : Bool := true

variable [Jiffies τ]

/-- The bridge afterwards, and whether the frame is handed back as control traffic.
    The stages are combined with `&=`: each is evaluated whatever the verdict of
    the ones before it. -/
def ubrForward (cfg : Config) (s : Ubr τ) (now : τ) (env : FrameEnv) (skb : Skb) :
    Forwarding (Ubr τ × Bool) := do
  let (allow, skb?) ← Logged.lift (ubrVlanIngress cfg s env skb)
  match skb? with
  -- the control block that is read next is part of the freed buffer
  | none => Logged.lift (.error .useAfterFree)
  | some skb =>
      if skb.cb.ctrl then pure (s, true)
      else do
        let vlan ← Logged.lift (s.vlanAt skb.cb.vlan)
        let (fdb, skb) := ubrFdbForward cfg s.fdb now env vlan skb
        let s := { s with fdb }
        let allow := allow && ubrCtrlIngress skb
        (if allow && ubrStpIngress skb && ubrFdbIngress skb then ubrDeliver cfg s env skb
        else Logged.emit (.free skb.buf))
        pure (s, false)

end UnassumingBridge
