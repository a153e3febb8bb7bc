import UnassumingBridge.Kernel.Port

/-! # The bridge device (`ubr-dev.c`) -/

namespace UnassumingBridge

open Support

variable {τ : Type}

/-- The frame comes from the host and enters through port 0. -/
def ubrNdoStartXmit [Jiffies τ] (cfg : Config) (s : Ubr τ) (now : τ) (env : FrameEnv) (skb : Skb) :
    Forwarding (Ubr τ × Bool) :=
  ubrForward cfg s now env { skb with cb := (s.ports 0).ingressCb }

/-- The kernel calls of `ubr_dev_newlink` that may fail. -/
structure NewlinkEnv where
  zallocFails : Bool := false
  rhashtable : Option Errno := none
  register : Option Errno := none

/-- `ubr_fdb_newlink` -/
def ubrFdbNewlink (cfg : Config) (env : NewlinkEnv) : Except Errno (UbrFdb τ) :=
  match env.rhashtable with
  | some e => .error e
  | none => .ok { ageingTimeout := 300 * cfg.hz }

/-- The private area after `memset` and the two assignments that follow it. -/
def zeroedUbr (dev : Dev) (devAddr : Mac) : Ubr τ :=
  { dev, devAddr, vlanProto := ethP8021q, fdb := { ageingTimeout := 0 } }

/-- The new bridge, or the error after which the kernel frees its memory. -/
def ubrDevNewlink (cfg : Config) (dev : Dev) (devAddr : Mac) (env : NewlinkEnv) :
    Except Fault (Except Errno (Ubr τ)) := do
  match ← ubrVlanNewlink cfg (zeroedUbr dev devAddr : Ubr τ) env.zallocFails with
  | (_, .error e) => .ok (.error e)
  | (s, .ok ()) =>
      match ubrFdbNewlink cfg env with
      | .error e => .ok (.error e)
      | .ok fdb => do
          let s ← ubrPortInit cfg { s with fdb } 0 dev
          match env.register with
          | some e => .ok (.error e)
          | none => .ok (.ok s)

end UnassumingBridge
