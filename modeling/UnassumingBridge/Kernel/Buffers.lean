import UnassumingBridge.Kernel.Forward
import UnassumingBridge.Support.Ownership

/-! # Who handles a buffer, and when

The pipeline of `UnassumingBridge.Kernel.Forward` with every access to a buffer in
its log: each function touches, clones or gives away the buffers it was passed, in
the order of the source. Seen through what leaves the bridge it is the pipeline
itself.
-/

namespace UnassumingBridge

open Support

variable {τ : Type}

def SkbEvent.buf : SkbEvent → Buf
  | .down _ _ skb => skb.buf
  | .up skb => skb.buf
  | .free buf => buf

/-- A buffer is taken by what leaves the bridge, or, without an event, by a helper
    that frees it and returns `NULL`. -/
abbrev SkbHandling := Handling Buf (Option SkbEvent)

abbrev Tracked (α : Type) := Logged SkbHandling Fault α

namespace Tracked

/-- The buffer, or the control block in it, is read or written. -/
def touch (buf : Buf) : Tracked Unit := Logged.emit (.touch buf)

/-- `kfree_skb`, `dev_queue_xmit` or `netif_receive_skb` -/
def consume (e : SkbEvent) : Tracked Unit := Logged.emit (.take e.buf (some e))

def ubrVlanIngress (cfg : Config) (s : Ubr τ) (env : FrameEnv) (skb : Skb) : Tracked (Bool × Option Skb) := do
  touch skb.buf
  match ← Logged.lift (UnassumingBridge.ubrVlanIngress cfg s env skb) with
  | (allow, some copy) => pure (allow, some copy)
  | (allow, none) => do
      Logged.emit (.take skb.buf none)
      pure (allow, none)

def ubrCommonEgress (cfg : Config) (s : Ubr τ) (env : FrameEnv) (atMac : Bool) (skb : Skb) (pidx : Pidx) :
    Tracked (Option Skb) := do
  touch skb.buf
  let skb ← Logged.lift (ubrEgressTag cfg s env atMac skb pidx)
  if vlanGetProtocol cfg atMac skb = 0 then do
    consume (.free skb.buf)
    pure none
  else do
    touch skb.buf
    pure (some skb)

def ubrDeliverUp (cfg : Config) (s : Ubr τ) (env : FrameEnv) (skb : Skb) : Tracked Unit := do
  touch skb.buf
  let skb := { skb with dev := some s.dev }
  match ← ubrCommonEgress cfg s env false skb 0 with
  | none => do
      -- the destination address is compared after the free
      touch skb.buf
      Logged.lift (.error .useAfterFree)
  | some skb => do
      touch skb.buf
      consume (.up { skb with pktHost := skb.pktHost || s.devAddr == skb.frame.hDest })

def ubrDeliverDown (cfg : Config) (s : Ubr τ) (env : FrameEnv) (skb : Skb) (pidx : Pidx) : Tracked Unit := do
  touch skb.buf
  let skb := { skb with dev := (s.ports pidx).dev }
  match ← ubrCommonEgress cfg s env true skb pidx with
  | none => do
      -- the freed buffer is passed to dev_queue_xmit
      touch skb.buf
      Logged.lift (.error .useAfterFree)
  | some skb =>
      match skb.dev with
      | none => do
          touch skb.buf
          Logged.lift (.error .nullDeref)
      | some dev => consume (.down pidx dev skb)

def ubrDeliverClones (cfg : Config) (s : Ubr τ) (env : FrameEnv) (skb : Skb) : List Pidx → Tracked Bool
  | [] => pure true
  | pidx :: rest => do
      touch skb.buf
      if env.cloneFails pidx then pure false
      else do
        Logged.emit (.make (.clone pidx))
        ubrDeliverDown cfg s env { skb with buf := .clone pidx } pidx
        ubrDeliverClones cfg s env skb rest

def ubrDeliver (cfg : Config) (s : Ubr τ) (env : FrameEnv) (skb : Skb) : Tracked Unit := do
  touch skb.buf
  match skb.cb.vec.findFirst with
  | none => consume (.free skb.buf)
  | some first => do
      let cloned ← ubrDeliverClones cfg s env skb (skb.cb.vec.toList.filter (first < ·))
      if cloned then
        if first = 0 then ubrDeliverUp cfg s env skb
        else ubrDeliverDown cfg s env skb first
      else consume (.free skb.buf)

variable [Jiffies τ]

def ubrForward (cfg : Config) (s : Ubr τ) (now : τ) (env : FrameEnv) (skb : Skb) : Tracked (Ubr τ × Bool) := do
  let (allow, skb?) ← ubrVlanIngress cfg s env skb
  -- the control block is part of the buffer, freed or not
  touch skb.buf
  match skb? with
  | none => Logged.lift (.error .useAfterFree)
  | some skb =>
      if skb.cb.ctrl then pure (s, true)
      else do
        let vlan ← Logged.lift (s.vlanAt skb.cb.vlan)
        touch skb.buf
        let (fdb, skb) := ubrFdbForward cfg s.fdb now env vlan skb
        let s := { s with fdb }
        let allow := allow && ubrCtrlIngress skb
        (if allow && ubrStpIngress skb && ubrFdbIngress skb then ubrDeliver cfg s env skb
        else consume (.free skb.buf))
        pure (s, false)

/-- What left the bridge. -/
def leaving : SkbHandling → Option SkbEvent
  | .take _ e => e
  | _ => none

variable {cfg : Config} {s : Ubr τ} {env : FrameEnv}

omit [Jiffies τ] in
theorem touch_bind {α : Type} (buf : Buf) (k : Unit → Tracked α) :
    (touch buf >>= k).filterMap leaving = (k ()).filterMap leaving :=
  Logged.filterMap_emit_bind leaving rfl k

omit [Jiffies τ] in
theorem consume_leaves (e : SkbEvent) : (consume e).filterMap leaving = Logged.emit e :=
  Logged.filterMap_emit leaving rfl

omit [Jiffies τ] in
theorem ubrCommonEgress_leaving (atMac : Bool) (skb : Skb) (q : Pidx) :
    (ubrCommonEgress cfg s env atMac skb q).filterMap leaving =
      UnassumingBridge.ubrCommonEgress cfg s env atMac skb q := by
  simp only [ubrCommonEgress, UnassumingBridge.ubrCommonEgress]
  rw [touch_bind, Logged.filterMap_bind, Logged.filterMap_lift]
  congr 1
  funext out
  split
  · rw [Logged.filterMap_bind, consume_leaves]
    rfl
  · exact touch_bind ..

omit [Jiffies τ] in
theorem ubrDeliverUp_leaving (skb : Skb) :
    (ubrDeliverUp cfg s env skb).filterMap leaving = UnassumingBridge.ubrDeliverUp cfg s env skb := by
  simp only [ubrDeliverUp, UnassumingBridge.ubrDeliverUp]
  rw [touch_bind, Logged.filterMap_bind, ubrCommonEgress_leaving]
  congr 1
  funext out
  cases out with
  | none => exact touch_bind ..
  | some copy => rw [touch_bind, consume_leaves]

omit [Jiffies τ] in
theorem ubrDeliverDown_leaving (skb : Skb) (q : Pidx) :
    (ubrDeliverDown cfg s env skb q).filterMap leaving = UnassumingBridge.ubrDeliverDown cfg s env skb q := by
  simp only [ubrDeliverDown, UnassumingBridge.ubrDeliverDown]
  rw [touch_bind, Logged.filterMap_bind, ubrCommonEgress_leaving]
  congr 1
  funext out
  cases out with
  | none => exact touch_bind ..
  | some copy =>
      simp only
      cases copy.dev with
      | none => exact touch_bind ..
      | some dev => exact consume_leaves _

omit [Jiffies τ] in
theorem ubrDeliverClones_leaving (skb : Skb) (l : List Pidx) :
    (ubrDeliverClones cfg s env skb l).filterMap leaving = UnassumingBridge.ubrDeliverClones cfg s env skb l := by
  induction l with
  | nil => rfl
  | cons q rest ih =>
      simp only [ubrDeliverClones, UnassumingBridge.ubrDeliverClones]
      rw [touch_bind]
      split
      · rfl
      · rw [Logged.filterMap_emit_bind leaving rfl, Logged.filterMap_bind, ubrDeliverDown_leaving, ih]

omit [Jiffies τ] in
theorem ubrDeliver_leaving (skb : Skb) :
    (ubrDeliver cfg s env skb).filterMap leaving = UnassumingBridge.ubrDeliver cfg s env skb := by
  simp only [ubrDeliver, UnassumingBridge.ubrDeliver]
  rw [touch_bind]
  cases skb.cb.vec.findFirst with
  | none => exact consume_leaves _
  | some first =>
      simp only
      rw [Logged.filterMap_bind, ubrDeliverClones_leaving]
      congr 1
      funext cloned
      split
      · split
        · exact ubrDeliverUp_leaving skb
        · exact ubrDeliverDown_leaving skb _
      · exact consume_leaves _

/-- Seen through what leaves the bridge, the tracked pipeline is the pipeline. -/
theorem ubrForward_leaving (now : τ) (skb : Skb) :
    (ubrForward cfg s now env skb).filterMap leaving = UnassumingBridge.ubrForward cfg s now env skb := by
  simp only [ubrForward, UnassumingBridge.ubrForward, ubrVlanIngress]
  rw [Logged.filterMap_bind, touch_bind, Logged.filterMap_bind, Logged.filterMap_lift]
  cases UnassumingBridge.ubrVlanIngress cfg s env skb with
  | error f => rfl
  | ok out =>
      obtain ⟨allow, kept⟩ := out
      cases kept with
      | none => rfl
      | some copy =>
          simp only [Logged.lift_ok_bind, Logged.filterMap_pure, Logged.pure_bind, touch_bind]
          split
          · rfl
          · rw [Logged.filterMap_bind, Logged.filterMap_lift]
            congr 1
            funext vlan
            rw [touch_bind, Logged.filterMap_bind]
            congr 1
            split
            · exact ubrDeliver_leaving _
            · exact consume_leaves _

end Tracked
end UnassumingBridge
