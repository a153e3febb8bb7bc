import UnassumingBridge.Kernel.Nodes
import UnassumingBridge.Kernel.System

/-! # One bridge until it is gone

The machine of one bridge with `ubr_dev_dellink` taken step by step and with frames
that are on their way through the bridge meanwhile. A frame that has passed the VLAN
stage is in flight and goes on when its CPU gets to it.
-/

namespace UnassumingBridge

open Support

variable {τ : Type}

/-- Where a frame in flight is. -/
inductive Stage where
  | learn
  | insert (key : UbrFdbAddr)
  | lookup
  | deliver
  deriving DecidableEq

/-- A key that was not found is inserted next. -/
def Stage.afterLookup : Option UbrFdbAddr → Stage
  | some key => .insert key
  | none => .lookup

/-- A frame between two steps of the pipeline. -/
structure InFlight where
  /-- The slave that received the frame; `none` when the host sends it. -/
  source : Option Dev
  skb : Skb
  env : FrameEnv
  allow : Bool
  stage : Stage := .learn

/-- How far `ubr_dev_dellink` and the unregistration after it have come. -/
inductive Phase where
  | up
  /-- in the loop over the busy bits, with the bits that are left -/
  | removing (rest : List Pidx)
  /-- behind `cancel_delayed_work_sync` -/
  | cancelled
  | flushed
  | destroyed
  /-- behind `unregister_netdevice_queue` -/
  | queued
  | gone
  deriving DecidableEq

namespace Phase

/-- The ageing work is still queued. -/
def ageing : Phase → Bool
  | .up | .removing _ => true
  | _ => false

def flushAhead : Phase → Bool
  | .cancelled => true
  | phase => phase.ageing

/-- `rhashtable_destroy` is still ahead. -/
def hasTable : Phase → Bool
  | .flushed => true
  | phase => phase.flushAhead

end Phase

/-- A bridge that goes away, with the frames in flight and the nodes of its database. -/
structure Teardown (τ : Type) where
  sys : Sys τ
  /-- What is behind `sys.ubr.fdb`. -/
  fdb : FdbMemory τ
  flight : List InFlight := []
  phase : Phase := .up

/-- What happens to it; `ubr_dev_dellink` takes one step at a time. -/
inductive TeardownEvent where
  /-- an event that does not concern the FDB -/
  | around (e : Event)
  | rx (dev : Dev) (skb : Skb) (env : FrameEnv)
  | xmit (skb : Skb) (env : FrameEnv)
  /-- a frame in flight goes on -/
  | advance (i : Nat)
  | age (walk : List WalkItem)
  | nodeFree (ref : NodeRef)
  /-- the next step of `ubr_dev_dellink`, or the unregistration -/
  | dellink
  /-- the flush, which is a step of `ubr_dev_dellink` -/
  | flush (walk : List WalkItem)

/-- What a step has sent, and what it has done to the table and its nodes. -/
structure TeardownOutcome where
  out : Outcome := {}
  handled : List FdbHandling := []

/-- The busy bits that the loop of `ubr_dev_dellink` will stop at. -/
def Ubr.laterSlaves (s : Ubr τ) (rest : List Pidx) : List Pidx :=
  rest.dropWhile fun k => decide (k ∉ s.busy ∨ k = 0)

namespace Teardown

/-- No frame of the device is in flight: `netdev_rx_handler_unregister` waits for that. -/
def Quiet (s : Teardown τ) (source : Option Dev) : Prop := ∀ f ∈ s.flight, f.source ≠ source

/-- Slaves come and go under the RTNL, which `ubr_dev_dellink` is called with. -/
def Free (s : Teardown τ) : Event → Prop
  | .rx .. | .xmit .. | .age .. => False
  | .portAdd .. => s.phase = .up
  | .portDel dev => s.phase = .up ∧ s.Quiet (some dev)
  | _ => True

/-- What the next step of `ubr_dev_dellink` waits for. -/
def DellinkReady (s : Teardown τ) : Prop :=
  match s.phase with
  | .removing rest => ∀ k ∈ (s.sys.ubr.laterSlaves rest).head?, s.Quiet (s.sys.ubr.ports k).dev
  -- the device is closed before it goes
  | .queued => s.Quiet none
  | .cancelled | .gone => False
  | _ => True

def Enabled (s : Teardown τ) : TeardownEvent → Prop
  | .around e => s.sys.Enabled e ∧ s.Free e
  | .rx dev _ _ => (s.sys.slotOf dev).isSome
  | .xmit .. => s.phase ≠ .gone
  | .advance i => i < s.flight.length
  | .age _ => s.phase.ageing
  | .nodeFree ref => ref ∈ s.fdb.rcu.map StoredNode.ref
  | .dellink => s.DellinkReady
  | .flush walk => s.phase = .cancelled ∧ s.fdb.Complete walk

def setFdb (s : Teardown τ) (fdb : FdbMemory τ) : Teardown τ := { s with fdb, sys.ubr.fdb := fdb.view }

/-- A frame passes the VLAN stage. -/
def arrive (cfg : Config) (s : Teardown τ) (source : Option Dev) (skb : Skb) (env : FrameEnv) :
    Except Fault (Teardown τ × TeardownOutcome) := do
  let (allow, skb?) ← ubrVlanIngress cfg s.sys.ubr env skb
  match skb? with
  | none => .error .useAfterFree
  | some skb =>
      if skb.cb.ctrl then .ok (s, {})
      else .ok ({ s with flight := s.flight ++ [{ source, skb, env, allow }] }, {})

def dellink (s : Teardown τ) : Except Fault (Teardown τ × TeardownOutcome) :=
  match s.phase with
  | .up => .ok ({ s with phase := .removing (List.finRange 256) }, {})
  | .removing rest =>
      match s.sys.ubr.laterSlaves rest with
      | [] => .ok ({ s with phase := .cancelled }, {})
      | pidx :: rest =>
          match (s.sys.ubr.ports pidx).dev with
          | none => .error .nullDeref
          | some dev => do
              let (ubr, nd) ← ubrPortDel s.sys.ubr (s.sys.devs dev)
              .ok ({ s with sys := { s.sys with ubr }.setDev dev nd, phase := .removing rest }, {})
  | .flushed => .ok ({ s with phase := .destroyed }, { handled := [.take .table ()] })
  | .destroyed => .ok ({ s with phase := .queued }, {})
  | .queued => .ok ({ s with phase := .gone }, {})
  | .cancelled | .gone => .ok (s, {})

variable [Jiffies τ]

/-- The frame at place `i` takes its next step. -/
def advance (cfg : Config) (s : Teardown τ) (i : Nat) (f : InFlight) :
    Except Fault (Teardown τ × TeardownOutcome) :=
  match f.stage with
  | .learn => do
      let vlan ← s.sys.ubr.vlanAt f.skb.cb.vlan
      if f.skb.cb.saLearning && vlan.saLearning then
        let (fdb, key, handled) := s.fdb.learnLookup s.sys.jiffies vlan f.skb
        .ok ({ s.setFdb fdb with flight := s.flight.set i { f with stage := .afterLookup key } }, { handled })
      else .ok ({ s with flight := s.flight.set i { f with stage := .lookup } }, {})
  | .insert key =>
      let (fdb, handled) := s.fdb.learnInsert s.sys.jiffies f.env key f.skb.cb.pidx
      .ok ({ s.setFdb fdb with flight := s.flight.set i { f with stage := .lookup } }, { handled })
  | .lookup => do
      let vlan ← s.sys.ubr.vlanAt f.skb.cb.vlan
      let (filter, handled) := s.fdb.filter cfg s.sys.jiffies f.env vlan f.skb
      let skb := { f.skb with cb.vec := f.skb.cb.vec.and filter }
      .ok ({ s with flight := s.flight.set i { f with skb, stage := .deliver } }, { handled })
  | .deliver =>
      let allow := f.allow && ubrCtrlIngress f.skb
      let run : Forwarding Unit :=
        if allow && ubrStpIngress f.skb && ubrFdbIngress f.skb then ubrDeliver cfg s.sys.ubr f.env f.skb
        else Logged.emit (.free f.skb.buf)
      match run.res with
      | .error e => .error e
      | .ok () => .ok ({ s with flight := s.flight.eraseIdx i }, { out := { log := run.log } })

def exec (cfg : Config) (s : Teardown τ) : TeardownEvent → Except Fault (Teardown τ × TeardownOutcome)
  | .around e => do
      let (sys, out) ← s.sys.exec cfg e
      .ok ({ s with sys }, { out })
  | .rx dev skb env =>
      match s.sys.slotOf dev with
      | none => .ok (s, {})
      | some slot => do
          ubrFromPort s.sys.ubr slot
          s.arrive cfg (some dev) { skb with cb := (s.sys.ubr.ports slot).ingressCb } env
  | .xmit skb env => s.arrive cfg none { skb with cb := (s.sys.ubr.ports 0).ingressCb } env
  | .advance i =>
      match s.flight[i]? with
      | none => .ok (s, {})
      | some f => s.advance cfg i f
  | .age walk =>
      let (fdb, handled) := s.fdb.flush ageingOp s.sys.jiffies walk
      .ok (s.setFdb fdb, { handled })
  | .nodeFree ref =>
      let (fdb, handled) := s.fdb.nodeDeleteRcu ref
      .ok (s.setFdb fdb, { handled })
  | .dellink => s.dellink
  | .flush walk =>
      let (fdb, handled) := s.fdb.flush {} s.sys.jiffies walk
      .ok ({ s.setFdb fdb with phase := .flushed }, { handled })

instance (s : Teardown τ) (source : Option Dev) : Decidable (s.Quiet source) :=
  inferInstanceAs (Decidable (∀ f ∈ s.flight, f.source ≠ source))

instance (s : Teardown τ) : (e : Event) → Decidable (s.Free e)
  | .rx .. | .xmit .. | .age .. => .isFalse id
  | .portAdd .. => inferInstanceAs (Decidable (s.phase = .up))
  | .portDel dev => inferInstanceAs (Decidable (s.phase = .up ∧ s.Quiet (some dev)))
  | .tick .. | .portCleanup .. | .vlanAdd .. | .vlanDel .. | .vlanFree .. | .vlanAttach .. | .vlanDetach ..
  | .portSet .. | .devChange .. => .isTrue trivial

instance (s : Teardown τ) : Decidable s.DellinkReady :=
  match h : s.phase with
  | .removing rest => decidable_of_iff
      (∀ k ∈ (s.sys.ubr.laterSlaves rest).head?, s.Quiet (s.sys.ubr.ports k).dev) (by rw [DellinkReady, h])
  | .queued => decidable_of_iff (s.Quiet none) (by rw [DellinkReady, h])
  | .cancelled | .gone => .isFalse (by rw [DellinkReady, h]; exact id)
  | .up | .flushed | .destroyed => .isTrue (by rw [DellinkReady, h]; trivial)

end Teardown

/-- A bridge that was just created. -/
def Teardown.Init (cfg : Config) (s : Teardown τ) : Prop :=
  s.sys.Init cfg ∧ s.fdb = { ageingTimeout := s.sys.ubr.fdb.ageingTimeout } ∧ s.flight = [] ∧ s.phase = .up

/-- The machine of one bridge and its end. -/
def teardown (τ : Type) [Jiffies τ] (cfg : Config) : Machine (Teardown τ) TeardownEvent TeardownOutcome Fault where
  Init := Teardown.Init cfg
  Enabled := Teardown.Enabled
  exec := Teardown.exec cfg

instance [Jiffies τ] (cfg : Config) (s : Teardown τ) : (e : TeardownEvent) → Decidable ((teardown τ cfg).Enabled s e)
  | .around e => inferInstanceAs (Decidable (s.sys.Enabled e ∧ s.Free e))
  | .rx dev _ _ => inferInstanceAs (Decidable ((s.sys.slotOf dev).isSome = true))
  | .xmit .. => inferInstanceAs (Decidable (s.phase ≠ .gone))
  | .advance i => inferInstanceAs (Decidable (i < s.flight.length))
  | .age _ => inferInstanceAs (Decidable (s.phase.ageing = true))
  | .nodeFree ref => inferInstanceAs (Decidable (ref ∈ s.fdb.rcu.map StoredNode.ref))
  | .flush walk => inferInstanceAs (Decidable (s.phase = .cancelled ∧ s.fdb.Complete walk))
  | .dellink => inferInstanceAs (Decidable s.DellinkReady)

end UnassumingBridge
