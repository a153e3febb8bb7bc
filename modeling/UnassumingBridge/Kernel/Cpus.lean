import UnassumingBridge.Kernel.Nodes
import UnassumingBridge.Support.Linearizable
import UnassumingBridge.Support.Machine

/-! # The database and its CPUs

The machine of one FDB with any number of frames in `ubr_fdb_forward` and the ageing work,
all of them at the same time. A frame that is learned looks its node up and writes to it
later, or inserts one later; the ageing work tests a node and removes it later. Both hold
on to the node by its address.
-/

namespace UnassumingBridge

open Support

variable {τ : Type}

/-- What `ubr_fdb_forward` does next. -/
inductive ForwardStep where
  | learn
  /-- write to the node that was found -/
  | refresh (ref : NodeRef)
  /-- none was found -/
  | insert (key : UbrFdbAddr)
  | lookup
  | done
  deriving DecidableEq

/-- A frame at `ubr_fdb_forward`, with the object behind its VLAN pointer. -/
structure Forwarder where
  vlan : UbrVlan
  skb : Skb
  env : FrameEnv
  next : ForwardStep := .learn

def Forwarder.learns (f : Forwarder) : Bool := f.skb.cb.saLearning && f.vlan.saLearning

/-- What is called of the database: `ubr_fdb_learn` and the lookup behind it by each frame,
    and what comes from elsewhere. -/
inductive FdbCall where
  | learn (frame : Nat)
  | filter (frame : Nat)
  | other (k : Nat)
  deriving DecidableEq

/-- The operations of the database. -/
inductive FdbOp (τ : Type) where
  | learn (vlan : UbrVlan) (skb : Skb) (env : FrameEnv)
  | filter (vlan : UbrVlan) (skb : Skb) (env : FrameEnv)
  /-- the node of this key goes if it is old at this time -/
  | expire (addr : UbrFdbAddr) (now : τ)
  | tick (n : Nat)

abbrev FdbAct (τ : Type) := Act FdbCall (FdbOp τ) (Option UbrVec)

/-- The node that `ubr_fdb_flush` has selected and is about to remove. -/
structure Expiring (τ : Type) where
  call : Nat
  ref : NodeRef
  addr : UbrFdbAddr
  now : τ

/-- A database that frames on several CPUs and the ageing work use at the same time. -/
structure Cpus (τ : Type) where
  fdb : FdbMemory τ
  jiffies : τ
  /-- Every frame since the start, those that are through included. -/
  frames : List Forwarder := []
  expiring : Option (Expiring τ) := none
  /-- How many calls there were from elsewhere. -/
  others : Nat := 0

/-- What one of the CPUs does next. -/
inductive CpuEvent where
  | receive (vlan : UbrVlan) (skb : Skb) (env : FrameEnv)
  /-- a frame's CPU goes on -/
  | advance (i : Nat)
  /-- the walk of the ageing work comes to the node of this key -/
  | visit (addr : UbrFdbAddr)
  | remove
  | tick (n : Nat)

namespace FdbMemory

/-- `ubr_fdb_learn` up to its first lookup, included. -/
def learnFind (m : FdbMemory τ) (vlan : UbrVlan) (skb : Skb) : ForwardStep :=
  if !isValidEtherAddr skb.frame.hSource then .lookup
  else
    match m.lookup (macKey vlan.vid skb.frame.hSource) with
    | some n => if n.node.proto ≠ .dynamic then .lookup else .refresh n.ref
    | none => .insert (macKey vlan.vid skb.frame.hSource)

/-- A write to a node that may have been removed since it was found. -/
def refreshAt (m : FdbMemory τ) (ref : NodeRef) (pidx : Pidx) (now : τ) : FdbMemory τ :=
  let written (n : StoredNode τ) := if n.ref = ref then { n with node := n.node.seenOn pidx now } else n
  { m with nodes := m.nodes.map written, rcu := m.rcu.map written }

def removeAt (m : FdbMemory τ) (ref : NodeRef) : FdbMemory τ :=
  match Table.lookup StoredNode.ref ref m.nodes with
  | some n => m.removeNode n
  | none => m

end FdbMemory

namespace Cpus

def goTo (s : Cpus τ) (i : Nat) (f : Forwarder) (next : ForwardStep) : Cpus τ :=
  { s with frames := s.frames.set i { f with next } }

def Enabled (s : Cpus τ) : CpuEvent → Prop
  | .advance i => i < s.frames.length
  | .visit _ => s.expiring.isNone
  | .remove => s.expiring.isSome
  | .receive .. | .tick _ => True

variable [Jiffies τ]

/-- What is seen of the calls, newest first. -/
def advance (cfg : Config) (s : Cpus τ) (i : Nat) (f : Forwarder) : Cpus τ × List (FdbAct τ) :=
  match f.next with
  | .learn =>
      if f.learns then
        match s.fdb.learnFind f.vlan f.skb with
        | .lookup => (s.goTo i f .lookup, [.ret (.learn i) none, .call (.learn i) (.learn f.vlan f.skb f.env)])
        | next => (s.goTo i f next, [.call (.learn i) (.learn f.vlan f.skb f.env)])
      else (s.goTo i f .lookup, [])
  | .refresh ref =>
      ({ s.goTo i f .lookup with fdb := s.fdb.refreshAt ref f.skb.cb.pidx s.jiffies }, [.ret (.learn i) none])
  | .insert key =>
      ({ s.goTo i f .lookup with fdb := (s.fdb.learnInsert s.jiffies f.env key f.skb.cb.pidx).1 },
        [.ret (.learn i) none])
  | .lookup =>
      (s.goTo i f .done, [.ret (.filter i) (some (s.fdb.filter cfg s.jiffies f.env f.vlan f.skb).1),
        .call (.filter i) (.filter f.vlan f.skb f.env)])
  | .done => (s, [])

/-- A node that is not old is passed over. -/
def visit (s : Cpus τ) (addr : UbrFdbAddr) : Cpus τ × List (FdbAct τ) :=
  match s.fdb.lookup addr with
  | none => (s, [])
  | some n =>
      let call : FdbAct τ := .call (.other s.others) (.expire addr s.jiffies)
      if ubrFdbNodeIsOld s.fdb.view s.jiffies n.node then
        ({ s with expiring := some ⟨s.others, n.ref, addr, s.jiffies⟩, others := s.others + 1 }, [call])
      else ({ s with others := s.others + 1 }, [.ret (.other s.others) none, call])

def exec (cfg : Config) (s : Cpus τ) : CpuEvent → Except Fault (Cpus τ × List (FdbAct τ))
  | .receive vlan skb env => .ok ({ s with frames := s.frames ++ [{ vlan, skb, env }] }, [])
  | .advance i =>
      match s.frames[i]? with
      | none => .ok (s, [])
      | some f => .ok (s.advance cfg i f)
  | .visit addr => .ok (s.visit addr)
  | .remove =>
      match s.expiring with
      | none => .ok (s, [])
      | some e => .ok ({ s with fdb := s.fdb.removeAt e.ref, expiring := none }, [.ret (.other e.call) none])
  | .tick n =>
      .ok ({ s with jiffies := Jiffies.later s.jiffies n, others := s.others + 1 },
        [.ret (.other s.others) none, .call (.other s.others) (.tick n)])

end Cpus

/-- The machine of the database that `ubr_fdb_newlink` made at this time. -/
def cpus (τ : Type) [Jiffies τ] (cfg : Config) (start : τ) : Machine (Cpus τ) CpuEvent (List (FdbAct τ)) Fault where
  Init s := s = { fdb := { ageingTimeout := 300 * cfg.hz }, jiffies := start }
  Enabled := Cpus.Enabled
  exec := Cpus.exec cfg

instance [Jiffies τ] (cfg : Config) (start : τ) (s : Cpus τ) :
    (e : CpuEvent) → Decidable ((cpus τ cfg start).Enabled s e)
  | .advance i => inferInstanceAs (Decidable (i < s.frames.length))
  | .visit _ => inferInstanceAs (Decidable (s.expiring.isNone = true))
  | .remove => inferInstanceAs (Decidable (s.expiring.isSome = true))
  | .receive .. | .tick _ => .isTrue trivial

end UnassumingBridge
