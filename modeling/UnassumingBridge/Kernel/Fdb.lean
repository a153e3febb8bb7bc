import UnassumingBridge.Kernel.Skb
import UnassumingBridge.Support.Table

/-! # The forwarding database (`ubr-fdb.c`)

The hash table is the list of its nodes, looked up by their embedded key.
Functions that read `jiffies` take its value as `now`; `ubr_fdb_forward` takes
the object behind `cb->vlan`, which its caller in `UnassumingBridge.Kernel.Forward`
follows first.
-/

namespace UnassumingBridge

open Support

variable {τ : Type}

/-- `rhashtable_lookup` -/
def UbrFdb.lookup (fdb : UbrFdb τ) (key : UbrFdbAddr) : Option (UbrFdbNode τ) :=
  Table.lookup UbrFdbNode.addr key fdb.nodes

section Time

variable [Jiffies τ]

def ubrFdbNodeIsOld (fdb : UbrFdb τ) (now : τ) (node : UbrFdbNode τ) : Bool :=
  node.proto == .dynamic && Jiffies.timeAfter now (Jiffies.later node.tstamp fdb.ageingTimeout)

/-- One result of `rhashtable_walk_next`: a node that is in the table, `-EAGAIN`
    after a resize, or another error. -/
inductive WalkItem where
  | node (addr : UbrFdbAddr)
  | again
  | error (e : Errno)
  deriving DecidableEq, Repr

/-- None of the `continue`s of the flush loop is taken. -/
def UbrFdbFlushOp.selects (op : UbrFdbFlushOp) (fdb : UbrFdb τ) (now : τ) (node : UbrFdbNode τ) : Bool :=
  !(op.perPort && !node.vec.test op.pidx) &&
  !(op.perVlan && node.addr.vid != op.vid) &&
  !(op.perProto && (node.proto != op.proto ||
    (op.proto == .dynamic && op.old && !ubrFdbNodeIsOld fdb now node)))

/-- `rhashtable_remove_fast`, then `call_rcu` on the node. -/
def UbrFdb.removeNode (fdb : UbrFdb τ) (node : UbrFdbNode τ) : UbrFdb τ :=
  { fdb with
    nodes := Table.remove UbrFdbNode.addr node.addr fdb.nodes
    rcu := fdb.rcu ++ [node] }

/-- The walk is what the walker returns until its `NULL`. -/
def ubrFdbFlush (fdb : UbrFdb τ) (op : UbrFdbFlushOp) (now : τ) : List WalkItem → UbrFdb τ × Ret
  | [] => (fdb, .ok ())
  | .again :: walk => ubrFdbFlush fdb op now walk
  | .error e :: _ => (fdb, .error e)
  | .node addr :: walk =>
      match fdb.lookup addr with
      | none => ubrFdbFlush fdb op now walk
      | some node =>
          if op.selects fdb now node then ubrFdbFlush (fdb.removeNode node) op now walk
          else ubrFdbFlush fdb op now walk

def ageingOp : UbrFdbFlushOp := { perProto := true, proto := .dynamic, old := true }

def ubrFdbAge (fdb : UbrFdb τ) (now : τ) (walk : List WalkItem) : UbrFdb τ :=
  (ubrFdbFlush fdb ageingOp now walk).1

end Time

def macKey (vid : Vid) (mac : Mac) : UbrFdbAddr := ({ type := .mac, vid } : UbrFdbAddr).setMac mac

def UbrFdbNode.seenOn (node : UbrFdbNode τ) (pidx : Pidx) (now : τ) : UbrFdbNode τ :=
  { node with
    vec := if pidx ∈ node.vec then node.vec else Bitmap.zero.set pidx
    tstamp := now }

def ubrFdbLearn (fdb : UbrFdb τ) (now : τ) (env : FrameEnv) (vlan : UbrVlan) (skb : Skb) : UbrFdb τ :=
  if !isValidEtherAddr skb.frame.hSource then fdb
  else
    let key := macKey vlan.vid skb.frame.hSource
    match fdb.lookup key with
    | some node =>
        if node.proto ≠ .dynamic then fdb
        else { fdb with
          nodes := Table.update UbrFdbNode.addr key (fun n => n.seenOn skb.cb.pidx now) fdb.nodes }
    | none =>
        if env.nodeAllocFails ∨ env.nodeInsertFails then fdb
        else { fdb with
          nodes := ⟨key, Bitmap.zero.set skb.cb.pidx, .dynamic, now⟩ :: fdb.nodes }

/-- The key that `ubr_fdb_forward` looks up. -/
def ubrFdbDestKey (cfg : Config) (env : FrameEnv) (vlan : UbrVlan) (skb : Skb) : UbrFdbAddr :=
  let key : UbrFdbAddr := { vid := vlan.vid }
  if isMulticastEtherAddr skb.frame.hDest ∧ skb.protocol = cfg.htons ethPIp then
    { key with type := .ip4 }.setIp4 (skb.ipDaddr env)
  else if isMulticastEtherAddr skb.frame.hDest ∧ cfg.ipv6 ∧ skb.protocol = cfg.htons ethPIpv6 then
    { key with type := .ip6 }.setIp6 (skb.ipv6Daddr env)
  else
    { key with type := .mac }.setMac skb.frame.hDest

/-- The `flood:` label. -/
def floodVec (vlan : UbrVlan) (hDest : Mac) : UbrVec :=
  if isMulticastEtherAddr hDest then
    if isBroadcastEtherAddr hDest then vlan.bcflood else vlan.mcflood
  else vlan.ucflood

section Time

variable [Jiffies τ]

/-- The `filter` that `ubr_fdb_forward` chooses. -/
def ubrFdbFilter (cfg : Config) (fdb : UbrFdb τ) (now : τ) (env : FrameEnv) (vlan : UbrVlan)
    (skb : Skb) : UbrVec :=
  match fdb.lookup (ubrFdbDestKey cfg env vlan skb) with
  | some node => if ubrFdbNodeIsOld fdb now node then floodVec vlan skb.frame.hDest else node.vec
  | none => floodVec vlan skb.frame.hDest

/-- The table that the lookup of `ubr_fdb_forward` sees. -/
def ubrFdbLearned (fdb : UbrFdb τ) (now : τ) (env : FrameEnv) (vlan : UbrVlan) (skb : Skb) : UbrFdb τ :=
  if skb.cb.saLearning && vlan.saLearning then ubrFdbLearn fdb now env vlan skb else fdb

def ubrFdbForward (cfg : Config) (fdb : UbrFdb τ) (now : τ) (env : FrameEnv) (vlan : UbrVlan)
    (skb : Skb) : UbrFdb τ × Skb :=
  let fdb := ubrFdbLearned fdb now env vlan skb
  (fdb, { skb with cb.vec := skb.cb.vec.and (ubrFdbFilter cfg fdb now env vlan skb) })

end Time
end UnassumingBridge
