import UnassumingBridge.Kernel.Fdb
import UnassumingBridge.Support.Ownership

/-! # The forwarding database in memory

The functions of `ubr-fdb.c` with the address of every node, cut where another CPU
can come in between: `ubr_fdb_learn` looks a key up and inserts it later, and
`ubr_fdb_forward` looks up again after that. Each part says what it did to the hash
table and to the nodes.
-/

namespace UnassumingBridge

open Support

variable {τ : Type}

/-- Address of a `struct ubr_fdb_node`; never reused. -/
abbrev NodeRef := Nat

/-- `struct ubr_fdb_node` and the address it was allocated at -/
structure StoredNode (τ : Type) where
  ref : NodeRef
  node : UbrFdbNode τ

def StoredNode.addr (n : StoredNode τ) : UbrFdbAddr := n.node.addr

/-- `struct ubr_fdb` with the addresses of its nodes. -/
structure FdbMemory (τ : Type) where
  nodes : List (StoredNode τ) := []
  rcu : List (StoredNode τ) := []
  nextNode : NodeRef := 0
  ageingTimeout : Nat

/-- What the database allocates. -/
inductive FdbObject where
  | table
  | node (ref : NodeRef)
  deriving DecidableEq, Repr

/-- The table is made with the bridge and taken by `rhashtable_destroy`; a node is
    made by `kmem_cache_zalloc` and taken by `kmem_cache_free`. -/
abbrev FdbHandling := Handling FdbObject Unit

namespace FdbMemory

/-- The database without the addresses. -/
def view (m : FdbMemory τ) : UbrFdb τ where
  nodes := m.nodes.map StoredNode.node
  rcu := m.rcu.map StoredNode.node
  ageingTimeout := m.ageingTimeout

def lookup (m : FdbMemory τ) (key : UbrFdbAddr) : Option (StoredNode τ) :=
  Table.lookup StoredNode.addr key m.nodes

/-- What a lookup handles, and the reader of what it returned. -/
def lookupHandled (found : Option (StoredNode τ)) : List FdbHandling :=
  .touch .table :: (found.map fun n => Handling.touch (.node n.ref)).toList

def refresh (m : FdbMemory τ) (key : UbrFdbAddr) (pidx : Pidx) (now : τ) : FdbMemory τ :=
  { m with nodes := Table.update StoredNode.addr key (fun n => { n with node := n.node.seenOn pidx now }) m.nodes }

/-- `ubr_fdb_learn` up to the allocation, with the key that is left to insert. -/
def learnLookup (m : FdbMemory τ) (now : τ) (vlan : UbrVlan) (skb : Skb) :
    FdbMemory τ × Option UbrFdbAddr × List FdbHandling :=
  if !isValidEtherAddr skb.frame.hSource then (m, none, [])
  else
    let key := macKey vlan.vid skb.frame.hSource
    match m.lookup key with
    | some n =>
        if n.node.proto ≠ .dynamic then (m, none, lookupHandled (some n))
        else (m.refresh key skb.cb.pidx now, none, lookupHandled (some n))
    | none => (m, some key, lookupHandled (none : Option (StoredNode τ)))

def newNode (m : FdbMemory τ) (now : τ) (key : UbrFdbAddr) (pidx : Pidx) : StoredNode τ where
  ref := m.nextNode
  node := ⟨key, Bitmap.zero.set pidx, .dynamic, now⟩

/-- The rest of `ubr_fdb_learn`. The insertion also fails when the key has come in
    since the lookup. -/
def learnInsert (m : FdbMemory τ) (now : τ) (env : FrameEnv) (key : UbrFdbAddr) (pidx : Pidx) :
    FdbMemory τ × List FdbHandling :=
  if env.nodeAllocFails then (m, [])
  else if env.nodeInsertFails ∨ (m.lookup key).isSome then
    ({ m with nextNode := m.nextNode + 1 },
      [.make (.node m.nextNode), .touch .table, .take (.node m.nextNode) ()])
  else
    ({ m with
        nodes := m.newNode now key pidx :: m.nodes
        nextNode := m.nextNode + 1 },
      [.make (.node m.nextNode), .touch .table])

/-- `rhashtable_remove_fast`, then `call_rcu` on the node. -/
def removeNode (m : FdbMemory τ) (n : StoredNode τ) : FdbMemory τ :=
  { m with
    nodes := Table.remove StoredNode.addr n.addr m.nodes
    rcu := m.rcu ++ [n] }

/-- `ubr_fdb_node_delete_rcu` -/
def nodeDeleteRcu (m : FdbMemory τ) (ref : NodeRef) : FdbMemory τ × List FdbHandling :=
  ({ m with rcu := m.rcu.filter fun n => n.ref ≠ ref }, [.take (.node ref) ()])

variable [Jiffies τ]

/-- The second lookup of `ubr_fdb_forward`, with the filter that it leads to. -/
def filter (cfg : Config) (m : FdbMemory τ) (now : τ) (env : FrameEnv) (vlan : UbrVlan) (skb : Skb) :
    UbrVec × List FdbHandling :=
  (ubrFdbFilter cfg m.view now env vlan skb, lookupHandled (m.lookup (ubrFdbDestKey cfg env vlan skb)))

/-- The loop of `ubr_fdb_flush`. -/
def flushWalk (m : FdbMemory τ) (op : UbrFdbFlushOp) (now : τ) : List WalkItem → FdbMemory τ × List FdbHandling
  | [] => (m, [])
  | .again :: walk => m.flushWalk op now walk
  | .error _ :: _ => (m, [])
  | .node addr :: walk =>
      match m.lookup addr with
      | none => m.flushWalk op now walk
      | some n =>
          let (m, handled) :=
            (if op.selects m.view now n.node then m.removeNode n else m).flushWalk op now walk
          (m, lookupHandled (some n) ++ handled)

def flush (m : FdbMemory τ) (op : UbrFdbFlushOp) (now : τ) (walk : List WalkItem) :
    FdbMemory τ × List FdbHandling :=
  let (m, handled) := m.flushWalk op now walk
  (m, .touch .table :: handled)

end FdbMemory

def WalkItem.fails : WalkItem → Bool
  | .error _ => true
  | _ => false

/-- What is promised of a walk during which the table stays the same: it returns every
    node, and no error but `-EAGAIN`. -/
def FdbMemory.Complete (m : FdbMemory τ) (walk : List WalkItem) : Prop :=
  (∀ n ∈ m.nodes, .node n.addr ∈ walk) ∧ ∀ item ∈ walk, item.fails = false

instance (m : FdbMemory τ) (walk : List WalkItem) : Decidable (m.Complete walk) :=
  inferInstanceAs (Decidable ((∀ n ∈ m.nodes, .node n.addr ∈ walk) ∧ ∀ item ∈ walk, item.fails = false))

end UnassumingBridge
