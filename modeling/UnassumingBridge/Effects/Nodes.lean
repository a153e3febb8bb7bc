import UnassumingBridge.Kernel.Nodes
import UnassumingBridge.Effects.Fdb

/-! # The database in memory is the database

Without the addresses every part of `UnassumingBridge.Kernel.Nodes` is the function of
`UnassumingBridge.Kernel.Fdb`, and the parts of one frame put together are
`ubr_fdb_forward`. With them, `Books` says which objects a ledger of the handlings has
to hold.
-/

namespace UnassumingBridge

open Support

variable {τ : Type}

namespace FdbMemory

variable {m : FdbMemory τ} {now : τ} {env : FrameEnv} {vlan : UbrVlan} {skb : Skb} {key : UbrFdbAddr} {pidx : Pidx}

section View

theorem view_lookup (m : FdbMemory τ) (key : UbrFdbAddr) : m.view.lookup key = (m.lookup key).map StoredNode.node :=
  Table.lookup_map

theorem view_refresh : (m.refresh key pidx now).view =
    { m.view with nodes := Table.update UbrFdbNode.addr key (fun n => n.seenOn pidx now) m.view.nodes } := by
  have nodes : Table.update UbrFdbNode.addr key (fun n => n.seenOn pidx now) (m.nodes.map StoredNode.node) =
      ((m.refresh key pidx now).nodes).map StoredNode.node := Table.update_map fun _ => rfl
  simp only [view, nodes]
  rfl

theorem view_removeNode (n : StoredNode τ) : (m.removeNode n).view = m.view.removeNode n.node := by
  have nodes : Table.remove UbrFdbNode.addr n.addr (m.nodes.map StoredNode.node) =
      ((m.removeNode n).nodes).map StoredNode.node := Table.remove_map
  simp only [view, UbrFdb.removeNode, ← nodes]
  simp [removeNode, StoredNode.addr]

/-- The two parts of `ubr_fdb_learn`, with nothing in between. -/
theorem view_learn (m : FdbMemory τ) (now : τ) (env : FrameEnv) (vlan : UbrVlan) (skb : Skb) :
    (match m.learnLookup now vlan skb with
      | (m, none, _) => m
      | (m, some key, _) => (m.learnInsert now env key skb.cb.pidx).1).view =
    ubrFdbLearn m.view now env vlan skb := by
  cases valid : isValidEtherAddr skb.frame.hSource with
  | false => simp [learnLookup, ubrFdbLearn, valid]
  | true =>
      have seen := view_lookup m (macKey vlan.vid skb.frame.hSource)
      cases known : m.lookup (macKey vlan.vid skb.frame.hSource) with
      | some n =>
          rw [known] at seen
          by_cases dynamic : n.node.proto = .dynamic
          · rw [ubrFdbLearn_dynamic valid seen dynamic]
            simp [learnLookup, valid, known, dynamic, view_refresh]
          · rw [ubrFdbLearn_static valid seen dynamic]
            simp [learnLookup, valid, known, dynamic]
      | none =>
          rw [known] at seen
          by_cases fails : env.nodeAllocFails ∨ env.nodeInsertFails
          · rw [ubrFdbLearn_failed valid seen fails]
            cases alloc : env.nodeAllocFails with
            | true => simp [learnLookup, valid, known, learnInsert, alloc]
            | false => simp [learnLookup, valid, known, learnInsert, alloc, fails.resolve_left, view]
          · rw [ubrFdbLearn_new valid seen fails]
            rw [not_or] at fails
            simp [learnLookup, valid, known, learnInsert, fails, view, newNode]

variable [Jiffies τ]

theorem view_flushWalk (m : FdbMemory τ) (op : UbrFdbFlushOp) (now : τ) (walk : List WalkItem) :
    (m.flushWalk op now walk).1.view = (ubrFdbFlush m.view op now walk).1 := by
  induction walk generalizing m with
  | nil => rfl
  | cons item walk ih =>
      cases item with
      | again => exact ih m
      | error e => rfl
      | node addr =>
          have seen := view_lookup m addr
          cases found : m.lookup addr with
          | none =>
              rw [found] at seen
              simp only [flushWalk, ubrFdbFlush, found, seen, Option.map_none]
              exact ih m
          | some n =>
              rw [found] at seen
              simp only [flushWalk, ubrFdbFlush, found, seen, Option.map_some]
              split
              · rw [ih, view_removeNode]
              · exact ih m

theorem view_flush (m : FdbMemory τ) (op : UbrFdbFlushOp) (now : τ) (walk : List WalkItem) :
    (m.flush op now walk).1.view = (ubrFdbFlush m.view op now walk).1 :=
  view_flushWalk m op now walk

end View

def refs (m : FdbMemory τ) : List NodeRef := (m.nodes ++ m.rcu).map StoredNode.ref

/-- No key is in the table twice, no node is in memory twice. -/
structure Sound (m : FdbMemory τ) : Prop where
  unique : Table.Unique StoredNode.addr m.nodes
  distinct : m.refs.Nodup
  old : ∀ ref ∈ m.refs, ref < m.nextNode

theorem refs_refresh : (m.refresh key pidx now).refs = m.refs := by
  simp only [refs, refresh, Table.update, List.map_append, List.map_map]
  congr 1
  apply List.map_congr_left
  intro n _
  simp only [Function.comp_apply]
  split <;> rfl

theorem refs_removeNode {n : StoredNode τ} (unique : Table.Unique StoredNode.addr m.nodes) (inside : n ∈ m.nodes) :
    (m.removeNode n).refs.Perm m.refs := by
  have moved := (Table.perm_remove unique inside).append_right m.rcu
  have queued : (m.removeNode n).nodes ++ (m.removeNode n).rcu =
      Table.remove StoredNode.addr n.addr m.nodes ++ m.rcu ++ [n] := by simp [removeNode]
  have front := List.perm_append_singleton n (Table.remove StoredNode.addr n.addr m.nodes ++ m.rcu)
  rw [refs, queued]
  exact (front.trans moved).map StoredNode.ref

namespace Sound

theorem refresh (sound : m.Sound) : (m.refresh key pidx now).Sound where
  unique := Table.unique_update (fun _ => rfl) sound.unique
  distinct := refs_refresh (m := m) ▸ sound.distinct
  old := refs_refresh (m := m) ▸ sound.old

theorem learnLookup (sound : m.Sound) : (m.learnLookup now vlan skb).1.Sound := by
  simp only [FdbMemory.learnLookup]
  split
  · exact sound
  · split
    · split
      · exact sound
      · exact sound.refresh
    · exact sound

theorem learnInsert (sound : m.Sound) : (m.learnInsert now env key pidx).1.Sound := by
  simp only [FdbMemory.learnInsert]
  split
  · exact sound
  · split
    · exact ⟨sound.unique, sound.distinct, fun ref inside => Nat.lt_succ_of_lt (sound.old ref inside)⟩
    · rename_i works
      have absent : m.lookup key = none := by simpa using (not_or.mp works).2
      refine ⟨Table.unique_cons absent sound.unique, ?_, ?_⟩
      · apply List.nodup_cons.mpr
        refine ⟨fun known => ?_, sound.distinct⟩
        exact Nat.lt_irrefl _ (sound.old _ known)
      · intro ref inside
        rcases List.mem_cons.mp inside with rfl | known
        · exact Nat.lt_succ_self _
        · exact Nat.lt_succ_of_lt (sound.old ref known)

theorem removeNode (sound : m.Sound) {n : StoredNode τ} (inside : n ∈ m.nodes) : (m.removeNode n).Sound where
  unique := Table.unique_remove sound.unique
  distinct := (refs_removeNode sound.unique inside).nodup_iff.mpr sound.distinct
  old ref known := sound.old ref ((refs_removeNode sound.unique inside).mem_iff.mp known)

theorem nodeDeleteRcu (sound : m.Sound) (ref : NodeRef) : (m.nodeDeleteRcu ref).1.Sound := by
  have fewer : (m.nodeDeleteRcu ref).1.refs.Sublist m.refs :=
    (List.Sublist.append_left List.filter_sublist m.nodes).map StoredNode.ref
  exact ⟨sound.unique, sound.distinct.sublist fewer, fun r inside => sound.old r (fewer.subset inside)⟩

end Sound

theorem learnLookup_touches (valid : isValidEtherAddr skb.frame.hSource = true) :
    ∃ log, (m.learnLookup now vlan skb).2.2 = .touch .table :: log := by
  simp only [learnLookup, valid, Bool.not_true, Bool.false_eq_true, if_false]
  split
  · split
    · exact ⟨_, rfl⟩
    · exact ⟨_, rfl⟩
  · exact ⟨_, rfl⟩

theorem learnLookup_nodes : (m.learnLookup now vlan skb).1.nodes = [] ↔ m.nodes = [] := by
  simp only [learnLookup]
  split
  · rfl
  · split
    · split
      · rfl
      · exact List.map_eq_nil_iff
    · rfl

theorem learnInsert_nodes (m : FdbMemory τ) (now : τ) (env : FrameEnv) (key : UbrFdbAddr) (pidx : Pidx) :
    (m.learnInsert now env key pidx).1.nodes =
    if !env.nodeAllocFails && !env.nodeInsertFails && (m.lookup key).isNone then m.newNode now key pidx :: m.nodes
    else m.nodes := by
  simp only [learnInsert]
  cases env.nodeAllocFails with
  | true => rfl
  | false => cases env.nodeInsertFails <;> cases m.lookup key <;> rfl

/-- The ledger has the nodes of the database, and the table as long as there is one. -/
structure Books (m : FdbMemory τ) (hasTable : Bool) (L : Ledger FdbObject) : Prop where
  single : L.live.Nodup
  table : .table ∈ L.live ↔ hasTable = true
  gone : .table ∈ L.gone ↔ hasTable = false
  nodes : ∀ ref, .node ref ∈ L.live ↔ ref ∈ m.refs
  old : ∀ ref, .node ref ∈ L.gone → ref < m.nextNode

namespace Books

variable {m' : FdbMemory τ} {hasTable : Bool} {L : Ledger FdbObject}

theorem congr (books : m.Books hasTable L) (same : ∀ ref, ref ∈ m'.refs ↔ ref ∈ m.refs)
    (next : m'.nextNode = m.nextNode) : m'.Books hasTable L where
  single := books.single
  table := books.table
  gone := books.gone
  nodes ref := (books.nodes ref).trans (same ref).symm
  old ref known := next ▸ books.old ref known

theorem touch_table (books : m.Books true L) : L.book (.touch .table : FdbHandling) = some L :=
  if_pos (books.table.mpr rfl)

theorem touch_node (books : m.Books hasTable L) {n : StoredNode τ} (inside : n ∈ m.nodes) :
    L.book (.touch (.node n.ref) : FdbHandling) = some L := by
  apply if_pos
  rw [books.nodes]
  exact List.mem_map_of_mem (List.mem_append_left _ inside)

theorem lookup (books : m.Books true L) (key : UbrFdbAddr) : L.replay (lookupHandled (m.lookup key)) = some L := by
  cases found : m.lookup key with
  | none =>
      simp only [lookupHandled, Ledger.replay_cons, books.touch_table]
      rfl
  | some n =>
      simp only [lookupHandled, Ledger.replay_cons, books.touch_table, Option.map_some, Option.toList_some,
        Option.bind_some, books.touch_node (Table.mem_of_lookup found)]
      rfl

theorem learnLookup (books : m.Books true L) :
    L.replay (m.learnLookup now vlan skb).2.2 = some L ∧ (m.learnLookup now vlan skb).1.Books true L := by
  have seen := books.lookup (macKey vlan.vid skb.frame.hSource)
  simp only [FdbMemory.learnLookup]
  split
  · exact ⟨rfl, books⟩
  · cases found : m.lookup (macKey vlan.vid skb.frame.hSource) with
    | none =>
        rw [found] at seen
        exact ⟨seen, books⟩
    | some n =>
        rw [found] at seen
        simp only
        split
        · exact ⟨seen, books⟩
        · exact ⟨seen, books.congr (fun ref => by rw [refs_refresh]) rfl⟩

/-- The ledger after a node was allocated. -/
def made (L : Ledger FdbObject) (m : FdbMemory τ) : Ledger FdbObject :=
  { L with live := .node m.nextNode :: L.live }

theorem fresh (sound : m.Sound) (books : m.Books hasTable L) :
    L.book (.make (.node m.nextNode) : FdbHandling) = some (made L m) := by
  apply if_neg
  rintro (live | gone)
  · exact Nat.lt_irrefl _ (sound.old _ ((books.nodes _).mp live))
  · exact Nat.lt_irrefl _ (books.old _ gone)

theorem next (books : m.Books hasTable L) {nodes : List (StoredNode τ)}
    (known : ∀ ref, ref ∈ FdbMemory.refs { m with nodes } ↔ ref = m.nextNode ∨ ref ∈ m.refs)
    (sound : m.Sound) : FdbMemory.Books { m with nodes, nextNode := m.nextNode + 1 } hasTable (made L m) where
  single := by
    refine List.nodup_cons.mpr ⟨fun live => ?_, books.single⟩
    exact Nat.lt_irrefl _ (sound.old _ ((books.nodes _).mp live))
  table := by simp [made, books.table]
  gone := books.gone
  nodes ref := by
    refine Iff.trans ?_ (known ref).symm
    simp [made, books.nodes]
  old ref gone := Nat.lt_succ_of_lt (books.old ref gone)

theorem learnInsert (sound : m.Sound) (books : m.Books true L) :
    ∃ L', L.replay (m.learnInsert now env key pidx).2 = some L' ∧ (m.learnInsert now env key pidx).1.Books true L' := by
  have begun := fresh sound books
  have there : (made L m).book (.touch .table : FdbHandling) = some (made L m) :=
    if_pos (List.mem_cons_of_mem _ (books.table.mpr rfl))
  simp only [FdbMemory.learnInsert]
  split
  · exact ⟨L, rfl, books⟩
  · split
    · refine ⟨⟨L.live, .node m.nextNode :: L.gone⟩, ?_, ?_⟩
      · simp only [Ledger.replay_cons, begun, there, Option.bind_some]
        simp [Ledger.book, made]
      · refine ⟨books.single, books.table, by simp [books.gone], books.nodes, fun ref gone => ?_⟩
        rcases List.mem_cons.mp gone with same | before
        · cases same
          exact Nat.lt_succ_self _
        · exact Nat.lt_succ_of_lt (books.old ref before)
    · refine ⟨made L m, ?_, ?_⟩
      · simp only [Ledger.replay_cons, begun, there, Option.bind_some]
        rfl
      · exact books.next (fun ref => by simp [FdbMemory.refs, newNode]) sound

theorem nodeDeleteRcu (sound : m.Sound) (books : m.Books hasTable L) {ref : NodeRef}
    (queued : ref ∈ m.rcu.map StoredNode.ref) :
    ∃ L', L.replay (m.nodeDeleteRcu ref).2 = some L' ∧ (m.nodeDeleteRcu ref).1.Books hasTable L' := by
  have inside : ref ∈ m.refs := by
    rw [refs, List.map_append]
    exact List.mem_append_right _ queued
  have live : FdbObject.node ref ∈ L.live := (books.nodes ref).mpr inside
  refine ⟨⟨L.live.erase (.node ref), .node ref :: L.gone⟩, ?_, ?_⟩
  · simp [FdbMemory.nodeDeleteRcu, Ledger.replay_cons, Ledger.book, live]
  · refine ⟨books.single.erase _, ?_, ?_, fun r => ?_, fun r gone => ?_⟩
    · rw [books.single.mem_erase_iff]
      simp [books.table]
    · simp [books.gone]
    · have apart : ∀ n ∈ m.nodes, n.ref ≠ ref := by
        have distinct := sound.distinct
        rw [refs, List.map_append, List.nodup_append] at distinct
        exact fun n here => distinct.2.2 _ (List.mem_map_of_mem here) _ queued
      rw [books.single.mem_erase_iff, books.nodes]
      simp only [refs, FdbMemory.nodeDeleteRcu, List.mem_map, List.mem_append, List.mem_filter]
      grind
    · rcases List.mem_cons.mp gone with same | before
      · cases same
        exact sound.old ref inside
      · exact books.old r before

theorem destroy (books : m.Books true L) :
    ∃ L', L.replay [(.take .table () : FdbHandling)] = some L' ∧ m.Books false L' := by
  have live : FdbObject.table ∈ L.live := books.table.mpr rfl
  refine ⟨⟨L.live.erase .table, .table :: L.gone⟩, ?_, ?_⟩
  · simp [Ledger.replay_cons, Ledger.book, live]
  · refine ⟨books.single.erase _, ?_, by simp, fun ref => ?_, fun ref gone => ?_⟩
    · rw [books.single.mem_erase_iff]
      simp
    · rw [books.single.mem_erase_iff]
      simp [books.nodes]
    · exact books.old ref (by simpa using gone)

theorem touched_late (books : m.Books false L) (log : List FdbHandling) :
    L.Disturbed (.touch .table :: log) :=
  ⟨[], .touch .table, log, L, rfl, rfl, books.gone.mpr rfl⟩

theorem inserted_late (sound : m.Sound) (books : m.Books false L) (log : List FdbHandling) :
    L.Disturbed (.make (.node m.nextNode) :: .touch .table :: log) := by
  refine ⟨[.make (.node m.nextNode)], .touch .table, log, made L m, rfl, ?_, books.gone.mpr rfl⟩
  simp only [Ledger.replay_cons, fresh sound books]
  rfl

end Books

section Flush

variable [Jiffies τ] {op : UbrFdbFlushOp}

omit [Jiffies τ] in
theorem Sound.walked (sound : m.Sound) {n : StoredNode τ} (inside : n ∈ m.nodes) (selected : Bool) :
    (if selected then m.removeNode n else m).Sound := by
  split
  · exact sound.removeNode inside
  · exact sound

theorem Sound.flush (sound : m.Sound) (walk : List WalkItem) : (m.flush op now walk).1.Sound := by
  change (m.flushWalk op now walk).1.Sound
  induction walk generalizing m with
  | nil => exact sound
  | cons item walk ih =>
      cases item with
      | again => exact ih sound
      | error e => exact sound
      | node addr =>
          simp only [flushWalk]
          cases found : m.lookup addr with
          | none => exact ih sound
          | some n => exact ih (sound.walked (Table.mem_of_lookup found) _)

omit [Jiffies τ] in
theorem Books.walked {L : Ledger FdbObject} (sound : m.Sound) (books : m.Books true L) {n : StoredNode τ}
    (inside : n ∈ m.nodes) (selected : Bool) : (if selected then m.removeNode n else m).Books true L := by
  split
  · exact books.congr (fun ref => (refs_removeNode sound.unique inside).mem_iff) rfl
  · exact books

theorem Books.flushWalk {L : Ledger FdbObject} (sound : m.Sound) (books : m.Books true L) (walk : List WalkItem) :
    L.replay (m.flushWalk op now walk).2 = some L ∧ (m.flushWalk op now walk).1.Books true L := by
  induction walk generalizing m with
  | nil => exact ⟨rfl, books⟩
  | cons item walk ih =>
      cases item with
      | again => exact ih sound books
      | error e => exact ⟨rfl, books⟩
      | node addr =>
          have seen := books.lookup addr
          simp only [FdbMemory.flushWalk]
          cases found : m.lookup addr with
          | none => exact ih sound books
          | some n =>
              rw [found] at seen
              have inside := Table.mem_of_lookup found
              obtain ⟨replayed, kept⟩ := ih (sound.walked inside _) (books.walked sound inside _)
              exact ⟨Ledger.replay_trans seen replayed, kept⟩

theorem Books.flush {L : Ledger FdbObject} (sound : m.Sound) (books : m.Books true L) (walk : List WalkItem) :
    L.replay (m.flush op now walk).2 = some L ∧ (m.flush op now walk).1.Books true L := by
  obtain ⟨replayed, kept⟩ : L.replay (m.flushWalk op now walk).2 = some L ∧ _ := books.flushWalk sound walk
  refine ⟨?_, kept⟩
  simp only [FdbMemory.flush, Ledger.replay_cons, books.touch_table, Option.bind_some, replayed]

theorem visited_of_complete {walk : List WalkItem} {addr : UbrFdbAddr} (inside : .node addr ∈ walk)
    (whole : ∀ item ∈ walk, item.fails = false) : addr ∈ visited walk := by
  induction walk with
  | nil => cases inside
  | cons item walk ih =>
      obtain ⟨first, others⟩ := List.forall_mem_cons.mp whole
      cases item with
      | again =>
          rcases List.mem_cons.mp inside with same | inside
          · cases same
          · exact ih inside others
      | error e => cases first
      | node a =>
          rcases List.mem_cons.mp inside with same | inside
          · cases same
            exact List.mem_cons_self
          · exact List.mem_cons_of_mem _ (ih inside others)

theorem flush_all {walk : List WalkItem} (complete : m.Complete walk) : (m.flush {} now walk).1.nodes = [] := by
  apply List.eq_nil_iff_forall_not_mem.mpr
  intro n inside
  have left : ((m.flush {} now walk).1.view.lookup n.addr).isSome := by
    rw [view_lookup, Option.isSome_map]
    exact List.find?_isSome.mpr ⟨n, inside, by simp⟩
  rw [view_flush, lookup_flush_eq] at left
  split at left
  · cases found : m.view.lookup n.addr with
    | none => simp [found] at left
    | some node => simp [found, UbrFdbFlushOp.selects, Option.filter] at left
  · rename_i unseen
    rw [view_lookup, Option.isSome_map] at left
    obtain ⟨old, found⟩ := Option.isSome_iff_exists.mp left
    have addr := Table.key_of_lookup found
    exact unseen (visited_of_complete (addr ▸ complete.1 old (Table.mem_of_lookup found)) complete.2)

end Flush
end FdbMemory
end UnassumingBridge
