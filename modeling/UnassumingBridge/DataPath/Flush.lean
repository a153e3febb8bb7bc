import UnassumingBridge.Effects.Fdb

/-! # What a flush removes

`ubr_fdb_flush` deletes from the hash table while it walks it. The walker returns the
entries that are there, in any order and possibly several times; after a resize it
starts again, and it ends when it has returned every entry that is still there.
-/

namespace UnassumingBridge

open Support

variable {τ : Type} [Jiffies τ]

/-- The selectors of the operation, each of which has to fit where it is given. -/
def UbrFdbFlushOp.Fits (op : UbrFdbFlushOp) (fdb : UbrFdb τ) (now : τ) (node : UbrFdbNode τ) : Prop :=
  (op.perPort = true → op.pidx ∈ node.vec) ∧ (op.perVlan = true → node.addr.vid = op.vid) ∧
    (op.perProto = true → node.proto = op.proto ∧
      (op.proto = .dynamic → op.old = true → ubrFdbNodeIsOld fdb now node = true))

instance (op : UbrFdbFlushOp) (fdb : UbrFdb τ) (now : τ) (node : UbrFdbNode τ) : Decidable (op.Fits fdb now node) :=
  inferInstanceAs (Decidable ((op.perPort = true → op.pidx ∈ node.vec) ∧
    (op.perVlan = true → node.addr.vid = op.vid) ∧ (op.perProto = true → node.proto = op.proto ∧
      (op.proto = .dynamic → op.old = true → ubrFdbNodeIsOld fdb now node = true))))

/-- The table after the loop of `ubr_fdb_flush` has met a node. -/
def UbrFdb.met (fdb : UbrFdb τ) (op : UbrFdbFlushOp) (now : τ) (node : UbrFdbNode τ) : UbrFdb τ :=
  if op.selects fdb now node then fdb.removeNode node else fdb

/-- What the walker may return while the loop runs, when it has returned the addresses
    `seen` since it last started. -/
inductive Walk (op : UbrFdbFlushOp) (now : τ) : UbrFdb τ → List UbrFdbAddr → List WalkItem → Prop where
  | done {fdb seen} (all : ∀ node ∈ fdb.nodes, node.addr ∈ seen) : Walk op now fdb seen []
  | again {fdb seen walk} : Walk op now fdb [] walk → Walk op now fdb seen (.again :: walk)
  | node {fdb seen addr node walk} (present : fdb.lookup addr = some node) :
      Walk op now (fdb.met op now node) (addr :: seen) walk → Walk op now fdb seen (.node addr :: walk)
  | error {fdb seen e walk} : Walk op now fdb seen (.error e :: walk)

def walks (op : UbrFdbFlushOp) (now : τ) : UbrFdb τ → List UbrFdbAddr → List WalkItem → Bool
  | fdb, seen, [] => fdb.nodes.all fun node => node.addr ∈ seen
  | fdb, _, .again :: walk => walks op now fdb [] walk
  | fdb, seen, .node addr :: walk =>
      match fdb.lookup addr with
      | none => false
      | some node => walks op now (fdb.met op now node) (addr :: seen) walk
  | _, _, .error _ :: _ => true

theorem walks_iff {op : UbrFdbFlushOp} {now : τ} {fdb : UbrFdb τ} {seen : List UbrFdbAddr} {walk : List WalkItem} :
    walks op now fdb seen walk = true ↔ Walk op now fdb seen walk := by
  constructor
  · intro legal
    induction walk generalizing fdb seen with
    | nil => exact .done fun node inside => by simpa using List.all_eq_true.mp legal node inside
    | cons item walk ih =>
        cases item with
        | again => exact .again (ih legal)
        | error e => exact .error
        | node addr =>
            simp only [walks] at legal
            split at legal
            · cases legal
            · rename_i node present
              exact .node present (ih legal)
  · intro legal
    induction legal with
    | done all => exact List.all_eq_true.mpr fun node inside => by simpa using all node inside
    | again _ ih => exact ih
    | error => rfl
    | node present _ ih => simpa only [walks, present] using ih

instance (op : UbrFdbFlushOp) (now : τ) (fdb : UbrFdb τ) (seen : List UbrFdbAddr) (walk : List WalkItem) :
    Decidable (Walk op now fdb seen walk) := decidable_of_iff _ walks_iff

/-- The entries that do not fit remain, in their places; the others were queued, each once. -/
structure Flushed (op : UbrFdbFlushOp) (now : τ) (fdb fdb' : UbrFdb τ) : Prop where
  remaining : fdb'.nodes = fdb.nodes.filter fun node => ¬ op.Fits fdb now node
  queued : ∃ freed, fdb'.rcu = fdb.rcu ++ freed ∧ freed.Perm (fdb.nodes.filter fun node => op.Fits fdb now node)
  timeout : fdb'.ageingTimeout = fdb.ageingTimeout

variable {op : UbrFdbFlushOp} {now : τ} {fdb : UbrFdb τ} {node : UbrFdbNode τ}

theorem selects_iff : op.selects fdb now node = true ↔ op.Fits fdb now node := by
  simp only [UbrFdbFlushOp.selects, UbrFdbFlushOp.Fits, Bitmap.mem_iff]
  grind

/-- The loop, from any point of the walk at which nothing seen and still there fits. -/
theorem flush_walk {seen : List UbrFdbAddr} {walk : List WalkItem} (legal : Walk op now fdb seen walk)
    (unique : Table.Unique UbrFdbNode.addr fdb.nodes)
    (spared : ∀ node ∈ fdb.nodes, node.addr ∈ seen → ¬ op.Fits fdb now node)
    (done : (ubrFdbFlush fdb op now walk).2 = .ok ()) : Flushed op now fdb (ubrFdbFlush fdb op now walk).1 := by
  induction legal with
  | @done fdb seen all =>
      have nothing : ∀ node ∈ fdb.nodes, ¬ op.Fits fdb now node :=
        fun node inside => spared node inside (all node inside)
      refine ⟨?_, ⟨[], (List.append_nil _).symm, ?_⟩, rfl⟩
      · exact (List.filter_eq_self.mpr fun node inside => by simpa using nothing node inside).symm
      · rw [List.filter_eq_nil_iff.mpr fun node inside => by simpa using nothing node inside]
  | again _ ih => exact ih unique nofun done
  | @node fdb seen addr node walk present _ ih =>
      have step : ubrFdbFlush fdb op now (.node addr :: walk) = ubrFdbFlush (fdb.met op now node) op now walk := by
        simp only [ubrFdbFlush, present, UbrFdb.met]
        split
        · rfl
        · rfl
      have member : node ∈ fdb.nodes := Table.mem_of_lookup present
      have key : node.addr = addr := Table.key_of_lookup present
      rw [step] at done ⊢
      by_cases fits : op.Fits fdb now node
      · have met : fdb.met op now node = fdb.removeNode node := if_pos (selects_iff.mpr fits)
        rw [met] at done ih ⊢
        have dropped : decide (¬ op.Fits fdb now node) = false := by simpa using fits
        have others : ∀ other ∈ (fdb.removeNode node).nodes, other.addr ∈ addr :: seen → ¬ op.Fits fdb now other := by
          intro other inside visited
          obtain ⟨there, apart⟩ := List.mem_filter.mp inside
          rcases List.mem_cons.mp visited with here | before
          · simp [here, key] at apart
          · exact spared other there before
        obtain ⟨remaining, ⟨freed, queued, all⟩, timeout⟩ := ih (Table.unique_remove unique) others done
        refine ⟨?_, ⟨node :: freed, ?_, ?_⟩, timeout⟩
        · exact remaining.trans (Table.filter_remove unique member dropped)
        · simpa [UbrFdb.removeNode] using queued
        · exact (all.cons node).trans (Table.perm_filter_remove unique member (decide_eq_true fits))
      · have met : fdb.met op now node = fdb := if_neg fun selected => fits (selects_iff.mp selected)
        rw [met] at done ih ⊢
        refine ih unique (fun other inside visited => ?_) done
        rcases List.mem_cons.mp visited with here | before
        · have same := Table.lookup_of_mem unique inside
          rw [here] at same
          cases present.symm.trans same
          exact fits
        · exact spared other inside before
  | error => cases done

theorem flush_exact (unique : Table.Unique UbrFdbNode.addr fdb.nodes) {walk : List WalkItem}
    (legal : Walk op now fdb [] walk) (done : (ubrFdbFlush fdb op now walk).2 = .ok ()) :
    Flushed op now fdb (ubrFdbFlush fdb op now walk).1 :=
  flush_walk legal unique nofun done

/-- The order of the walk is seen in the order of the queue only. -/
theorem Flushed.alike {left right : UbrFdb τ} (one : Flushed op now fdb left) (other : Flushed op now fdb right) :
    left.nodes = right.nodes ∧ left.rcu.Perm right.rcu := by
  obtain ⟨freed, queued, all⟩ := one.queued
  obtain ⟨freed', queued', all'⟩ := other.queued
  refine ⟨one.remaining.trans other.remaining.symm, ?_⟩
  rw [queued, queued']
  exact (all.trans all'.symm).append_left fdb.rcu

theorem age_spares (unique : Table.Unique UbrFdbNode.addr fdb.nodes) (walk : List WalkItem) (inside : node ∈ fdb.nodes)
    (current : node.proto ≠ .dynamic ∨ Jiffies.timeAfter now (Jiffies.later node.tstamp fdb.ageingTimeout) = false) :
    node ∈ (ubrFdbAge fdb now walk).nodes := by
  have found : fdb.lookup node.addr = some node := Table.lookup_of_mem unique inside
  rcases lookup_age fdb now walk node.addr with kept | ⟨other, same, old, _⟩
  · exact Table.mem_of_lookup (kept.trans found)
  · cases found.symm.trans same
    rcases current with static | recent
    · simp [ubrFdbNodeIsOld, static] at old
    · simp [ubrFdbNodeIsOld, recent] at old

theorem flush_nothing_left (unique : Table.Unique UbrFdbNode.addr fdb.nodes) {walk : List WalkItem}
    (legal : Walk {} now fdb [] walk) (done : (ubrFdbFlush fdb {} now walk).2 = .ok ()) :
    (ubrFdbFlush fdb {} now walk).1.nodes = [] := by
  rw [(flush_exact unique legal done).remaining]
  apply List.filter_eq_nil_iff.mpr
  intro node _
  simp [UbrFdbFlushOp.Fits]

/-- Whatever the walk meets and however often it starts again, a flush removes the selected nodes and frees each
    of them once. -/
theorem flush_removes_selected (fdb : UbrFdb τ) (unique : Table.Unique UbrFdbNode.addr fdb.nodes) (now : τ) :
    (∀ op walk, Walk op now fdb [] walk → (ubrFdbFlush fdb op now walk).2 = .ok () →
      Flushed op now fdb (ubrFdbFlush fdb op now walk).1 ∧
      ∀ walk', Walk op now fdb [] walk' → (ubrFdbFlush fdb op now walk').2 = .ok () →
        (ubrFdbFlush fdb op now walk').1.nodes = (ubrFdbFlush fdb op now walk).1.nodes ∧
          (ubrFdbFlush fdb op now walk').1.rcu.Perm (ubrFdbFlush fdb op now walk).1.rcu) ∧
    (∀ walk, ∀ node ∈ fdb.nodes,
      (node.proto ≠ .dynamic ∨ Jiffies.timeAfter now (Jiffies.later node.tstamp fdb.ageingTimeout) = false) →
        node ∈ (ubrFdbAge fdb now walk).nodes) ∧
    ∀ walk, Walk {} now fdb [] walk → (ubrFdbFlush fdb {} now walk).2 = .ok () →
      (ubrFdbFlush fdb {} now walk).1.nodes = [] := by
  refine ⟨fun op walk legal done => ⟨flush_exact unique legal done, fun walk' legal' done' => ?_⟩, ?_, ?_⟩
  · exact (flush_exact unique legal' done').alike (flush_exact unique legal done)
  · intro walk node inside current
    exact age_spares unique walk inside current
  · intro walk legal done
    exact flush_nothing_left unique legal done

/-- A station on two ports, one that has been silent for long, and one that was configured. -/
def mixedFdb : UbrFdb Nat where
  nodes := [⟨macKey 5 0x02aa00000001, (Bitmap.zero.set 1).set 2, .dynamic, 90⟩,
    ⟨macKey 5 0x02aa00000002, Bitmap.zero.set 1, .dynamic, 0⟩,
    ⟨macKey 7 0x02aa00000003, Bitmap.zero.set 1, .user, 0⟩]
  ageingTimeout := 50

/-- The walk meets the silent station, starts again, and meets the others in another order. -/
def restartedWalk : List WalkItem :=
  [.node (macKey 5 0x02aa00000001), .node (macKey 5 0x02aa00000002), .again,
    .node (macKey 7 0x02aa00000003), .node (macKey 5 0x02aa00000001)]

theorem flush_removes_selected_mixed :
    Flushed ageingOp 100 mixedFdb (ubrFdbFlush mixedFdb ageingOp 100 restartedWalk).1 :=
  ((flush_removes_selected mixedFdb (by decide) 100).1 ageingOp restartedWalk (by decide) (by decide)).1

end UnassumingBridge
