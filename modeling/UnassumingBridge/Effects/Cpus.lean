import UnassumingBridge.Kernel.Cpus
import UnassumingBridge.Effects.Nodes
import UnassumingBridge.DataPath.Database

/-! # What the steps of one CPU come to

A step that completes `ubr_fdb_learn` does what the whole function does at that point,
as long as the node that it holds on to is still in the table. Learning a key that
another frame is about to insert makes no difference to what that frame leaves behind.
-/

namespace UnassumingBridge

open Support

variable {τ : Type}

def Forwarder.key (f : Forwarder) : UbrFdbAddr := macKey f.vlan.vid f.skb.frame.hSource

def Forwarder.fails (f : Forwarder) : Prop := f.env.nodeAllocFails = true ∨ f.env.nodeInsertFails = true

/-- The entry of a key that was not known. -/
def UbrFdb.newcomer (fdb : UbrFdb τ) (key : UbrFdbAddr) (now : τ) (pidx : Pidx) : UbrFdb τ :=
  { fdb with nodes := ⟨key, Bitmap.zero.set pidx, .dynamic, now⟩ :: fdb.nodes }

section Newcomer

variable {fdb : UbrFdb τ} {now : τ} {env : FrameEnv} {vlan : UbrVlan} {skb : Skb}
  (valid : isValidEtherAddr skb.frame.hSource = true) (unknown : fdb.lookup (macKey vlan.vid skb.frame.hSource) = none)

include valid unknown

theorem ubrFdbLearn_newcomer (works : ¬ (env.nodeAllocFails = true ∨ env.nodeInsertFails = true)) :
    ubrFdbLearn fdb now env vlan skb = fdb.newcomer (macKey vlan.vid skb.frame.hSource) now skb.cb.pidx :=
  ubrFdbLearn_new valid unknown works

/-- Who comes first makes no difference. -/
theorem ubrFdbLearn_overtaken (pidx : Pidx) :
    ubrFdbLearn (fdb.newcomer (macKey vlan.vid skb.frame.hSource) now pidx) now env vlan skb =
      fdb.newcomer (macKey vlan.vid skb.frame.hSource) now skb.cb.pidx := by
  let first : UbrFdbNode τ := ⟨macKey vlan.vid skb.frame.hSource, Bitmap.zero.set pidx, .dynamic, now⟩
  have known : (fdb.newcomer (macKey vlan.vid skb.frame.hSource) now pidx).lookup (macKey vlan.vid skb.frame.hSource) =
      some first := by simp [UbrFdb.lookup, UbrFdb.newcomer, Table.lookup_cons, first]
  have moved : first.seenOn skb.cb.pidx now =
      ⟨macKey vlan.vid skb.frame.hSource, Bitmap.zero.set skb.cb.pidx, .dynamic, now⟩ := by
    have vec : (first.seenOn skb.cb.pidx now).vec = Bitmap.zero.set skb.cb.pidx := seenOn_vec rfl
    rw [← vec]
    rfl
  have rest :
      Table.update UbrFdbNode.addr (macKey vlan.vid skb.frame.hSource) (fun n => n.seenOn skb.cb.pidx now) fdb.nodes =
        fdb.nodes := by
    apply Table.update_eq_self
    intro node inside mine
    exact absurd mine (Table.lookup_eq_none.mp unknown node inside)
  rw [ubrFdbLearn_dynamic valid known rfl]
  have head : Table.update UbrFdbNode.addr (macKey vlan.vid skb.frame.hSource) (fun n => n.seenOn skb.cb.pidx now)
      (first :: fdb.nodes) = first.seenOn skb.cb.pidx now ::
        Table.update UbrFdbNode.addr (macKey vlan.vid skb.frame.hSource)
          (fun n => n.seenOn skb.cb.pidx now) fdb.nodes := by
    simp [Table.update, first]
  simp only [UbrFdb.newcomer]
  rw [head, rest, moved]

end Newcomer

namespace FdbMemory

variable {m : FdbMemory τ} {n : StoredNode τ} {now : τ} {pidx : Pidx} {env : FrameEnv} {vlan : UbrVlan} {skb : Skb}
  {key : UbrFdbAddr} {ref : NodeRef}

section Addresses

theorem Sound.empty (timeout : Nat) : ({ ageingTimeout := timeout } : FdbMemory τ).Sound :=
  ⟨List.nodup_nil, List.nodup_nil, fun _ inside => absurd inside List.not_mem_nil⟩

theorem Sound.refs_unique (sound : m.Sound) : Table.Unique StoredNode.ref m.nodes := by
  have all := sound.distinct
  rw [refs, List.map_append] at all
  exact (List.nodup_append.mp all).1

theorem Sound.ref_inj (sound : m.Sound) {a b : StoredNode τ} (ha : a ∈ m.nodes) (hb : b ∈ m.nodes)
    (same : a.ref = b.ref) : a = b := List.inj_on_of_nodup_map sound.refs_unique ha hb same

theorem Sound.addr_inj (sound : m.Sound) {a b : StoredNode τ} (ha : a ∈ m.nodes) (hb : b ∈ m.nodes)
    (same : a.addr = b.addr) : a = b := List.inj_on_of_nodup_map sound.unique ha hb same

theorem Sound.not_rcu (sound : m.Sound) {a b : StoredNode τ} (ha : a ∈ m.nodes) (hb : b ∈ m.rcu) : b.ref ≠ a.ref := by
  have all := sound.distinct
  rw [refs, List.map_append] at all
  exact fun same => (List.nodup_append.mp all).2.2 _ (List.mem_map_of_mem ha) _ (List.mem_map_of_mem hb) same.symm

theorem refreshAt_eq (sound : m.Sound) (inside : n ∈ m.nodes) :
    m.refreshAt n.ref pidx now = m.refresh n.addr pidx now := by
  have nodes : (m.nodes.map fun a => if a.ref = n.ref then { a with node := a.node.seenOn pidx now } else a) =
      Table.update StoredNode.addr n.addr (fun a => { a with node := a.node.seenOn pidx now }) m.nodes := by
    apply List.map_congr_left
    intro a here
    by_cases same : a = n
    · simp [same]
    · have otherRef : a.ref ≠ n.ref := fun h => same (sound.ref_inj here inside h)
      have otherAddr : a.addr ≠ n.addr := fun h => same (sound.addr_inj here inside h)
      simp [otherRef, otherAddr]
  have rcu : (m.rcu.map fun a => if a.ref = n.ref then { a with node := a.node.seenOn pidx now } else a) = m.rcu := by
    conv_rhs => rw [← List.map_id m.rcu]
    apply List.map_congr_left
    intro a here
    simp [sound.not_rcu inside here]
  simp only [refreshAt, refresh, nodes, rcu]

theorem removeAt_eq (sound : m.Sound) (inside : n ∈ m.nodes) : m.removeAt n.ref = m.removeNode n := by
  rw [removeAt, Table.lookup_of_mem sound.refs_unique inside]

theorem mem_refreshAt (inside : n ∈ m.nodes) (other : n.ref ≠ ref) : n ∈ (m.refreshAt ref pidx now).nodes :=
  List.mem_map.mpr ⟨n, inside, if_neg other⟩

theorem mem_removeNode (sound : m.Sound) (inside : n ∈ m.nodes) {gone : StoredNode τ} (here : gone ∈ m.nodes)
    (other : n.ref ≠ gone.ref) : n ∈ (m.removeNode gone).nodes := by
  have apart : n.addr ≠ gone.addr := fun same => other (congrArg StoredNode.ref (sound.addr_inj inside here same))
  simp [removeNode, Table.remove, inside, apart]

/-- There is a dynamic node of this key at this address. -/
def Holds (m : FdbMemory τ) (ref : NodeRef) (key : UbrFdbAddr) : Prop :=
  ∃ n ∈ m.nodes, n.ref = ref ∧ n.addr = key ∧ n.node.proto = .dynamic

theorem Holds.refreshAt (holds : m.Holds ref key) (other : NodeRef) : (m.refreshAt other pidx now).Holds ref key := by
  obtain ⟨n, inside, rfl, rfl, dynamic⟩ := holds
  by_cases same : n.ref = other
  · exact ⟨_, List.mem_map.mpr ⟨n, inside, if_pos same⟩, rfl, rfl, dynamic⟩
  · exact ⟨n, mem_refreshAt inside same, rfl, rfl, dynamic⟩

theorem Holds.learnInsert (holds : m.Holds ref key) (other : UbrFdbAddr) :
    (m.learnInsert now env other pidx).1.Holds ref key := by
  obtain ⟨n, inside, found⟩ := holds
  refine ⟨n, ?_, found⟩
  rw [learnInsert_nodes]
  split
  · exact List.mem_cons_of_mem _ inside
  · exact inside

theorem Holds.removeNode (sound : m.Sound) (holds : m.Holds ref key) {gone : StoredNode τ} (here : gone ∈ m.nodes)
    (other : ref ≠ gone.ref) : (m.removeNode gone).Holds ref key := by
  obtain ⟨n, inside, rfl, found⟩ := holds
  exact ⟨n, mem_removeNode sound inside here other, rfl, found⟩

end Addresses

section Learning

theorem learnFind_cases (m : FdbMemory τ) (vlan : UbrVlan) (skb : Skb) : m.learnFind vlan skb = .lookup ∨
    (∃ ref, m.learnFind vlan skb = .refresh ref) ∨ ∃ key, m.learnFind vlan skb = .insert key := by
  unfold learnFind
  split
  · exact .inl rfl
  · split
    · split
      · exact .inl rfl
      · exact .inr (.inl ⟨_, rfl⟩)
    · exact .inr (.inr ⟨_, rfl⟩)

theorem learnFind_lookup (found : m.learnFind vlan skb = .lookup) (env : FrameEnv) (now : τ) :
    ubrFdbLearn m.view now env vlan skb = m.view := by
  cases valid : isValidEtherAddr skb.frame.hSource with
  | false => exact ubrFdbLearn_invalid valid
  | true =>
      have seen := view_lookup m (macKey vlan.vid skb.frame.hSource)
      simp only [learnFind, valid, Bool.not_true, Bool.false_eq_true, if_false] at found
      split at found
      · rename_i n known
        rw [known] at seen
        by_cases dynamic : n.node.proto = .dynamic
        · simp [dynamic] at found
        · exact ubrFdbLearn_static valid seen dynamic
      · cases found

theorem learnFind_refresh (found : m.learnFind vlan skb = .refresh ref) :
    isValidEtherAddr skb.frame.hSource = true ∧ m.Holds ref (macKey vlan.vid skb.frame.hSource) := by
  simp only [learnFind] at found
  split at found
  · cases found
  · rename_i valid
    split at found
    · rename_i n known
      split at found
      · cases found
      · rename_i dynamic
        cases found
        exact ⟨by simpa using valid, n, Table.mem_of_lookup known, rfl, Table.key_of_lookup known,
          by simpa using dynamic⟩
    · cases found

theorem learnFind_insert (found : m.learnFind vlan skb = .insert key) :
    isValidEtherAddr skb.frame.hSource = true ∧ key = macKey vlan.vid skb.frame.hSource ∧ m.lookup key = none := by
  simp only [learnFind] at found
  split at found
  · cases found
  · rename_i valid
    split at found
    · split at found
      · cases found
      · cases found
    · rename_i unknown
      cases found
      exact ⟨by simpa using valid, rfl, unknown⟩

theorem view_refreshAt (sound : m.Sound) (valid : isValidEtherAddr skb.frame.hSource = true)
    (holds : m.Holds ref (macKey vlan.vid skb.frame.hSource)) (env : FrameEnv) (now : τ) :
    (m.refreshAt ref skb.cb.pidx now).view = ubrFdbLearn m.view now env vlan skb := by
  obtain ⟨n, inside, rfl, addr, dynamic⟩ := holds
  have known : m.lookup n.addr = some n := Table.lookup_of_mem sound.unique inside
  have seen := view_lookup m n.addr
  rw [known, addr] at seen
  rw [refreshAt_eq sound inside, view_refresh, addr, ubrFdbLearn_dynamic valid seen dynamic]

theorem view_learnInsert_new (valid : isValidEtherAddr skb.frame.hSource = true)
    (unknown : m.lookup (macKey vlan.vid skb.frame.hSource) = none)
    (works : ¬ (env.nodeAllocFails = true ∨ env.nodeInsertFails = true)) :
    (m.learnInsert now env (macKey vlan.vid skb.frame.hSource) skb.cb.pidx).1.view =
    ubrFdbLearn m.view now env vlan skb := by
  have seen := view_lookup m (macKey vlan.vid skb.frame.hSource)
  rw [unknown] at seen
  rw [ubrFdbLearn_new valid seen works]
  rw [not_or] at works
  simp [learnInsert, unknown, works, view, newNode]

theorem learnInsert_late (m : FdbMemory τ) (now : τ) (pidx : Pidx)
    (late : (env.nodeAllocFails = true ∨ env.nodeInsertFails = true) ∨ (m.lookup key).isSome) :
    (m.learnInsert now env key pidx).1.nodes = m.nodes ∧ (m.learnInsert now env key pidx).1.view = m.view := by
  simp only [learnInsert]
  split
  · exact ⟨rfl, rfl⟩
  · rename_i allocated
    split
    · exact ⟨rfl, rfl⟩
    · rename_i works
      exact absurd (late.imp_left fun fails => fails.resolve_left allocated) works

end Learning

theorem lookup_refreshAt (sound : m.Sound) (inside : n ∈ m.nodes) :
    ((m.refreshAt n.ref pidx now).lookup key).isSome = (m.lookup key).isSome := by
  rw [refreshAt_eq sound inside]
  have keeps (a : StoredNode τ) : StoredNode.addr { a with node := a.node.seenOn pidx now } = a.addr := rfl
  simp only [lookup, refresh]
  rw [Table.lookup_update keeps]
  split
  · exact Option.isSome_map ..
  · rfl

theorem lookup_learnInsert (m : FdbMemory τ) (k : UbrFdbAddr) (other : k ≠ key)
    (known : ((m.learnInsert now env key pidx).1.lookup k).isSome = true) : (m.lookup k).isSome = true := by
  have nodes := m.learnInsert_nodes now env key pidx
  split at nodes
  · rwa [lookup, nodes, Table.lookup_cons, if_neg (show (m.newNode now key pidx).addr ≠ k from other.symm)] at known
  · rwa [lookup, nodes] at known

theorem lookup_removeNode (known : ((m.removeNode n).lookup key).isSome = true) : (m.lookup key).isSome = true := by
  simp only [lookup, removeNode] at known ⊢
  rw [Table.lookup_remove] at known
  split at known
  · cases known
  · exact known

end FdbMemory

end UnassumingBridge
