import UnassumingBridge.Effects.Step

/-! # What happens to the forwarding database

Learning touches the entry of one key, ageing removes entries that are old. Which
of the two an event does is `FdbEffect`.
-/

namespace UnassumingBridge

open Support

variable {τ : Type} {cfg : Config}

section Operations

variable {fdb : UbrFdb τ} {now : τ} {env : FrameEnv} {vlan : UbrVlan} {skb : Skb} {k : UbrFdbAddr}

/-- What learning makes of the entry of the learned key. -/
def learnedEntry (env : FrameEnv) (pidx : Pidx) (now : τ) (key : UbrFdbAddr) :
    Option (UbrFdbNode τ) → Option (UbrFdbNode τ)
  | some node => some (if node.proto = .dynamic then node.seenOn pidx now else node)
  | none =>
      if env.nodeAllocFails ∨ env.nodeInsertFails then none
      else some ⟨key, Bitmap.zero.set pidx, .dynamic, now⟩

theorem ubrFdbLearn_invalid (invalid : isValidEtherAddr skb.frame.hSource = false) :
    ubrFdbLearn fdb now env vlan skb = fdb := by
  simp [ubrFdbLearn, invalid]

section Valid

variable (valid : isValidEtherAddr skb.frame.hSource = true)

include valid

theorem ubrFdbLearn_static {node : UbrFdbNode τ}
    (known : fdb.lookup (macKey vlan.vid skb.frame.hSource) = some node) (static : node.proto ≠ .dynamic) :
    ubrFdbLearn fdb now env vlan skb = fdb := by
  simp [ubrFdbLearn, valid, known, static]

theorem ubrFdbLearn_dynamic {node : UbrFdbNode τ}
    (known : fdb.lookup (macKey vlan.vid skb.frame.hSource) = some node) (dynamic : node.proto = .dynamic) :
    ubrFdbLearn fdb now env vlan skb = { fdb with
      nodes := Table.update UbrFdbNode.addr (macKey vlan.vid skb.frame.hSource)
        (fun n => n.seenOn skb.cb.pidx now) fdb.nodes } := by
  simp [ubrFdbLearn, valid, known, dynamic]

theorem ubrFdbLearn_failed (unknown : fdb.lookup (macKey vlan.vid skb.frame.hSource) = none)
    (fails : env.nodeAllocFails ∨ env.nodeInsertFails) : ubrFdbLearn fdb now env vlan skb = fdb := by
  simp [ubrFdbLearn, valid, unknown, fails]

theorem ubrFdbLearn_new (unknown : fdb.lookup (macKey vlan.vid skb.frame.hSource) = none)
    (works : ¬ (env.nodeAllocFails ∨ env.nodeInsertFails)) :
    ubrFdbLearn fdb now env vlan skb = { fdb with
      nodes := ⟨macKey vlan.vid skb.frame.hSource, Bitmap.zero.set skb.cb.pidx, .dynamic, now⟩ :: fdb.nodes } := by
  simp only [ubrFdbLearn, valid, unknown, if_neg works]
  rfl

end Valid

theorem lookup_learn :
    (ubrFdbLearn fdb now env vlan skb).lookup k =
      if isValidEtherAddr skb.frame.hSource ∧ k = macKey vlan.vid skb.frame.hSource then
        learnedEntry env skb.cb.pidx now k (fdb.lookup k)
      else fdb.lookup k := by
  cases valid : isValidEtherAddr skb.frame.hSource with
  | false => simp [ubrFdbLearn_invalid valid]
  | true =>
      have seen : ∀ node : UbrFdbNode τ, (node.seenOn skb.cb.pidx now).addr = node.addr := fun _ => rfl
      simp only [true_and]
      cases known : fdb.lookup (macKey vlan.vid skb.frame.hSource) with
      | some node =>
          by_cases dynamic : node.proto = .dynamic
          · rw [ubrFdbLearn_dynamic valid known dynamic]
            refine (Table.lookup_update seen).trans ?_
            split
            · rename_i mine
              subst mine
              simp only [UbrFdb.lookup] at known
              simp [known, UbrFdb.lookup, learnedEntry, dynamic]
            · rfl
          · rw [ubrFdbLearn_static valid known dynamic]
            split
            · rename_i mine
              subst mine
              simp [known, learnedEntry, dynamic]
            · rfl
      | none =>
          by_cases fails : env.nodeAllocFails ∨ env.nodeInsertFails
          · rw [ubrFdbLearn_failed valid known fails]
            split
            · rename_i mine
              subst mine
              simp [known, learnedEntry, fails]
            · rfl
          · rw [ubrFdbLearn_new valid known fails]
            refine Table.lookup_cons.trans ?_
            by_cases mine : k = macKey vlan.vid skb.frame.hSource
            · subst mine
              simp [known, learnedEntry, fails]
            · simp [mine, Ne.symm mine, UbrFdb.lookup]

theorem unique_learn (unique : Table.Unique UbrFdbNode.addr fdb.nodes) :
    Table.Unique UbrFdbNode.addr (ubrFdbLearn fdb now env vlan skb).nodes := by
  cases valid : isValidEtherAddr skb.frame.hSource with
  | false =>
      rw [ubrFdbLearn_invalid valid]
      exact unique
  | true =>
      cases known : fdb.lookup (macKey vlan.vid skb.frame.hSource) with
      | some node =>
          by_cases dynamic : node.proto = .dynamic
          · rw [ubrFdbLearn_dynamic valid known dynamic]
            exact Table.unique_update (fun _ => rfl) unique
          · rw [ubrFdbLearn_static valid known dynamic]
            exact unique
      | none =>
          by_cases fails : env.nodeAllocFails ∨ env.nodeInsertFails
          · rw [ubrFdbLearn_failed valid known fails]
            exact unique
          · rw [ubrFdbLearn_new valid known fails]
            exact Table.unique_cons known unique

/-- Every entry names one port, the one it was learned on. -/
def UbrFdb.Single (fdb : UbrFdb τ) : Prop :=
  ∀ k node, fdb.lookup k = some node → ∃ p, node.vec = Bitmap.zero.set p

theorem seenOn_vec {node : UbrFdbNode τ} {p q : Pidx} (single : node.vec = Bitmap.zero.set p) :
    (node.seenOn q now).vec = Bitmap.zero.set q := by
  simp only [UbrFdbNode.seenOn]
  split
  · rename_i inside
    have same : q = p := by simpa [single] using inside
    rw [single, same]
  · rfl

theorem lookup_learned (single : fdb.Single) {node : UbrFdbNode τ}
    (found : (ubrFdbLearned fdb now env vlan skb).lookup k = some node) :
    fdb.lookup k = some node ∨
      (k = macKey vlan.vid skb.frame.hSource ∧ node.tstamp = now ∧ node.vec = Bitmap.zero.set skb.cb.pidx ∧
        node.proto = .dynamic) := by
  simp only [ubrFdbLearned] at found
  split at found
  · rw [lookup_learn] at found
    split at found
    · rename_i mine
      cases known : fdb.lookup k with
      | some old =>
          rw [known] at found
          simp only [learnedEntry, Option.some.injEq] at found
          split at found
          · rename_i dynamic
            obtain ⟨p, vec⟩ := single k old known
            subst found
            exact .inr ⟨mine.2, rfl, seenOn_vec vec, dynamic⟩
          · exact .inl (by rw [found])
      | none =>
          rw [known] at found
          simp only [learnedEntry] at found
          split at found
          · cases found
          · cases found
            exact .inr ⟨mine.2, rfl, rfl, rfl⟩
    · exact .inl found
  · exact .inl found

theorem single_learned (single : fdb.Single) : (ubrFdbLearned fdb now env vlan skb).Single := by
  intro k node found
  rcases lookup_learned single found with old | ⟨_, _, vec, _⟩
  · exact single k node old
  · exact ⟨_, vec⟩

theorem unique_learned (unique : Table.Unique UbrFdbNode.addr fdb.nodes) :
    Table.Unique UbrFdbNode.addr (ubrFdbLearned fdb now env vlan skb).nodes := by
  simp only [ubrFdbLearned]
  split
  · exact unique_learn unique
  · exact unique

theorem learned_timeout : (ubrFdbLearned fdb now env vlan skb).ageingTimeout = fdb.ageingTimeout := by
  simp only [ubrFdbLearned, ubrFdbLearn]
  split
  · split
    · rfl
    · split
      · split
        · rfl
        · rfl
      · split
        · rfl
        · rfl
  · rfl

variable [Jiffies τ] {op : UbrFdbFlushOp}

theorem flush_timeout (walk : List WalkItem) :
    (ubrFdbFlush fdb op now walk).1.ageingTimeout = fdb.ageingTimeout := by
  induction walk generalizing fdb with
  | nil => rfl
  | cons item walk ih =>
      cases item with
      | again => exact ih
      | error e => rfl
      | node addr =>
          simp only [ubrFdbFlush]
          split
          · exact ih
          · split
            · exact ih
            · exact ih

theorem unique_flush (walk : List WalkItem) (unique : Table.Unique UbrFdbNode.addr fdb.nodes) :
    Table.Unique UbrFdbNode.addr (ubrFdbFlush fdb op now walk).1.nodes := by
  induction walk generalizing fdb with
  | nil => exact unique
  | cons item walk ih =>
      cases item with
      | again => exact ih unique
      | error e => exact unique
      | node addr =>
          simp only [ubrFdbFlush]
          split
          · exact ih unique
          · split
            · exact ih (Table.unique_remove unique)
            · exact ih unique

theorem selects_congr {fdb' : UbrFdb τ} (same : fdb'.ageingTimeout = fdb.ageingTimeout) (node : UbrFdbNode τ) :
    op.selects fdb' now node = op.selects fdb now node := by
  simp only [UbrFdbFlushOp.selects, ubrFdbNodeIsOld, same]

/-- Whatever the walk visits and in which order, a flush removes selected entries only. -/
theorem lookup_flush (fdb : UbrFdb τ) (op : UbrFdbFlushOp) (now : τ) (walk : List WalkItem) (k : UbrFdbAddr) :
    (ubrFdbFlush fdb op now walk).1.lookup k = fdb.lookup k ∨
      ∃ node, fdb.lookup k = some node ∧ op.selects fdb now node = true ∧
        (ubrFdbFlush fdb op now walk).1.lookup k = none := by
  induction walk generalizing fdb with
  | nil => exact .inl rfl
  | cons item walk ih =>
      cases item with
      | again => exact ih fdb
      | error e => exact .inl rfl
      | node addr =>
          simp only [ubrFdbFlush]
          split
          · exact ih fdb
          · rename_i node found
            have here : node.addr = addr := Table.key_of_lookup found
            split
            · rename_i selected
              have removed : (fdb.removeNode node).lookup k = if k = node.addr then none else fdb.lookup k :=
                Table.lookup_remove
              have later := ih (fdb.removeNode node)
              rw [removed] at later
              by_cases mine : k = node.addr
              · simp only [mine, if_true] at later
                refine .inr ⟨node, by rw [mine, here, found], selected, ?_⟩
                rcases later with gone | ⟨_, impossible, _⟩
                · rw [mine]
                  exact gone
                · cases impossible
              · simp only [mine, if_false] at later
                rcases later with kept | ⟨other, found', selected', gone⟩
                · exact .inl kept
                · exact .inr ⟨other, found', (selects_congr rfl other).symm.trans selected', gone⟩
            · exact ih fdb

/-- The addresses that a walk visits before it ends. -/
def visited : List WalkItem → List UbrFdbAddr
  | [] => []
  | .again :: walk => visited walk
  | .error _ :: _ => []
  | .node addr :: walk => addr :: visited walk

/-- A flush removes the selected ones among the entries that the walk visits. -/
theorem lookup_flush_eq (fdb : UbrFdb τ) (op : UbrFdbFlushOp) (now : τ) (walk : List WalkItem) (k : UbrFdbAddr) :
    (ubrFdbFlush fdb op now walk).1.lookup k =
      if k ∈ visited walk then (fdb.lookup k).filter fun node => !op.selects fdb now node
      else fdb.lookup k := by
  induction walk generalizing fdb with
  | nil => simp [ubrFdbFlush, visited]
  | cons item walk ih =>
      cases item with
      | again => exact ih fdb
      | error e => simp [ubrFdbFlush, visited]
      | node addr =>
          simp only [ubrFdbFlush, visited, List.mem_cons]
          cases found : fdb.lookup addr with
          | none =>
              rw [ih]
              by_cases here : k = addr
              · simp [here, found]
              · simp [here]
          | some node =>
              have key : node.addr = addr := Table.key_of_lookup found
              cases selected : op.selects fdb now node with
              | true =>
                  have removed : (fdb.removeNode node).lookup k = if k = addr then none else fdb.lookup k := by
                    rw [← key]
                    exact Table.lookup_remove
                  simp only [selected, if_true]
                  rw [ih, removed]
                  by_cases here : k = addr
                  · simp [here, found, Option.filter, selected]
                  · have same (n : UbrFdbNode τ) : op.selects (fdb.removeNode node) now n = op.selects fdb now n :=
                      selects_congr rfl n
                    simp only [here, false_or, if_false, same]
              | false =>
                  simp only [selected, Bool.false_eq_true, if_false]
                  rw [ih]
                  by_cases here : k = addr
                  · simp [here, found, Option.filter, selected]
                  · simp [here]

theorem age_timeout (walk : List WalkItem) : (ubrFdbAge fdb now walk).ageingTimeout = fdb.ageingTimeout :=
  flush_timeout walk

theorem isOld_congr {fdb' : UbrFdb τ} (same : fdb'.ageingTimeout = fdb.ageingTimeout) (node : UbrFdbNode τ) :
    ubrFdbNodeIsOld fdb' now node = ubrFdbNodeIsOld fdb now node := by
  simp only [ubrFdbNodeIsOld, same]

theorem ageing_selects (node : UbrFdbNode τ) :
    ageingOp.selects fdb now node = ubrFdbNodeIsOld fdb now node := by
  cases dynamic : node.proto <;> simp [UbrFdbFlushOp.selects, ageingOp, ubrFdbNodeIsOld, dynamic]

theorem lookup_age (fdb : UbrFdb τ) (now : τ) (walk : List WalkItem) (k : UbrFdbAddr) :
    (ubrFdbAge fdb now walk).lookup k = fdb.lookup k ∨
      ∃ node, fdb.lookup k = some node ∧ ubrFdbNodeIsOld fdb now node = true ∧
        (ubrFdbAge fdb now walk).lookup k = none := by
  rcases lookup_flush fdb ageingOp now walk k with kept | ⟨node, found, selected, gone⟩
  · exact .inl kept
  · exact .inr ⟨node, found, (ageing_selects node).symm.trans selected, gone⟩

theorem lookup_of_age {walk : List WalkItem} {node : UbrFdbNode τ}
    (found : (ubrFdbAge fdb now walk).lookup k = some node) : fdb.lookup k = some node := by
  rcases lookup_age fdb now walk k with kept | ⟨_, _, _, gone⟩
  · exact kept ▸ found
  · cases gone.symm.trans found

end Operations

/-- The control block that `ubr_port_rx_handler` and `ubr_ndo_start_xmit` copy into the
    buffer. -/
def Sys.onPort (s : Sys τ) (p : Pidx) (skb : Skb) : Skb := { skb with cb := (s.ubr.ports p).ingressCb }

/-- What an event does to the FDB. Learning goes by the frame as the ingress stage
    leaves it. -/
inductive FdbEffect [Jiffies τ] (cfg : Config) (s : Sys τ) : Event → UbrFdb τ → Prop where
  | kept {e} : FdbEffect cfg s e s.ubr.fdb
  | aged {walk} : FdbEffect cfg s (.age walk) (ubrFdbAge s.ubr.fdb s.jiffies walk)
  /-- The frame came in through the slave in slot `p`. -/
  | received {dev skb env p vlan verdict copy} (slave : s.slotOf dev = some p) (through : copy.cb.pidx = p)
      (ingress : ubrVlanIngress cfg s.ubr env (s.onPort p skb) = .ok (verdict, some copy)) :
      FdbEffect cfg s (.rx dev skb env) (ubrFdbLearned s.ubr.fdb s.jiffies env vlan copy)
  | sent {skb env vlan verdict copy} (through : copy.cb.pidx = (s.ubr.ports 0).ingressCb.pidx)
      (ingress : ubrVlanIngress cfg s.ubr env (s.onPort 0 skb) = .ok (verdict, some copy)) :
      FdbEffect cfg s (.xmit skb env) (ubrFdbLearned s.ubr.fdb s.jiffies env vlan copy)

section Step

variable [Jiffies τ] {s s' : Sys τ} {e : Event} {o : Outcome}

theorem exec_fdb (enabled : s.Enabled e) (done : s.exec cfg e = .ok (s', o)) :
    FdbEffect cfg s e s'.ubr.fdb := by
  have effect := exec_effect enabled done
  cases e with
  | rx dev skb env =>
      simp only [Sys.exec] at done
      split at done
      · cases done
        exact .kept
      · rename_i p slave
        obtain ⟨u, handed, res, rfl, _⟩ := forwarded_ok done
        obtain ⟨owned, res⟩ := ubrPortRxHandler_res res
        rcases ubrForward_res res with rfl | ⟨vlan, r, verdict, copy, _, ingress, _, rfl⟩
        · exact .kept
        · exact .received slave ((ubrVlanIngress_cases ingress).same.pidx.trans owned) ingress
  | xmit skb env =>
      obtain ⟨u, handed, res, rfl, _⟩ := forwarded_ok done
      rcases ubrForward_res res with rfl | ⟨vlan, r, verdict, copy, _, ingress, _, rfl⟩
      · exact .kept
      · exact .sent (ubrVlanIngress_cases ingress).same.pidx ingress
  | age walk =>
      cases done
      exact .aged
  | tick n =>
      cases done
      exact .kept
  | devChange dev nd =>
      cases done
      exact .kept
  | _ =>
      generalize s'.ubr = u at effect
      cases effect with
      | quiet fdb fdbOnly =>
          cases fdbOnly.resolve_left id
          exact .kept
      | _ => exact .kept

/-- One node for each key, with one port in its vector. -/
structure FdbOk (fdb : UbrFdb τ) : Prop where
  unique : Table.Unique UbrFdbNode.addr fdb.nodes
  single : fdb.Single

theorem FdbOk.step {fdb : UbrFdb τ} (ok : FdbOk s.ubr.fdb) (effect : FdbEffect cfg s e fdb) : FdbOk fdb := by
  cases effect with
  | kept => exact ok
  | @aged walk =>
      exact ⟨unique_flush walk ok.unique, fun k node found => ok.single k node (lookup_of_age found)⟩
  | received | sent => exact ⟨unique_learned ok.unique, single_learned ok.single⟩

end Step
end UnassumingBridge
