import UnassumingBridge.Invariants.Entries

/-! # Frames that are rejected at ingress

The stages of `ubr_forward` are combined with `&=`, which evaluates the FDB stage
for frames that the VLAN stage has already rejected. It reads the frame's VLAN,
which may not exist, and learns the frame's source.
-/

namespace UnassumingBridge

open Support

variable {τ : Type} {cfg : Config}

/-- Learning would leave the table as it is. -/
def LearnsNothing (fdb : UbrFdb τ) (now : τ) (env : FrameEnv) (vlan : UbrVlan) (skb : Skb) : Prop :=
  skb.cb.saLearning = false ∨ vlan.saLearning = false ∨ isValidEtherAddr skb.frame.hSource = false ∨
    match fdb.lookup (macKey vlan.vid skb.frame.hSource) with
    | some node => node.proto ≠ .dynamic ∨ (skb.cb.pidx ∈ node.vec ∧ node.tstamp = now)
    | none => env.nodeAllocFails = true ∨ env.nodeInsertFails = true

/-- The frame is of a VLAN that exists, and learning has nothing to do. What it goes by
    is the frame with the tag where the ingress stage has put it. -/
def RejectedCleanly (cfg : Config) (s : Ubr τ) (now : τ) (env : FrameEnv) (skb : Skb) : Prop :=
  ∃ r vlan, frameVlan cfg s env skb = .ok (some r) ∧ s.heap r = some vlan ∧
    ∃ mid ∈ ingressFrame cfg s env skb, LearnsNothing s.fdb now env vlan mid

section Learning

variable {fdb : UbrFdb τ} {now : τ} {env : FrameEnv} {vlan : UbrVlan} {skb : Skb}

theorem seenOn_eq_self {node : UbrFdbNode τ} {p : Pidx} :
    node.seenOn p now = node ↔ p ∈ node.vec ∧ node.tstamp = now := by
  obtain ⟨addr, vec, proto, tstamp⟩ := node
  by_cases inside : p ∈ vec
  · simp [UbrFdbNode.seenOn, inside, eq_comm]
  · have other : Bitmap.zero.set p ≠ vec := by
      rintro rfl
      exact inside (Bitmap.mem_set.mpr (.inl rfl))
    simp [UbrFdbNode.seenOn, inside, other]

private theorem learn_eq_self (ok : FdbOk fdb) (valid : isValidEtherAddr skb.frame.hSource = true) :
    ubrFdbLearn fdb now env vlan skb = fdb ↔
      match fdb.lookup (macKey vlan.vid skb.frame.hSource) with
      | some node => node.proto ≠ .dynamic ∨ (skb.cb.pidx ∈ node.vec ∧ node.tstamp = now)
      | none => env.nodeAllocFails = true ∨ env.nodeInsertFails = true := by
  have entry : (ubrFdbLearn fdb now env vlan skb).lookup (macKey vlan.vid skb.frame.hSource) =
      learnedEntry env skb.cb.pidx now (macKey vlan.vid skb.frame.hSource)
        (fdb.lookup (macKey vlan.vid skb.frame.hSource)) := by
    rw [lookup_learn, if_pos ⟨valid, rfl⟩]
  cases known : fdb.lookup (macKey vlan.vid skb.frame.hSource) with
  | some node =>
      by_cases dynamic : node.proto = .dynamic
      · simp only [dynamic, ne_eq, not_true_eq_false, false_or]
        constructor
        · intro same
          rw [same, known] at entry
          have refreshed : node = node.seenOn skb.cb.pidx now := by
            simpa [learnedEntry, dynamic] using entry
          exact seenOn_eq_self.mp refreshed.symm
        · intro fresh
          rw [ubrFdbLearn_dynamic valid known dynamic, Table.update_eq_self]
          intro other stored addr
          have same := Table.lookup_of_mem ok.unique stored
          rw [addr] at same
          cases same.symm.trans known
          exact seenOn_eq_self.mpr fresh
      · simp [ubrFdbLearn_static valid known dynamic, dynamic]
  | none =>
      by_cases fails : env.nodeAllocFails = true ∨ env.nodeInsertFails = true
      · simp [ubrFdbLearn_failed valid known fails, fails]
      · simp only [fails, iff_false]
        intro same
        rw [same, known] at entry
        simp [learnedEntry, fails] at entry

theorem learned_eq_self (ok : FdbOk fdb) :
    ubrFdbLearned fdb now env vlan skb = fdb ↔ LearnsNothing fdb now env vlan skb := by
  cases port : skb.cb.saLearning with
  | false => simp [ubrFdbLearned, LearnsNothing, port]
  | true =>
      cases both : vlan.saLearning with
      | false => simp [ubrFdbLearned, LearnsNothing, port, both]
      | true =>
          cases valid : isValidEtherAddr skb.frame.hSource with
          | false => simp [ubrFdbLearned, LearnsNothing, port, both, valid, ubrFdbLearn_invalid valid]
          | true =>
              simp only [ubrFdbLearned, LearnsNothing, port, both, valid, Bool.and_self, if_true,
                Bool.true_eq_false, false_or]
              exact learn_eq_self ok valid

/-- Learning asks the frame about its source and the port it came in on only. -/
theorem learnsNothing_congr {copy : Skb} (same : SameFrame skb copy)
    (source : copy.frame.hSource = skb.frame.hSource) :
    LearnsNothing fdb now env vlan copy ↔ LearnsNothing fdb now env vlan skb := by
  simp only [LearnsNothing, same.saLearning, source, same.pidx]

end Learning

variable [Jiffies τ]

private theorem rejected_clean_iff {u : Ubr τ} {now : τ} {env : FrameEnv} {skb copy : Skb} {vlan : UbrVlan}
    (ok : FdbOk u.fdb) (rejected : ubrVlanIngress cfg u env skb = .ok (false, some copy))
    (ctrl : copy.cb.ctrl = false) (read : u.vlanAt copy.cb.vlan = .ok vlan) :
    ubrForward cfg u now env skb = ⟨[.free skb.buf], .ok (u, false)⟩ ↔
      ∃ mid ∈ ingressFrame cfg u env skb, LearnsNothing u.fdb now env vlan mid := by
  have ingress := ubrVlanIngress_cases rejected
  obtain ⟨mid, entered, same, bytes⟩ := ingress.frame
  have learns : (∃ mid ∈ ingressFrame cfg u env skb, LearnsNothing u.fdb now env vlan mid) ↔
      LearnsNothing u.fdb now env vlan copy := by
    simp only [entered, Option.mem_def, Option.some.injEq, exists_eq_left']
    exact (learnsNothing_congr same (congrArg Frame.hSource bytes.frame)).symm
  rw [ubrForward_rejected rejected ctrl read, ingress.same.buf, learns, ← learned_eq_self ok]
  constructor
  · intro clean
    have result := (Logged.mk.inj clean).2
    exact congrArg (fun u : Ubr τ => u.fdb) (Prod.mk.inj (Except.ok.inj result)).1
  · intro unchanged
    rw [unchanged]

/-- A rejected frame is dropped and leaves the bridge as it was if, and only if, its VLAN exists and there was
    nothing to learn. -/
theorem rejected_frame_leaves_no_trace {s : Sys τ} (reached : Reachable (bridge τ cfg) s) (p : Pidx)
    (env : FrameEnv) (skb : Skb) {kept : Option Skb}
    (rejected : ubrVlanIngress cfg s.ubr env (s.onPort p skb) = .ok (false, kept)) :
    ubrForward cfg s.ubr s.jiffies env (s.onPort p skb) = ⟨[.free skb.buf], .ok (s.ubr, false)⟩ ↔
      RejectedCleanly cfg s.ubr s.jiffies env (s.onPort p skb) := by
  have ctrl : (s.onPort p skb).cb.ctrl = false := (slotOk_of_reachable reached p).ctrl
  have ingress := ubrVlanIngress_cases rejected
  cases kept with
  | none =>
      rw [ubrForward_freed rejected]
      cases ingress with
      | freed filtering lost =>
          have unclassified : frameVlan cfg s.ubr env (s.onPort p skb) = .ok none := by
            simp only [frameVlan, lost]
          constructor
          · intro clean
            cases clean
          · rintro ⟨r, vlan, found, _⟩
            cases unclassified.symm.trans found
  | some copy =>
      have same := ingress.same
      have quiet : copy.cb.ctrl = false := same.ctrl.trans ctrl
      cases ingress with
      | unknown filtering normal missing =>
          rw [ubrForward_fault rejected quiet (Ubr.vlanAt_none s.ubr)]
          constructor
          · intro clean
            cases clean
          · rintro ⟨r, vlan, found, _⟩
            cases missing.symm.trans found
      | @foreign mid vid r vlan filtering normal found live outside =>
          have pointer : (classifiedTag cfg s.ubr.vlanProto vlan vid { mid with cb.vlan := some r }).cb.vlan =
              some r := by
            rw [classifiedTag_cb]
          have read := (congrArg s.ubr.vlanAt pointer).trans (Ubr.vlanAt_some live)
          refine (rejected_clean_iff (fdbOk_of_reachable reached) rejected quiet read).trans ?_
          constructor
          · intro nothing
            exact ⟨r, vlan, found, live, nothing⟩
          · rintro ⟨r', vlan', found', live', nothing⟩
            cases found.symm.trans found'
            cases live.symm.trans live'
            exact nothing

/-- A frame whose source is no station. -/
def sourcelessFrame : Skb := { stationFrame with frame.hSource := 0 }

/-- A port outside its PVID's VLAN, and a frame without a source to learn. -/
theorem rejected_frame_leaves_no_trace_x86 :
    ∃ (s : Sys Nat) (kept : Option Skb), Reachable (bridge Nat x86) s ∧
      ubrVlanIngress x86 s.ubr {} (s.onPort 1 sourcelessFrame) = .ok (false, kept) ∧
      ubrForward x86 s.ubr s.jiffies {} (s.onPort 1 sourcelessFrame) = ⟨[.free .orig], .ok (s.ubr, false)⟩ := by
  obtain ⟨tr, s, run, test⟩ := run_booted x86 (fun _ _ => True)
    [.portAdd 1 {}, .vlanAdd 7 false, .portSet (some 1) 7]
    (fun _ s =>
      ((ubrVlanIngress x86 s.ubr {} (s.onPort 1 sourcelessFrame)).toOption.any fun out => !out.1) &&
      ((frameVlan x86 s.ubr {} (s.onPort 1 sourcelessFrame)).toOption.join.any
        fun r => (s.ubr.heap r).isSome) &&
      ((ingressFrame x86 s.ubr {} (s.onPort 1 sourcelessFrame)).any fun mid =>
        isValidEtherAddr mid.frame.hSource == false))
    (by decide +kernel)
  simp only [Bool.and_eq_true, beq_iff_eq, Option.any_eq_true, Option.join_eq_some_iff, Bool.not_eq_true'] at test
  obtain ⟨⟨⟨out, returned, verdict⟩, r, found, object⟩, mid, entered, invalid⟩ := test
  obtain ⟨vlan, live⟩ := Option.isSome_iff_exists.mp object
  have rejected : ubrVlanIngress x86 s.ubr {} (s.onPort 1 sourcelessFrame) = .ok (false, out.2) := by
    rw [ok_of_toOption returned, ← verdict]
  have clean : RejectedCleanly x86 s.ubr s.jiffies {} (s.onPort 1 sourcelessFrame) :=
    ⟨r, vlan, ok_of_toOption found, live, mid, entered, .inr (.inr (.inl invalid))⟩
  exact ⟨s, out.2, run.reachable, rejected,
    (rejected_frame_leaves_no_trace run.reachable 1 {} _ rejected).mpr clean⟩

/-- An untagged frame on a port whose PVID has no VLAN. -/
theorem rejected_frame_crashes :
    ¬ ∀ s : Sys Nat, Reachable (bridge Nat x86) s → ∀ p env skb kept,
      ubrVlanIngress x86 s.ubr env (s.onPort p skb) = .ok (false, kept) →
        ubrForward x86 s.ubr s.jiffies env (s.onPort p skb) = ⟨[.free skb.buf], .ok (s.ubr, false)⟩ := by
  intro claim
  obtain ⟨tr, s, run, test⟩ := run_booted x86 (fun _ _ => True) [.portAdd 1 {}, .portSet (some 1) 7]
    (fun _ s => match ubrVlanIngress x86 s.ubr {} (s.onPort 1 stationFrame) with
      | .ok (false, _) => (ubrForward x86 s.ubr s.jiffies {} (s.onPort 1 stationFrame)).res.toBool == false
      | _ => false)
    (by decide +kernel)
  split at test
  · rename_i rejected
    rw [claim s run.reachable 1 {} stationFrame _ rejected] at test
    cases test
  · cases test

end UnassumingBridge
