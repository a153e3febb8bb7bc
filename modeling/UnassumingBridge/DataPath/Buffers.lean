import UnassumingBridge.DataPath.Delivery
import UnassumingBridge.Kernel.Buffers

/-! # Every buffer is consumed once

The received buffer and each clone are given away exactly once and left alone
afterwards, unless a helper has freed one behind its caller's back, or the frame
has no VLAN or meets a port without a device.
-/

namespace UnassumingBridge

open Support

variable {τ : Type} {cfg : Config}

/-- The ports of a list before the first whose clone fails. -/
def clones (env : FrameEnv) (l : List Pidx) : List Pidx := l.takeWhile fun q => !env.cloneFails q

/-- The ports to which `ubr_deliver` turns, in its order: those above the lowest until
    a clone fails, then, when none has failed, the lowest. -/
def served (env : FrameEnv) (vec : UbrVec) : List Pidx :=
  match vec.findFirst with
  | none => []
  | some first =>
      let above := vec.toList.filter (first < ·)
      if (clones env above).length = above.length then above ++ [first] else clones env above

/-- A helper of the ingress stage frees the buffer: the tag in the packet cannot be
    taken out, or a tag of another protocol cannot be put back. -/
def LosesBuffer (cfg : Config) (vlanProto : BitVec 16) (env : FrameEnv) (skb : Skb) : Prop :=
  (skb.vlanTag = none ∧ skb.protocol = vlanProto ∧
    (env.untagFails = true ∨ skb.frame.payload.length < 4)) ∨
  env.insertFails = true ∧ skb.Foreign cfg vlanProto

/-- The VLAN that the frame is classified to. -/
def classified (cfg : Config) (s : Ubr τ) (env : FrameEnv) (skb : Skb) : Except Fault (Option VlanRef) :=
  if skb.cb.vlanFiltering then frameVlan cfg s env skb else .ok skb.cb.vlan

/-- Nothing gets in the way of a buffer: no helper of the ingress stage frees it, its
    VLAN exists, and a copy can be sent to every port that is served. -/
structure Sound [Jiffies τ] (cfg : Config) (s : Ubr τ) (now : τ) (env : FrameEnv) (skb : Skb) : Prop where
  keeps : skb.cb.vlanFiltering = true → ¬ LosesBuffer cfg s.vlanProto env skb
  vlan : ∃ r vlan, classified cfg s env skb = .ok (some r) ∧ s.heap r = some vlan
  sends copy vlan : ubrVlanIngress cfg s env skb = .ok (true, some copy) →
    s.vlanAt copy.cb.vlan = .ok vlan →
    ∀ q ∈ served env (copy.cb.vec.and
      (destinationPorts cfg (ubrFdbLearned s.fdb now env vlan copy) now env vlan copy)), CanSend cfg s env vlan copy q

section Ingress

variable {s : Ubr τ} {env : FrameEnv} {skb : Skb}

theorem popTag_eq_none {f : Frame} : f.popTag = none ↔ f.payload.length < 4 := by
  unfold Frame.popTag
  split
  · rename_i bytes
    simp [bytes]
  · rename_i short
    simp only [true_iff]
    by_contra long
    match whole : f.payload, long with
    | a :: b :: c :: d :: rest, _ => exact short a b c d rest whole
    | [_, _, _], long | [_, _], long | [_], long | [], long => simp at long

private theorem insert_lost (tag : VlanTag) (mid : Skb) :
    (∀ out, ¬ vlanInsertTagSetProto cfg env tag mid = some out) ↔ env.insertFails = true := by
  unfold vlanInsertTagSetProto
  cases env.insertFails with
  | true => simp
  | false => simp

theorem normalise_eq_none {vlanProto : BitVec 16} :
    ubrVlanNormalise cfg vlanProto env skb = none ↔ LosesBuffer cfg vlanProto env skb := by
  unfold ubrVlanNormalise LosesBuffer Skb.Foreign ingressTagProto
  cases tag : skb.vlanTag with
  | some t =>
      by_cases foreign : cfg.htons t.proto ≠ vlanProto
      · simp [tag, foreign, insert_lost]
      · simp [tag, not_not.mp foreign]
  | none =>
      by_cases inband : skb.protocol = vlanProto
      · simp only [Option.isNone_none, inband, and_self, if_true, true_and]
        unfold skbVlanUntag
        cases fails : env.untagFails with
        | true => simp
        | false =>
            cases popped : skb.frame.popTag with
            | none => simp [popTag_eq_none.mp popped]
            | some out =>
                have long : ¬ skb.frame.payload.length < 4 := by
                  intro short
                  cases popped.symm.trans (popTag_eq_none.mpr short)
                by_cases foreign : cfg.htons vlanProto ≠ vlanProto
                · simp [inband, foreign, insert_lost, long]
                · simp [inband, not_not.mp foreign, long]
      · simp [tag, inband]

/-- The ingress stage keeps the buffer and finds a VLAN exactly when nothing is in its way. -/
theorem ingress_keeps :
    (∃ allow copy vlan, ubrVlanIngress cfg s env skb = .ok (allow, some copy) ∧
      s.vlanAt copy.cb.vlan = .ok vlan) ↔
    (skb.cb.vlanFiltering = true → ¬ LosesBuffer cfg s.vlanProto env skb) ∧
      ∃ r vlan, classified cfg s env skb = .ok (some r) ∧ s.heap r = some vlan := by
  constructor
  · rintro ⟨allow, copy, vlan, ingress, read⟩
    have kept {mid : Skb} {vid : Vid} (normal : ubrVlanNormalise cfg s.vlanProto env skb = some (mid, vid)) :
        ¬ LosesBuffer cfg s.vlanProto env skb := by
      intro lost
      cases normal.symm.trans (normalise_eq_none.mpr lost)
    cases ubrVlanIngress_cases ingress with
    | unfiltered hub _ =>
        obtain ⟨r, pointer, live⟩ := Ubr.vlanAt_eq_ok.mp read
        exact ⟨by simp [hub], r, vlan, by simpa [classified, hub] using pointer, live⟩
    | unknown filtering normal missing => cases read
    | foreign filtering normal found live outside =>
        exact ⟨fun _ => kept normal, _, _, by simpa [classified, filtering] using found, live⟩
    | accepted filtering normal found live inside =>
        exact ⟨fun _ => kept normal, _, _, by simpa [classified, filtering] using found, live⟩
  · rintro ⟨keeps, r, vlan, found, live⟩
    have read : s.vlanAt (some r) = .ok vlan := Ubr.vlanAt_some live
    by_cases filtering : skb.cb.vlanFiltering = true
    · obtain ⟨⟨mid, vid⟩, normal⟩ := Option.ne_none_iff_exists'.mp
        (fun lost => keeps filtering (normalise_eq_none.mp lost))
      rw [classified, if_pos filtering] at found
      have ingress := ubrVlanIngress_found filtering normal found live
      split at ingress
      · refine ⟨_, _, vlan, ingress, ?_⟩
        rw [classifiedTag_cb, read]
      · exact ⟨_, _, vlan, ingress, read⟩
    · have hub : skb.cb.vlanFiltering = false := by simpa using filtering
      have pointer : skb.cb.vlan = some r := by simpa [classified, hub] using found
      have follows : s.vlanAt skb.cb.vlan = .ok vlan := by rw [pointer, read]
      exact ⟨_, _, vlan, ubrVlanIngress_hub hub follows, follows⟩

end Ingress

section Delivery

variable {s : Ubr τ} {env : FrameEnv} {vlan : UbrVlan}

theorem canSend_forwarded [Jiffies τ] (now : τ) (fdb : UbrFdb τ) (copy : Skb) (q : Pidx) :
    CanSend cfg { s with fdb } env vlan (ubrFdbForward cfg s.fdb now env vlan copy).2 q ↔
      CanSend cfg s env vlan copy q :=
  canSend_moved copy q copy.buf copy.dev _

theorem ubrDeliverClones_sends (skb : Skb) (read : s.vlanAt skb.cb.vlan = .ok vlan) {l : List Pidx}
    (others : ∀ q ∈ l, q ≠ 0) (can : ∀ q ∈ clones env l, CanSend cfg s env vlan skb q) :
    (ubrDeliverClones cfg s env skb l).res = .ok (decide ((clones env l).length = l.length)) := by
  induction l with
  | nil => rfl
  | cons q rest ih =>
      cases fails : env.cloneFails q with
      | true => simp [ubrDeliverClones, clones, fails]
      | false =>
          have more : clones env (q :: rest) = q :: clones env rest := by simp [clones, fails]
          rw [more] at can ⊢
          have other := others q List.mem_cons_self
          have here := (canSend_moved skb q (.clone q) skb.dev skb.cb.vec).mpr (can q List.mem_cons_self)
          obtain ⟨event, sent⟩ := ubrDeliverDown_plugged { skb with buf := .clone q } read other here
          have later := ih (fun p inside => others p (List.mem_cons_of_mem q inside))
            fun p inside => can p (List.mem_cons_of_mem q inside)
          simp only [ubrDeliverClones, fails, Bool.false_eq_true, if_false]
          rw [sent, Logged.bind_ok rfl, later]
          simp only [List.length_cons, Nat.add_right_cancel_iff]

theorem ubrDeliver_sends {skb : Skb} (read : s.vlanAt skb.cb.vlan = .ok vlan)
    (can : ∀ q ∈ served env skb.cb.vec, CanSend cfg s env vlan skb q) : (ubrDeliver cfg s env skb).res = .ok () := by
  cases lowest : skb.cb.vec.findFirst with
  | none =>
      simp only [ubrDeliver, lowest]
      rfl
  | some first =>
      have others (q : Pidx) (inside : q ∈ skb.cb.vec.toList.filter (first < ·)) : q ≠ 0 := by
        have beyond : first < q := by simpa using (List.mem_filter.mp inside).2
        exact Fin.ne_zero_of_lt beyond
      simp only [served, lowest] at can
      simp only [ubrDeliver, lowest]
      generalize skb.cb.vec.toList.filter (first < ·) = above at can others
      by_cases all : (clones env above).length = above.length
      · rw [if_pos all] at can
        have loop := ubrDeliverClones_sends skb read others fun q inside =>
          can q (List.mem_append_left _ ((List.takeWhile_prefix _).subset inside))
        have last := can first (by simp)
        rw [Logged.bind_ok loop, decide_eq_true all, if_pos rfl]
        obtain ⟨event, final, _⟩ := deliverLast_sends skb read last
        rw [final]
      · rw [if_neg all] at can
        rw [Logged.bind_ok (ubrDeliverClones_sends skb read others can), decide_eq_false all]
        rfl

/-- A delivery gives its buffer away when `can` holds, and breaks the discipline otherwise. -/
structure GivesAway (can : Prop) (b : Buf) (x : Tracked Unit) : Prop where
  fine L : can → b ∈ L.live → x.res = .ok () ∧ Ledger.replay L x.log = some ⟨L.live.erase b, b :: L.gone⟩
  broken L : ¬ can → b ∈ L.live → (∃ f, x.res = .error f) ∧ Ledger.Breach L x.log

namespace Tracked

theorem ubrCommonEgress_eq (cfg : Config) (env : FrameEnv) (skb : Skb) (read : s.vlanAt skb.cb.vlan = .ok vlan)
    (atMac : Bool) (q : Pidx) :
    ubrCommonEgress cfg s env atMac skb q =
      if vlanGetProtocol cfg atMac (egressCopy cfg env s.vlanProto vlan atMac skb q) = 0 then
        ⟨[.touch skb.buf, .take skb.buf (some (.free skb.buf))], .ok none⟩
      else ⟨[.touch skb.buf, .touch skb.buf], .ok (some (egressCopy cfg env s.vlanProto vlan atMac skb q))⟩ := by
  have same : (egressCopy cfg env s.vlanProto vlan atMac skb q).buf = skb.buf := egressCopy_buf ..
  simp only [ubrCommonEgress, ubrEgressTag_eq read, Logged.lift_ok_bind, same]
  split
  · rfl
  · rfl

private theorem replay_given {L : Ledger Buf} {b : Buf} (looks : List Buf) (here : b ∈ L.live)
    (own : ∀ c ∈ looks, c = b) (e : Option SkbEvent) :
    Ledger.replay L (looks.map Handling.touch ++ [.take b e]) = some ⟨L.live.erase b, b :: L.gone⟩ := by
  induction looks with
  | nil => simp [Ledger.replay, Ledger.book, here]
  | cons c looks ih =>
      cases own c List.mem_cons_self
      simp only [List.map_cons, List.cons_append, Ledger.replay_cons, Ledger.book, here, if_true]
      exact ih fun d inside => own d (List.mem_cons_of_mem b inside)

theorem replay_looks {L : Ledger Buf} {b : Buf} (looks : List Buf) (here : b ∈ L.live)
    (own : ∀ c ∈ looks, c = b) :
    Ledger.replay L (looks.map (Handling.touch : Buf → SkbHandling)) = some L := by
  induction looks with
  | nil => rfl
  | cons c looks ih =>
      cases own c List.mem_cons_self
      simp only [List.map_cons, Ledger.replay_cons, Ledger.book, here, if_true]
      exact ih fun d inside => own d (List.mem_cons_of_mem b inside)

private theorem breach_freed {L : Ledger Buf} {b : Buf} (looks : List Buf) (here : b ∈ L.live)
    (own : ∀ c ∈ looks, c = b) (e : Option SkbEvent) :
    Ledger.Breach L (looks.map Handling.touch ++ [.take b e] ++ [.touch b]) :=
  .inl ⟨_, .touch b, [], _, rfl, replay_given looks here own e, by simp⟩

theorem ubrDeliverUp_gives (skb : Skb) (read : s.vlanAt skb.cb.vlan = .ok vlan) :
    GivesAway (CanSend cfg s env vlan skb 0) skb.buf (ubrDeliverUp cfg s env skb) := by
  have egress := ubrCommonEgress_eq cfg env { skb with dev := some s.dev } read false 0
  have protocol : vlanGetProtocol cfg false
      (egressCopy cfg env s.vlanProto vlan false { skb with dev := some s.dev } 0) = _ :=
    egressProtocol_moved s.vlanProto false skb 0 skb.buf (some s.dev) skb.cb.vec
  have same : (egressCopy cfg env s.vlanProto vlan false { skb with dev := some s.dev } 0).buf = skb.buf :=
    egressCopy_buf s.vlanProto false { skb with dev := some s.dev } 0
  have can : CanSend cfg s env vlan skb 0 ↔
      vlanGetProtocol cfg false (egressCopy cfg env s.vlanProto vlan false { skb with dev := some s.dev } 0) ≠ 0 := by
    rw [protocol]
    exact and_iff_left fun host => absurd rfl host
  generalize egressCopy cfg env s.vlanProto vlan false { skb with dev := some s.dev } 0 = out at egress same can
  simp only [ubrDeliverUp, egress]
  by_cases lost : vlanGetProtocol cfg false out = 0
  · rw [if_pos lost]
    refine ⟨fun L sends => absurd lost (can.mp sends), fun L _ here => ⟨⟨.useAfterFree, rfl⟩, ?_⟩⟩
    exact breach_freed [skb.buf, skb.buf] here (by simp) _
  · rw [if_neg lost]
    refine ⟨fun L _ here => ⟨rfl, ?_⟩, fun L cannot => absurd (can.mpr lost) cannot⟩
    have same : out.buf = skb.buf := same
    rw [← same] at here ⊢
    exact replay_given [out.buf, out.buf, out.buf, out.buf] here (by simp) _

theorem ubrDeliverDown_gives (skb : Skb) (read : s.vlanAt skb.cb.vlan = .ok vlan) {q : Pidx} (other : q ≠ 0) :
    GivesAway (CanSend cfg s env vlan skb q) skb.buf (ubrDeliverDown cfg s env skb q) := by
  have egress := ubrCommonEgress_eq cfg env { skb with dev := (s.ports q).dev } read true q
  have protocol : vlanGetProtocol cfg true
      (egressCopy cfg env s.vlanProto vlan true { skb with dev := (s.ports q).dev } q) = _ :=
    egressProtocol_moved s.vlanProto true skb q skb.buf (s.ports q).dev skb.cb.vec
  have kept : (egressCopy cfg env s.vlanProto vlan true { skb with dev := (s.ports q).dev } q).buf = skb.buf ∧ _ :=
    egressCopy_kept s.vlanProto true { skb with dev := (s.ports q).dev } q
  obtain ⟨same, device⟩ := kept
  have can : CanSend cfg s env vlan skb q ↔
      vlanGetProtocol cfg true (egressCopy cfg env s.vlanProto vlan true { skb with dev := (s.ports q).dev } q) ≠ 0 ∧
        (s.ports q).dev.isSome := by
    rw [protocol]
    simp only [CanSend, FindsProtocol, ne_eq, other, not_false_eq_true, decide_true, true_imp_iff]
  generalize egressCopy cfg env s.vlanProto vlan true { skb with dev := (s.ports q).dev } q = out
    at egress same device can
  simp only [ubrDeliverDown, egress]
  by_cases lost : vlanGetProtocol cfg true out = 0
  · rw [if_pos lost]
    refine ⟨fun L sends => absurd lost (can.mp sends).1, fun L _ here => ⟨⟨.useAfterFree, rfl⟩, ?_⟩⟩
    exact breach_freed [skb.buf, skb.buf] here (by simp) _
  · rw [if_neg lost]
    obtain ⟨buf, dev, frame, protocol, vlanTag, networkHeader, macLen, pktHost, cb⟩ := out
    cases same
    cases plugged : (s.ports q).dev with
    | none =>
        cases device.trans plugged
        refine ⟨fun L sends => ?_, fun L _ here => ?_⟩
        · have there := (can.mp sends).2
          rw [plugged] at there
          cases there
        · exact ⟨⟨.nullDeref, rfl⟩, .inr ⟨L, skb.buf,
            replay_looks [skb.buf, skb.buf, skb.buf, skb.buf] here (by simp), here⟩⟩
    | some dev =>
        cases device.trans plugged
        refine ⟨fun L _ here => ?_, fun L cannot => absurd (can.mpr ⟨lost, by rw [plugged]; rfl⟩) cannot⟩
        exact ⟨rfl, replay_given [skb.buf, skb.buf, skb.buf] here (by simp) _⟩

/-- The clone loop gives every clone it makes away, or breaks the discipline at one. -/
theorem ubrDeliverClones_gives (cfg : Config) (env : FrameEnv) (skb : Skb) (read : s.vlanAt skb.cb.vlan = .ok vlan)
    {l : List Pidx}
    (single : l.Nodup) (others : ∀ q ∈ l, q ≠ 0) {L : Ledger Buf} (here : skb.buf ∈ L.live)
    (fresh : ∀ q ∈ l, Buf.clone q ∉ L.live ∧ Buf.clone q ∉ L.gone) :
    ((∀ q ∈ clones env l, CanSend cfg s env vlan skb q) →
      (ubrDeliverClones cfg s env skb l).res = .ok (decide ((clones env l).length = l.length)) ∧
      ∃ gone, Ledger.replay L (ubrDeliverClones cfg s env skb l).log = some ⟨L.live, gone⟩) ∧
    (¬ (∀ q ∈ clones env l, CanSend cfg s env vlan skb q) →
      (∃ f, (ubrDeliverClones cfg s env skb l).res = .error f) ∧
      Ledger.Breach L (ubrDeliverClones cfg s env skb l).log) := by
  induction l generalizing L with
  | nil => exact ⟨fun _ => ⟨rfl, L.gone, rfl⟩, fun broken => absurd (by simp [clones]) broken⟩
  | cons q rest ih =>
      cases fails : env.cloneFails q with
      | true =>
          have none : clones env (q :: rest) = [] := by simp [clones, fails]
          have run : ubrDeliverClones cfg s env skb (q :: rest) = ⟨[.touch skb.buf], .ok false⟩ := by
            simp only [ubrDeliverClones, fails]
            rfl
          rw [none, run]
          exact ⟨fun _ => ⟨rfl, L.gone, replay_looks [skb.buf] here (by simp)⟩,
            fun broken => absurd (by simp) broken⟩
      | false =>
          obtain ⟨apart, later⟩ := List.nodup_cons.mp single
          obtain ⟨unmade, untaken⟩ := fresh q List.mem_cons_self
          have more : clones env (q :: rest) = q :: clones env rest := by simp [clones, fails]
          have gives : GivesAway (CanSend cfg s env vlan { skb with buf := .clone q } q) (.clone q) _ :=
            ubrDeliverDown_gives { skb with buf := .clone q } read (others q List.mem_cons_self)
          have moved : CanSend cfg s env vlan { skb with buf := .clone q } q ↔ CanSend cfg s env vlan skb q :=
            canSend_moved skb q (.clone q) skb.dev skb.cb.vec
          have run : ubrDeliverClones cfg s env skb (q :: rest) =
              ((⟨[.touch skb.buf, .make (.clone q)], .ok ()⟩ : Tracked Unit) >>= fun _ =>
                ubrDeliverDown cfg s env { skb with buf := .clone q } q >>= fun _ =>
                  ubrDeliverClones cfg s env skb rest) := by
            simp only [ubrDeliverClones, fails]
            rfl
          have made : Ledger.replay L [.touch skb.buf, (.make (.clone q) : SkbHandling)] =
              some ⟨.clone q :: L.live, L.gone⟩ := by
            simp [Ledger.replay, Ledger.book, here, unmade, untaken]
          rw [Logged.bind_ok rfl] at run
          rw [more, run]
          by_cases can : CanSend cfg s env vlan skb q
          · obtain ⟨done, given⟩ := gives.fine ⟨.clone q :: L.live, L.gone⟩ (moved.mpr can) List.mem_cons_self
            rw [Logged.bind_ok done]
            have now : ∀ p ∈ rest, Buf.clone p ∉ L.live ∧ Buf.clone p ∉ Buf.clone q :: L.gone := by
              intro p inside
              obtain ⟨unmade, untaken⟩ := fresh p (List.mem_cons_of_mem q inside)
              have other : p ≠ q := by
                rintro rfl
                exact apart inside
              exact ⟨unmade, by simp [untaken, other]⟩
            obtain ⟨fine, broken⟩ := ih later (fun p inside => others p (List.mem_cons_of_mem q inside))
              (L := ⟨L.live, .clone q :: L.gone⟩) here now
            rw [List.erase_cons_head] at given
            simp only [List.forall_mem_cons, can, true_and, List.length_cons, Nat.add_right_cancel_iff]
            constructor
            · intro all
              obtain ⟨done, gone, replayed⟩ := fine all
              refine ⟨done, gone, ?_⟩
              exact Ledger.replay_trans made (Ledger.replay_trans given replayed)
            · intro some
              obtain ⟨failed, breach⟩ := broken some
              exact ⟨failed, (breach.after given).after made⟩
          · obtain ⟨⟨f, failed⟩, breach⟩ :=
              gives.broken ⟨.clone q :: L.live, L.gone⟩ (moved.not.mpr can) List.mem_cons_self
            rw [Logged.bind_error failed]
            exact ⟨fun all => absurd (all q List.mem_cons_self) can, fun _ => ⟨⟨f, rfl⟩, breach.after made⟩⟩

theorem clones_eq {env : FrameEnv} {l : List Pidx} (all : (clones env l).length = l.length) :
    clones env l = l :=
  (List.takeWhile_prefix _).eq_of_length all

theorem ubrDeliver_gives (cfg : Config) (env : FrameEnv) {skb : Skb} (read : s.vlanAt skb.cb.vlan = .ok vlan)
    (original : skb.buf = .orig) :
    ((∀ q ∈ served env skb.cb.vec, CanSend cfg s env vlan skb q) →
      (ubrDeliver cfg s env skb).res = .ok () ∧
      ∃ gone, Ledger.replay ⟨[.orig], []⟩ (ubrDeliver cfg s env skb).log = some ⟨[], gone⟩) ∧
    (¬ (∀ q ∈ served env skb.cb.vec, CanSend cfg s env vlan skb q) →
      (∃ f, (ubrDeliver cfg s env skb).res = .error f) ∧
      Ledger.Breach ⟨[.orig], []⟩ (ubrDeliver cfg s env skb).log) := by
  have looked : Ledger.replay ⟨[.orig], []⟩ [(.touch skb.buf : SkbHandling)] = some ⟨[.orig], []⟩ := by
    simp [Ledger.replay, Ledger.book, original]
  have given (gone : List Buf) (e : Option SkbEvent) :
      Ledger.replay ⟨[.orig], gone⟩ [(.take skb.buf e : SkbHandling)] = some ⟨[], .orig :: gone⟩ := by
    simp [Ledger.replay, Ledger.book, original]
  cases lowest : skb.cb.vec.findFirst with
  | none =>
      have run : ubrDeliver cfg s env skb =
          ⟨[.touch skb.buf, .take skb.buf (some (.free skb.buf))], .ok ()⟩ := by
        simp only [ubrDeliver, lowest]
        rfl
      have nobody : served env skb.cb.vec = [] := by simp [served, lowest]
      rw [nobody, run]
      refine ⟨fun _ => ⟨rfl, [.orig], ?_⟩, fun broken => absurd (by simp) broken⟩
      exact Ledger.replay_trans looked (given [] _)
  | some first =>
      have single := skb.cb.vec.nodup_toList.filter (first < ·)
      have others (q : Pidx) (inside : q ∈ skb.cb.vec.toList.filter (first < ·)) : q ≠ 0 := by
        have beyond : first < q := by simpa using (List.mem_filter.mp inside).2
        exact Fin.ne_zero_of_lt beyond
      have run : ubrDeliver cfg s env skb = ((⟨[.touch skb.buf], .ok ()⟩ : Tracked Unit) >>= fun _ =>
          ubrDeliverClones cfg s env skb (skb.cb.vec.toList.filter (first < ·)) >>= fun cloned =>
            if cloned then
              if first = 0 then ubrDeliverUp cfg s env skb else ubrDeliverDown cfg s env skb first
            else consume (.free skb.buf)) := by
        simp only [ubrDeliver, lowest]
        rfl
      have last : GivesAway (CanSend cfg s env vlan skb first) skb.buf
          (if first = 0 then ubrDeliverUp cfg s env skb else ubrDeliverDown cfg s env skb first) := by
        split
        · rename_i host
          rw [host]
          exact ubrDeliverUp_gives skb read
        · rename_i other
          exact ubrDeliverDown_gives skb read other
      generalize (if first = 0 then ubrDeliverUp cfg s env skb else ubrDeliverDown cfg s env skb first) = final
        at run last
      have set : served env skb.cb.vec =
          if (clones env (skb.cb.vec.toList.filter (first < ·))).length =
            (skb.cb.vec.toList.filter (first < ·)).length then
            skb.cb.vec.toList.filter (first < ·) ++ [first]
          else clones env (skb.cb.vec.toList.filter (first < ·)) := by
        simp only [served, lowest]
      generalize skb.cb.vec.toList.filter (first < ·) = above at run set single others
      have loop := ubrDeliverClones_gives cfg env skb read single others (L := ⟨[.orig], []⟩)
        (by simp [original]) (by simp)
      rw [Logged.bind_ok rfl] at run
      by_cases can : ∀ q ∈ clones env above, CanSend cfg s env vlan skb q
      · obtain ⟨cloned, gone, replayed⟩ := loop.1 can
        rw [Logged.bind_ok cloned] at run
        by_cases all : (clones env above).length = above.length
        · rw [if_pos all, ← clones_eq all] at set
          simp only [all, decide_true, if_true] at run
          simp only [set, List.forall_mem_append, List.mem_singleton, forall_eq, run]
          constructor
          · rintro ⟨_, first⟩
            obtain ⟨done, sent⟩ := last.fine ⟨[.orig], gone⟩ first (by simp [original])
            refine ⟨done, skb.buf :: gone, ?_⟩
            refine Ledger.replay_trans looked (Ledger.replay_trans replayed ?_)
            rw [sent, original, List.erase_cons_head]
          · intro cannot
            obtain ⟨failed, breach⟩ := last.broken ⟨[.orig], gone⟩ (not_and.mp cannot can) (by simp [original])
            exact ⟨failed, (breach.after replayed).after looked⟩
        · rw [if_neg all] at set
          simp only [all, decide_false, Bool.false_eq_true, if_false] at run
          rw [set, run]
          refine ⟨fun _ => ⟨rfl, .orig :: gone, ?_⟩, fun broken => absurd can broken⟩
          exact Ledger.replay_trans looked (Ledger.replay_trans replayed (given gone _))
      · obtain ⟨⟨f, failed⟩, breach⟩ := loop.2 can
        rw [Logged.bind_error failed] at run
        have within : ∀ q ∈ clones env above, q ∈ served env skb.cb.vec := by
          intro q inside
          rw [set]
          split
          · exact List.mem_append_left _ ((List.takeWhile_prefix _).subset inside)
          · exact inside
        rw [run]
        exact ⟨fun all => absurd (fun q inside => all q (within q inside)) can,
          fun _ => ⟨⟨f, rfl⟩, breach.after looked⟩⟩

end Tracked
end Delivery

variable [Jiffies τ] {s : Ubr τ} {now : τ} {env : FrameEnv} {skb : Skb}

namespace Tracked

/-- `ubr_forward` returned true: its caller still has the buffer. -/
def handsBack (run : Tracked (Ubr τ × Bool)) : Bool :=
  match run.res with
  | .ok (_, handed) => handed
  | .error _ => false

theorem ubrForward_unread {allow : Bool} {copy : Skb} {f : Fault}
    (ingress : UnassumingBridge.ubrVlanIngress cfg s env skb = .ok (allow, some copy))
    (ctrl : copy.cb.ctrl = false) (read : s.vlanAt copy.cb.vlan = .error f) :
    ubrForward cfg s now env skb = ⟨[.touch skb.buf, .touch skb.buf], .error f⟩ := by
  simp only [ubrForward, ubrVlanIngress, ingress]
  rw [Logged.bind_ok rfl, Logged.bind_ok rfl]
  simp only [ctrl, read]
  rfl

theorem ubrForward_kept {allow : Bool} {copy : Skb} {vlan : UbrVlan}
    (ingress : UnassumingBridge.ubrVlanIngress cfg s env skb = .ok (allow, some copy))
    (ctrl : copy.cb.ctrl = false) (read : s.vlanAt copy.cb.vlan = .ok vlan) :
    ubrForward cfg s now env skb =
      ((⟨[.touch skb.buf, .touch skb.buf, .touch copy.buf], .ok ()⟩ : Tracked Unit) >>= fun _ =>
        (if allow then ubrDeliver cfg { s with fdb := ubrFdbLearned s.fdb now env vlan copy } env
            (ubrFdbForward cfg s.fdb now env vlan copy).2
          else consume (.free copy.buf)) >>= fun _ =>
          pure ({ s with fdb := ubrFdbLearned s.fdb now env vlan copy }, false)) := by
  simp only [ubrForward, ubrVlanIngress, ingress]
  rw [Logged.bind_ok rfl, Logged.bind_ok rfl]
  simp only [ctrl, read]
  cases allow with
  | false => rfl
  | true => rfl

theorem ubrForward_handedBack {allow : Bool} {copy : Skb}
    (ingress : UnassumingBridge.ubrVlanIngress cfg s env skb = .ok (allow, some copy))
    (ctrl : copy.cb.ctrl = true) : (ubrForward cfg s now env skb).res = .ok (s, true) := by
  simp only [ubrForward, ubrVlanIngress, ingress]
  rw [Logged.bind_ok rfl, Logged.bind_ok rfl]
  simp only [ctrl]
  rfl

end Tracked

/-- For a frame that its ingress stage keeps and accepts, all that matters is its copies. -/
theorem sound_accepted {copy : Skb} {vlan : UbrVlan}
    (ingress : ubrVlanIngress cfg s env skb = .ok (true, some copy)) (read : s.vlanAt copy.cb.vlan = .ok vlan) :
    Sound cfg s now env skb ↔
      ∀ q ∈ served env (ubrFdbForward cfg s.fdb now env vlan copy).2.cb.vec, CanSend cfg s env vlan copy q := by
  obtain ⟨fit, found⟩ := ingress_keeps.mp ⟨true, copy, vlan, ingress, read⟩
  have vec : (ubrFdbForward cfg s.fdb now env vlan copy).2.cb.vec = copy.cb.vec.and (destinationPorts cfg
      (ubrFdbLearned s.fdb now env vlan copy) now env vlan copy) := by
    rw [← ubrFdbFilter_eq]
    rfl
  rw [vec]
  refine ⟨fun sound => sound.sends copy vlan ingress read, fun sends => ⟨fit, found, ?_⟩⟩
  intro copy' vlan' ingress' read'
  cases ingress.symm.trans ingress'
  cases read.symm.trans read'
  exact sends

/-- The ingress stage keeps the frame, and if it accepts it the copies can be sent. -/
def passes (cfg : Config) (s : Ubr τ) (now : τ) (env : FrameEnv) (skb : Skb) : Bool :=
  match ubrVlanIngress cfg s env skb with
  | .ok (allow, some copy) =>
      match s.vlanAt copy.cb.vlan with
      | .ok vlan => !allow ||
          (served env (ubrFdbForward cfg s.fdb now env vlan copy).2.cb.vec).all fun q =>
            decide (CanSend cfg s env vlan copy q)
      | .error _ => false
  | _ => false

theorem passes_iff : passes cfg s now env skb = true ↔ Sound cfg s now env skb := by
  simp only [passes]
  constructor
  · intro passed
    split at passed
    · rename_i allow copy ingress
      split at passed
      · rename_i vlan read
        cases allow with
        | true => exact (sound_accepted ingress read).mpr (by simpa using passed)
        | false =>
            obtain ⟨keeps, found⟩ := ingress_keeps.mp ⟨false, copy, vlan, ingress, read⟩
            refine ⟨keeps, found, ?_⟩
            intro copy' vlan' accepted
            cases ingress.symm.trans accepted
      · cases passed
    · cases passed
  · intro sound
    obtain ⟨allow, copy, vlan, ingress, read⟩ := ingress_keeps.mpr ⟨sound.keeps, sound.vlan⟩
    simp only [ingress, read]
    cases allow with
    | true => simpa using (sound_accepted ingress read).mp sound
    | false => rfl

instance : Decidable (Sound cfg s now env skb) := decidable_of_iff _ passes_iff

private theorem looked (original : skb.buf = .orig) (times : Nat) : Ledger.replay ⟨[.orig], []⟩
    (List.replicate times (.touch skb.buf : SkbHandling)) = some ⟨[.orig], []⟩ := by
  have own : ∀ c ∈ List.replicate times Buf.orig, c = Buf.orig := fun c inside => List.eq_of_mem_replicate inside
  have replayed := Tracked.replay_looks (L := ⟨[.orig], []⟩) (List.replicate times .orig) List.mem_cons_self own
  rw [List.map_replicate] at replayed
  rw [original]
  exact replayed

theorem sound_finishes (sound : Sound cfg s now env skb) :
    ∃ out, (ubrForward cfg s now env skb).res = .ok out := by
  obtain ⟨allow, copy, vlan, ingress, read⟩ := ingress_keeps.mpr ⟨sound.keeps, sound.vlan⟩
  cases ctrl : copy.cb.ctrl with
  | true =>
      refine ⟨(s, true), ?_⟩
      simp only [ubrForward, ingress, Logged.lift_ok_bind, ctrl]
      rfl
  | false =>
      cases allow with
      | false => exact ⟨_, congrArg Logged.res (ubrForward_rejected ingress ctrl read)⟩
      | true =>
          have sends : (ubrDeliver cfg { s with fdb := ubrFdbLearned s.fdb now env vlan copy } env
              (ubrFdbForward cfg s.fdb now env vlan copy).2).res = .ok () :=
            ubrDeliver_sends read fun q inside =>
              (canSend_forwarded now _ copy q).mpr ((sound_accepted ingress read).mp sound q inside)
          rw [ubrForward_accepted ingress ctrl read, Logged.bind_ok sends]
          exact ⟨_, rfl⟩

/-- Unless the frame is handed back, forwarding consumes every buffer once if and only if
    nothing gets in the way. -/
theorem buffers_consumed_once_iff (original : skb.buf = .orig)
    (kept : Tracked.handsBack (Tracked.ubrForward cfg s now env skb) = false) :
    TakenOnce .orig (Tracked.ubrForward cfg s now env skb).log ↔ Sound cfg s now env skb := by
  have keeps (sound : Sound cfg s now env skb) := ingress_keeps.mpr ⟨sound.keeps, sound.vlan⟩
  have broken {log : List SkbHandling} (unsound : ¬ Sound cfg s now env skb)
      (breach : Ledger.Breach ⟨[.orig], []⟩ log) : TakenOnce .orig log ↔ Sound cfg s now env skb :=
    iff_of_false breach.not_takenOnce unsound
  cases ingress : ubrVlanIngress cfg s env skb with
  | error f =>
      have run : Tracked.ubrForward cfg s now env skb = ⟨[.touch skb.buf], .error f⟩ := by
        simp only [Tracked.ubrForward, Tracked.ubrVlanIngress, ingress]
        rfl
      rw [run]
      refine broken ?_ (.inr ⟨_, .orig, looked original 1, List.mem_cons_self⟩)
      intro sound
      obtain ⟨_, _, _, ingress', _⟩ := keeps sound
      cases ingress.symm.trans ingress'
  | ok out =>
      obtain ⟨allow, left⟩ := out
      cases left with
      | none =>
          have run : Tracked.ubrForward cfg s now env skb =
              ⟨[.touch skb.buf, .take skb.buf none, .touch skb.buf], .error .useAfterFree⟩ := by
            simp only [Tracked.ubrForward, Tracked.ubrVlanIngress, ingress]
            rfl
          rw [run]
          refine broken ?_ (.inl ⟨[.touch skb.buf, .take skb.buf none], .touch skb.buf, [], ⟨[], [.orig]⟩, rfl,
            by simp [Ledger.replay, Ledger.book, original], by simp [original]⟩)
          intro sound
          obtain ⟨_, _, _, ingress', _⟩ := keeps sound
          cases ingress.symm.trans ingress'
      | some copy =>
          have buffer : copy.buf = .orig := (ubrVlanIngress_cases ingress).same.buf.trans original
          have ctrl : copy.cb.ctrl = false := by
            apply Bool.eq_false_iff.mpr
            intro ctrl
            rw [Tracked.handsBack, Tracked.ubrForward_handedBack ingress ctrl] at kept
            cases kept
          cases read : s.vlanAt copy.cb.vlan with
          | error f =>
              rw [Tracked.ubrForward_unread ingress ctrl read, original]
              refine broken ?_ (.inr ⟨_, .orig, original ▸ looked original 2, List.mem_cons_self⟩)
              intro sound
              obtain ⟨_, _, _, ingress', read'⟩ := keeps sound
              cases ingress.symm.trans ingress'
              cases read.symm.trans read'
          | ok vlan =>
              have started := original ▸ looked original 3
              rw [Tracked.ubrForward_kept ingress ctrl read, original, buffer, Logged.bind_ok rfl]
              cases allow with
              | false =>
                  obtain ⟨fit, found⟩ := ingress_keeps.mp ⟨false, copy, vlan, ingress, read⟩
                  have done : Ledger.replay ⟨[.orig], []⟩ [.touch .orig, .touch .orig, .touch .orig,
                      (.take .orig (some (.free .orig)) : SkbHandling)] = some ⟨[], [.orig]⟩ := by
                    simp [Ledger.replay, Ledger.book]
                  refine iff_of_true (Ledger.takenOnce_of_replay done) ⟨fit, found, ?_⟩
                  intro other vlan' accepted
                  cases ingress.symm.trans accepted
              | true =>
                  have sound : Sound cfg s now env skb ↔ _ := sound_accepted ingress read
                  have follows : ({ s with fdb := ubrFdbLearned s.fdb now env vlan copy } : Ubr τ).vlanAt
                      (ubrFdbForward cfg s.fdb now env vlan copy).2.cb.vlan = .ok vlan := read
                  obtain ⟨fine, broke⟩ := Tracked.ubrDeliver_gives cfg env follows buffer
                  simp only [canSend_forwarded] at fine broke
                  rw [if_pos rfl]
                  by_cases sends : ∀ q ∈ served env (ubrFdbForward cfg s.fdb now env vlan copy).2.cb.vec,
                      CanSend cfg s env vlan copy q
                  · obtain ⟨done, gone, replayed⟩ := fine sends
                    rw [Logged.bind_ok done, Logged.pure_log, List.append_nil]
                    have whole := Ledger.takenOnce_of_replay (Ledger.replay_trans started replayed)
                    exact iff_of_true (by simpa using whole) (sound.mpr sends)
                  · obtain ⟨⟨f, failed⟩, breach⟩ := broke sends
                    rw [Logged.bind_error failed]
                    exact broken (fun sound' => sends (sound.mp sound')) (breach.after started)

/-- A broadcast of the host on a bridge with two ports, the first clone of which fails:
    the buffer is freed. -/
theorem buffers_consumed_once_x86 :
    ∃ s : Sys Nat, Reachable (bridge Nat x86) s ∧
      Tracked.handsBack (Tracked.ubrForward x86 s.ubr s.jiffies { cloneFails := fun q => q = 2 }
        (s.onPort 0 broadcastFrame)) = false ∧
      TakenOnce .orig (Tracked.ubrForward x86 s.ubr s.jiffies { cloneFails := fun q => q = 2 }
        (s.onPort 0 broadcastFrame)).log := by
  obtain ⟨tr, s, run, test⟩ := run_booted x86 (fun _ _ => True) [.portAdd 1 {}, .portAdd 2 {}]
    (fun _ s => !Tracked.handsBack (Tracked.ubrForward x86 s.ubr s.jiffies { cloneFails := fun q => q = 2 }
      (s.onPort 0 broadcastFrame)) &&
      passes x86 s.ubr s.jiffies { cloneFails := fun q => q = 2 } (s.onPort 0 broadcastFrame))
    (by decide +kernel)
  simp only [Bool.and_eq_true, Bool.not_eq_true'] at test
  exact ⟨s, run.reachable, test.1, (buffers_consumed_once_iff rfl test.1).mpr (passes_iff.mp test.2)⟩

/-- A frame of the host that ends in its VLAN header; the length of the MAC header is not set. -/
def truncatedFrame : Skb := { broadcastFrame with frame.hProto := 0x8100, protocol := x86.htons 0x8100, macLen := 0 }

/-- The log handles a buffer that it has given away. -/
def touchesTaken (log : List SkbHandling) : Bool :=
  (Ledger.replay ⟨[.orig], []⟩ log.dropLast).any fun L => log.getLast?.any fun op => decide (op.name ∈ L.gone)

theorem breach_of_touchesTaken {log : List SkbHandling} (touches : touchesTaken log = true) :
    Ledger.Breach ⟨[.orig], []⟩ log := by
  obtain ⟨L, replayed, taken⟩ := (Option.any_eq_true ..).mp touches
  obtain ⟨op, last, taken⟩ := (Option.any_eq_true ..).mp taken
  have split : log = log.dropLast ++ [op] := (List.dropLast_append_getLast? op last).symm
  exact .inl ⟨log.dropLast, op, [], L, split, replayed, of_decide_eq_true taken⟩

/-- The host sends a frame with a truncated VLAN header to the only port. -/
theorem buffer_is_used_after_free :
    ¬ ∀ s : Sys Nat, Reachable (bridge Nat x86) s → ∀ p, (s.ubr.ports p).dev.isSome → ∀ env skb,
      skb.buf = .orig →
      Tracked.handsBack (Tracked.ubrForward x86 s.ubr s.jiffies env (s.onPort p skb)) = false →
      TakenOnce .orig (Tracked.ubrForward x86 s.ubr s.jiffies env (s.onPort p skb)).log := by
  intro claim
  obtain ⟨tr, s, run, test⟩ := run_booted x86 (fun _ _ => True) [.portAdd 1 {}]
    (fun _ s => (s.ubr.ports 0).dev.isSome &&
      !Tracked.handsBack (Tracked.ubrForward x86 s.ubr s.jiffies {} (s.onPort 0 truncatedFrame)) &&
      touchesTaken (Tracked.ubrForward x86 s.ubr s.jiffies {} (s.onPort 0 truncatedFrame)).log)
    (by decide +kernel)
  simp only [Bool.and_eq_true, Bool.not_eq_true'] at test
  obtain ⟨⟨plugged, kept⟩, touches⟩ := test
  exact (breach_of_touchesTaken touches).not_takenOnce
    (claim s run.reachable 0 plugged {} truncatedFrame rfl kept)

end UnassumingBridge
