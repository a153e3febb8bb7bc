import Mathlib.Data.List.TakeWhile
import UnassumingBridge.DataPath.Buffers
import UnassumingBridge.DataPath.Classification
import UnassumingBridge.DataPath.Database

/-! # Ports without a PVID

The frames of a port that does not filter pass through the bridge as they are. Two such
frames between the same stations are on their way to the same ports, whatever tags they
carry, but the tags decide whether egress finds the protocol, and it lets go of a frame
where it does not. On the way to the host it looks for the tags in the wrong place.
-/

namespace UnassumingBridge

open Support

variable {τ : Type} {cfg : Config}

/-- The port that an event delivers a copy to. -/
def SkbEvent.port : SkbEvent → Option Pidx
  | .down q _ _ => some q
  | .up _ => some 0
  | .free _ => none

/-- The ports that got a copy, in order. -/
def deliverySet (log : List SkbEvent) : List Pidx := log.filterMap SkbEvent.port

/-- The same metadata tag and the same bytes from the destination address on. -/
structure SameOnWire (skb copy : Skb) : Prop where
  tag : copy.vlanTag = skb.vlanTag
  frame : copy.frame = skb.frame

/-- A copy that the event delivers is what was received. -/
def SkbEvent.Transparent (skb : Skb) : SkbEvent → Prop
  | .down _ _ copy | .up copy => SameOnWire skb copy
  | .free _ => True

/-- The helpers do the same for two frames. -/
structure SameHelpers (env env' : FrameEnv) : Prop where
  clones : env'.cloneFails = env.cloneFails
  alloc : env'.nodeAllocFails = env.nodeAllocFails
  insert : env'.nodeInsertFails = env.nodeInsertFails

/-- Two frames from and to the same stations, in buffers with the same control block. -/
structure SameStations (skb skb' : Skb) : Prop where
  hDest : skb'.frame.hDest = skb.frame.hDest
  hSource : skb'.frame.hSource = skb.frame.hSource
  cb : skb'.cb = skb.cb

theorem takeWhile_eq_iff {α : Type} {p p' : α → Bool} {l : List α} :
    l.takeWhile p' = l.takeWhile p ↔
      ∀ before a after, l = before ++ a :: after → (∀ b ∈ before, p b = true) → p' a = p a := by
  induction l with
  | nil => simp
  | cons x rest ih =>
      have head : (∀ before a after, x :: rest = before ++ a :: after → (∀ b ∈ before, p b = true) → p' a = p a) ↔
          p' x = p x ∧ (p x = true →
            ∀ before a after, rest = before ++ a :: after → (∀ b ∈ before, p b = true) → p' a = p a) := by
        constructor
        · intro agree
          refine ⟨agree [] x rest rfl nofun, fun passes before a after here earlier => ?_⟩
          exact agree (x :: before) a after (by rw [here]; rfl) (List.forall_mem_cons.mpr ⟨passes, earlier⟩)
        · rintro ⟨first, later⟩ before a after here earlier
          cases before with
          | nil =>
              cases here
              exact first
          | cons b before =>
              cases here
              obtain ⟨passes, earlier⟩ := List.forall_mem_cons.mp earlier
              exact later passes before a after rfl earlier
      rw [head, ← ih]
      cases first : p x <;> cases second : p' x <;> simp [first, second]

section Delivers

variable {s : Ubr τ} {env : FrameEnv} {vlan : UbrVlan} (skb : Skb) (read : s.vlanAt skb.cb.vlan = .ok vlan)

include read

theorem down_delivers (cfg : Config) (env : FrameEnv) {q : Pidx} (other : q ≠ 0) :
    deliverySet (ubrDeliverDown cfg s env skb q).log = if CanSend cfg s env vlan skb q then [q] else [] := by
  split
  · rename_i can
    obtain ⟨dev, plugged⟩ := Option.isSome_iff_exists.mp (can.2 other)
    rw [ubrDeliverDown_sends skb read other can.1 (congrArg (Option.map _) plugged)]
    rfl
  · rename_i cannot
    rw [ubrDeliverDown_eq skb read]
    split
    · rfl
    · rename_i found
      have finds : FindsProtocol cfg env s.vlanProto vlan skb q := by simpa [FindsProtocol, other] using found
      cases plugged : (s.ports q).dev with
      | none =>
          rw [sentDown, plugged]
          rfl
      | some dev => exact absurd ⟨finds, fun _ => by rw [plugged]; rfl⟩ cannot

theorem up_delivers :
    deliverySet (ubrDeliverUp cfg s env skb).log = if CanSend cfg s env vlan skb 0 then [0] else [] := by
  split
  · rename_i can
    obtain ⟨copy, up⟩ := ubrDeliverUp_sends skb read can.1
    rw [up]
    rfl
  · rename_i cannot
    obtain ⟨copy, _, up⟩ := ubrDeliverUp_eq skb read cfg env
    have lost : vlanGetProtocol cfg false (egressCopy cfg env s.vlanProto vlan false skb 0) = 0 := by
      by_contra found
      exact cannot ⟨found, fun host => absurd rfl host⟩
    rw [up, if_pos lost]
    rfl

theorem clones_deliver (cfg : Config) (env : FrameEnv) {l : List Pidx} (others : ∀ q ∈ l, q ≠ 0) :
    deliverySet (ubrDeliverClones cfg s env skb l).log =
        (clones env l).takeWhile (fun q => decide (CanSend cfg s env vlan skb q)) ∧
      ((∀ q ∈ clones env l, CanSend cfg s env vlan skb q) ∨
        ∃ f, (ubrDeliverClones cfg s env skb l).res = .error f) := by
  induction l with
  | nil => exact ⟨rfl, .inl (List.forall_mem_nil _)⟩
  | cons q rest ih =>
      cases fails : env.cloneFails q with
      | true =>
          have none : clones env (q :: rest) = [] := by simp [clones, fails]
          rw [none, ubrDeliverClones, if_pos fails]
          exact ⟨rfl, .inl (List.forall_mem_nil _)⟩
      | false =>
          have other := others q List.mem_cons_self
          have moved : CanSend cfg s env vlan { skb with buf := .clone q } q ↔ CanSend cfg s env vlan skb q :=
            canSend_moved skb q (.clone q) skb.dev skb.cb.vec
          have more : clones env (q :: rest) = q :: clones env rest := by simp [clones, fails]
          have here := down_delivers { skb with buf := .clone q } read cfg env other
          obtain ⟨later, ends⟩ := ih fun p inside => others p (List.mem_cons_of_mem q inside)
          simp only [ubrDeliverClones, fails, Bool.false_eq_true, if_false, more, List.takeWhile_cons]
          by_cases can : CanSend cfg s env vlan skb q
          · obtain ⟨event, sent⟩ := ubrDeliverDown_plugged { skb with buf := .clone q } read other (moved.mpr can)
            rw [if_pos (moved.mpr can), sent] at here
            rw [sent, Logged.bind_ok rfl, if_pos (decide_eq_true can), ← later]
            refine ⟨?_, ends.imp_left fun rest => List.forall_mem_cons.mpr ⟨can, rest⟩⟩
            simp only [deliverySet, List.filterMap_append] at here ⊢
            rw [here]
            rfl
          · obtain ⟨f, failed⟩ := ubrDeliverDown_fails { skb with buf := .clone q } read other (moved.not.mpr can)
            rw [if_neg (moved.not.mpr can)] at here
            rw [Logged.bind_error failed, decide_eq_false can]
            exact ⟨here, .inr ⟨f, rfl⟩⟩

theorem deliver_delivers (cfg : Config) (env : FrameEnv) : deliverySet (ubrDeliver cfg s env skb).log =
    (served env skb.cb.vec).takeWhile fun q => decide (CanSend cfg s env vlan skb q) := by
  cases lowest : skb.cb.vec.findFirst with
  | none =>
      simp only [ubrDeliver, served, lowest]
      rfl
  | some first =>
      have others (q : Pidx) (inside : q ∈ skb.cb.vec.toList.filter (first < ·)) : q ≠ 0 := by
        have above : first < q := by simpa using (List.mem_filter.mp inside).2
        exact Fin.ne_zero_of_lt above
      simp only [ubrDeliver, served, lowest]
      generalize skb.cb.vec.toList.filter (first < ·) = above at others
      obtain ⟨loop, ends⟩ := clones_deliver skb read cfg env others
      by_cases can : ∀ q ∈ clones env above, CanSend cfg s env vlan skb q
      · have passes : ∀ q ∈ clones env above, decide (CanSend cfg s env vlan skb q) = true := fun q inside =>
          decide_eq_true (can q inside)
        rw [List.takeWhile_eq_self_iff.mpr passes] at loop
        rw [Logged.bind_ok (ubrDeliverClones_sends skb read others can)]
        by_cases all : (clones env above).length = above.length
        · have last : deliverySet (if first = 0 then ubrDeliverUp cfg s env skb else
              ubrDeliverDown cfg s env skb first).log = if CanSend cfg s env vlan skb first then [first] else [] := by
            split
            · rename_i host
              subst host
              exact up_delivers skb read
            · rename_i other
              exact down_delivers skb read cfg env other
          rw [Tracked.clones_eq all] at loop passes
          rw [if_pos all, List.takeWhile_append_of_pos passes]
          simp only [all, decide_true, if_true, deliverySet, List.filterMap_append] at loop last ⊢
          rw [loop, last]
          by_cases sends : CanSend cfg s env vlan skb first
          · simp [sends]
          · simp [sends]
        · rw [if_neg all, List.takeWhile_eq_self_iff.mpr passes]
          simp only [all, decide_false, Bool.false_eq_true, if_false, deliverySet, List.filterMap_append] at loop ⊢
          rw [loop]
          exact List.append_nil _
      · obtain ⟨f, failed⟩ := ends.resolve_left can
        rw [Logged.bind_error failed, loop]
        split
        · rename_i all
          have short : ¬ ((above.takeWhile fun q => decide (CanSend cfg s env vlan skb q)).length = above.length) := by
            intro whole
            have passes := List.takeWhile_eq_self_iff.mp ((List.takeWhile_prefix _).eq_of_length whole)
            exact can fun q inside => of_decide_eq_true (passes q (Tracked.clones_eq all ▸ inside))
          rw [Tracked.clones_eq all, List.takeWhile_append, if_neg short]
        · rfl

end Delivers

theorem egressCopy_hub {skb : Skb} {env : FrameEnv} {vlan : UbrVlan} (hub : skb.cb.vlanFiltering = false)
    (vlanProto : BitVec 16) (atMac : Bool) (q : Pidx) : egressCopy cfg env vlanProto vlan atMac skb q = skb := by
  simp only [egressCopy, hub, Bool.false_eq_true, if_false]

/-- `__vlan_get_protocol` finds a protocol behind the tags of the frame, reading as it does
    for slot `q`. -/
def Skb.HasProtocol (cfg : Config) (skb : Skb) (q : Pidx) : Prop := vlanGetProtocol cfg (q ≠ 0) skb ≠ 0

/-- A frame that is not changed on its way can be given to slot `q`. -/
def Ubr.Gives (cfg : Config) (u : Ubr τ) (skb : Skb) (q : Pidx) : Prop :=
  skb.HasProtocol cfg q ∧ (q ≠ 0 → (u.ports q).dev.isSome)

instance (skb : Skb) (q : Pidx) : Decidable (skb.HasProtocol cfg q) :=
  inferInstanceAs (Decidable (_ ≠ _))

instance (u : Ubr τ) (skb : Skb) (q : Pidx) : Decidable (u.Gives cfg skb q) :=
  inferInstanceAs (Decidable (skb.HasProtocol cfg q ∧ (q ≠ 0 → (u.ports q).dev.isSome)))

section Stations

variable {fdb : UbrFdb τ} {now : τ} {env env' : FrameEnv} {vlan : UbrVlan} {skb skb' : Skb}

theorem served_same (helpers : SameHelpers env env') (vec : UbrVec) : served env' vec = served env vec := by
  unfold served clones
  rw [helpers.clones]

theorem learned_same (helpers : SameHelpers env env') (same : SameStations skb skb') :
    ubrFdbLearned fdb now env' vlan skb' = ubrFdbLearned fdb now env vlan skb := by
  simp only [ubrFdbLearned, ubrFdbLearn, same.hSource, same.cb, helpers.alloc, helpers.insert]

/-- The filter looks at the destination address, since groups are never found. -/
theorem filter_same [Jiffies τ] (ok : StationsOnly fdb) (same : SameStations skb skb') :
    ubrFdbFilter cfg fdb now env' vlan skb' = ubrFdbFilter cfg fdb now env vlan skb := by
  cases group : isMulticastEtherAddr skb.frame.hDest with
  | true =>
      have group' : isMulticastEtherAddr skb'.frame.hDest = true := by rw [same.hDest, group]
      rw [ok.filter_group group, ok.filter_group group', same.hDest]
  | false =>
      have group' : isMulticastEtherAddr skb'.frame.hDest = false := by rw [same.hDest, group]
      simp only [ubrFdbFilter, destKey_unicast group, destKey_unicast group', same.hDest]

end Stations

variable [Jiffies τ]

/-- The ports to which `ubr_deliver` turns with a frame of a port that does not filter. -/
def Ubr.hubServed (cfg : Config) (u : Ubr τ) (now : τ) (env : FrameEnv) (vlan : UbrVlan) (skb : Skb) : List Pidx :=
  served env ((skb.cb.vec.and vlan.members).and
    (ubrFdbFilter cfg (ubrFdbLearned u.fdb now env vlan skb) now env vlan skb))

/-- Wherever delivery of the first frame comes to a port, the helper that looks for the
    protocol does the same for both frames. -/
def Ubr.MeetsAlike (cfg : Config) (u : Ubr τ) (now : τ) (env : FrameEnv) (skb skb' : Skb) : Prop :=
  ∀ vlan, u.vlanAt skb.cb.vlan = .ok vlan → ∀ before q after,
    u.hubServed cfg now env vlan skb = before ++ q :: after → (∀ p ∈ before, u.Gives cfg skb p) →
    (q ≠ 0 → (u.ports q).dev.isSome) → (skb'.HasProtocol cfg q ↔ skb.HasProtocol cfg q)

section Forward

variable {u : Ubr τ} {now : τ} {env env' : FrameEnv} {skb skb' : Skb} {vlan : UbrVlan}
  (hub : skb.cb.vlanFiltering = false) (ctrl : skb.cb.ctrl = false)

include hub in
theorem forward_faulted {f : Fault} (fault : u.vlanAt skb.cb.vlan = .error f) :
    ubrForward cfg u now env skb = ⟨[], .error f⟩ := by
  have ingress : ubrVlanIngress cfg u env skb = .error f := ubrVlanIngress_hub_fault hub fault
  simp only [ubrForward, ingress]
  rfl

include hub ctrl

theorem forward_transparent {e : SkbEvent} (sent : e ∈ (ubrForward cfg u now env skb).log) : e.Transparent skb := by
  cases read : u.vlanAt skb.cb.vlan with
  | error f =>
      rw [forward_faulted hub read] at sent
      cases sent
  | ok vlan =>
      have ingress : ubrVlanIngress cfg u env skb = .ok (true, some _) := ubrVlanIngress_hub hub read
      cases e with
      | free buf => trivial
      | down q dev copy =>
          obtain ⟨_, buf, made⟩ := down_of_ubrForward ingress ctrl read sent
          have untouched := made.trans (egressCopy_hub (by exact hub) u.vlanProto true q)
          rw [untouched]
          exact ⟨rfl, rfl⟩
      | up copy =>
          obtain ⟨pktHost, made⟩ := up_of_ubrForward ingress ctrl read sent
          rw [egressCopy_hub (by exact hub) u.vlanProto false 0] at made
          rw [made]
          exact ⟨rfl, rfl⟩

theorem forward_delivers (read : u.vlanAt skb.cb.vlan = .ok vlan) :
    deliverySet (ubrForward cfg u now env skb).log =
      (u.hubServed cfg now env vlan skb).takeWhile fun q => decide (u.Gives cfg skb q) := by
  have ingress : ubrVlanIngress cfg u env skb = .ok (true, some _) := ubrVlanIngress_hub hub read
  obtain ⟨learned, follows⟩ : ∃ v : Ubr τ, v = { u with fdb := ubrFdbLearned u.fdb now env vlan skb } := ⟨_, rfl⟩
  obtain ⟨out, marked⟩ : ∃ out, out =
      (ubrFdbForward cfg u.fdb now env vlan { skb with cb.vec := skb.cb.vec.and vlan.members }).2 := ⟨_, rfl⟩
  have there : learned.vlanAt out.cb.vlan = .ok vlan := by
    rw [follows, marked]
    exact read
  have sends (q : Pidx) : CanSend cfg learned env vlan out q ↔ u.Gives cfg skb q := by
    rw [follows, marked]
    refine (canSend_moved skb q skb.buf skb.dev _).trans ?_
    simp only [CanSend, FindsProtocol, egressCopy_hub hub, Ubr.Gives, Skb.HasProtocol]
  have delivered := deliver_delivers out there cfg env
  rw [ubrForward_accepted ingress ctrl read, Logged.bind_pure_log]
  simp only [sends] at delivered
  rw [follows, marked] at delivered
  exact delivered

/-- Frames between the same stations reach the same ports exactly when they meet alike
    with the helper. -/
theorem forward_same_iff (ok : StationsOnly u.fdb) (helpers : SameHelpers env env') (same : SameStations skb skb') :
    deliverySet (ubrForward cfg u now env' skb').log = deliverySet (ubrForward cfg u now env skb).log ↔
      u.MeetsAlike cfg now env skb skb' := by
  have hub' : skb'.cb.vlanFiltering = false := by rw [same.cb, hub]
  have ctrl' : skb'.cb.ctrl = false := by rw [same.cb, ctrl]
  have follows : u.vlanAt skb'.cb.vlan = u.vlanAt skb.cb.vlan := by rw [same.cb]
  cases read : u.vlanAt skb.cb.vlan with
  | error f =>
      rw [forward_faulted hub read, forward_faulted hub' (follows.trans read)]
      refine iff_of_true rfl fun vlan there => ?_
      cases read.symm.trans there
  | ok vlan =>
      have turns : u.hubServed cfg now env' vlan skb' = u.hubServed cfg now env vlan skb := by
        have learned : ubrFdbLearned u.fdb now env' vlan skb' = ubrFdbLearned u.fdb now env vlan skb :=
          learned_same helpers same
        have stations : StationsOnly (ubrFdbLearned u.fdb now env vlan skb) := ok.learned
        have filter : ubrFdbFilter cfg (ubrFdbLearned u.fdb now env vlan skb) now env' vlan skb' =
            ubrFdbFilter cfg (ubrFdbLearned u.fdb now env vlan skb) now env vlan skb := filter_same stations same
        simp only [Ubr.hubServed, served_same helpers, learned, filter, same.cb]
      rw [forward_delivers hub ctrl read, forward_delivers hub' ctrl' (follows.trans read), turns, takeWhile_eq_iff]
      have alike (q : Pidx) : decide (u.Gives cfg skb' q) = decide (u.Gives cfg skb q) ↔
          ((q ≠ 0 → (u.ports q).dev.isSome) → (skb'.HasProtocol cfg q ↔ skb.HasProtocol cfg q)) := by
        rw [decide_eq_decide]
        exact and_congr_left_iff
      simp only [alike, decide_eq_true_eq, Ubr.MeetsAlike, read, Except.ok.injEq, forall_eq']

end Forward

omit [Jiffies τ] in
theorem SkbEvent.Transparent.of_onPort {s : Sys τ} {p : Pidx} {skb : Skb} {e : SkbEvent}
    (seen : e.Transparent (s.onPort p skb)) : e.Transparent skb := by
  cases e with
  | free buf => trivial
  | down q dev copy => exact ⟨seen.tag, seen.frame⟩
  | up copy => exact ⟨seen.tag, seen.frame⟩

/-- A port that does not filter passes every frame as it is, and two frames between the
    same stations reach the same ports exactly when the helper that looks for the protocol
    does the same for both at each port that delivery comes to. -/
theorem unfiltered_port_transparent {s : Sys τ} (reached : Reachable (bridge τ cfg) s) {p : Pidx}
    (hub : (s.ubr.ports p).ingressCb.vlanFiltering = false) (env : FrameEnv) (skb : Skb) :
    (∀ e ∈ (ubrForward cfg s.ubr s.jiffies env (s.onPort p skb)).log, e.Transparent skb) ∧
      ∀ env' skb', SameHelpers env env' → skb'.frame.hDest = skb.frame.hDest →
        skb'.frame.hSource = skb.frame.hSource →
        (deliverySet (ubrForward cfg s.ubr s.jiffies env' (s.onPort p skb')).log =
            deliverySet (ubrForward cfg s.ubr s.jiffies env (s.onPort p skb)).log ↔
          s.ubr.MeetsAlike cfg s.jiffies env (s.onPort p skb) (s.onPort p skb')) := by
  have ctrl : (s.onPort p skb).cb.ctrl = false := (slotOk_of_reachable reached p).ctrl
  have filtering : (s.onPort p skb).cb.vlanFiltering = false := hub
  constructor
  · intro e sent
    exact (forward_transparent filtering ctrl sent).of_onPort
  · intro env' skb' helpers hDest hSource
    have stations : StationsOnly s.ubr.fdb := stationsOnly_of_reachable (database_of_bridge reached)
    exact forward_same_iff filtering ctrl stations helpers ⟨hDest, hSource, rfl⟩

/-- An IPv6 packet from the unspecified address, as a station sends that asks whether an
    address is taken. -/
def unspecifiedFrame : Skb where
  frame :=
    { hDest := 0x3333ff000001
      hSource := 0x020000000099
      hProto := ethPIpv6
      payload := [0x60, 0, 0, 0, 0, 0, 59, 255] ++ List.replicate 16 0 ++
        [0xff, 0x02] ++ List.replicate 9 0 ++ [0x01, 0xff, 0x00, 0x00, 0x01] }
  protocol := x86.htons ethPIpv6

/-- The packet in two tags, the outer one of which is in the metadata already. -/
def stackedFrame : Skb :=
  { unspecifiedFrame with
    frame := unspecifiedFrame.frame.pushTag ethP8021q 7
    protocol := x86.htons ethP8021q
    vlanTag := some ⟨x86.htons ethP8021ad, 9⟩ }

/-- With two tags the frame reaches the second port, and no host. -/
theorem unfiltered_port_transparent_x86 : ∃ s : Sys Nat, Reachable (bridge Nat x86) s ∧
    (s.ubr.ports 1).ingressCb.vlanFiltering = false ∧
    deliverySet (ubrForward x86 s.ubr s.jiffies {} (s.onPort 1 stackedFrame)).log = [2] ∧
    (∀ e ∈ (ubrForward x86 s.ubr s.jiffies {} (s.onPort 1 stackedFrame)).log, e.Transparent stackedFrame) ∧
    ¬ s.ubr.MeetsAlike x86 s.jiffies {} (s.onPort 1 unspecifiedFrame) (s.onPort 1 stackedFrame) := by
  obtain ⟨tr, s, run, test⟩ := run_booted x86 (fun _ _ => True) [.portAdd 1 {}, .portAdd 2 {}]
    (fun _ s => !(s.ubr.ports 1).ingressCb.vlanFiltering &&
      deliverySet (ubrForward x86 s.ubr s.jiffies {} (s.onPort 1 unspecifiedFrame)).log == [2, 0] &&
      deliverySet (ubrForward x86 s.ubr s.jiffies {} (s.onPort 1 stackedFrame)).log == [2])
    (by decide +kernel)
  simp only [Bool.and_eq_true, Bool.not_eq_true', beq_iff_eq] at test
  obtain ⟨⟨hub, plain⟩, tagged⟩ := test
  obtain ⟨_, same⟩ := unfiltered_port_transparent run.reachable hub {} unspecifiedFrame
  obtain ⟨untouched, _⟩ := unfiltered_port_transparent run.reachable hub {} stackedFrame
  refine ⟨s, run.reachable, hub, tagged, untouched, fun alike => ?_⟩
  have equal := (same {} stackedFrame ⟨rfl, rfl, rfl⟩ rfl rfl).mpr alike
  rw [plain, tagged] at equal
  cases equal

/-- A C-tag in the packet keeps the frame from the host. -/
theorem host_misses_tagged_frame :
    ¬ ∀ s : Sys Nat, Reachable (bridge Nat x86) s → ∀ p, (s.ubr.ports p).ingressCb.vlanFiltering = false →
      ∀ env skb, skb.frame.Complete →
        (∀ e ∈ (ubrForward x86 s.ubr s.jiffies env (s.onPort p skb)).log, e.Transparent skb) ∧
        ∀ skb', skb'.frame.Complete → skb'.frame.hDest = skb.frame.hDest →
          skb'.frame.hSource = skb.frame.hSource →
          deliverySet (ubrForward x86 s.ubr s.jiffies env (s.onPort p skb')).log =
            deliverySet (ubrForward x86 s.ubr s.jiffies env (s.onPort p skb)).log := by
  intro claim
  obtain ⟨tr, s, run, test⟩ := run_booted x86 (fun _ _ => True) [.portAdd 1 {}]
    (fun _ s => !(s.ubr.ports 1).ingressCb.vlanFiltering &&
      deliverySet (ubrForward x86 s.ubr s.jiffies {} (s.onPort 1 unspecifiedFrame)).log == [0] &&
      deliverySet (ubrForward x86 s.ubr s.jiffies {} (s.onPort 1 stackedFrame)).log == [])
    (by decide +kernel)
  simp only [Bool.and_eq_true, Bool.not_eq_true', beq_iff_eq] at test
  obtain ⟨⟨hub, plain⟩, tagged⟩ := test
  have equal := (claim s run.reachable 1 hub {} unspecifiedFrame rfl).2 stackedFrame rfl rfl rfl
  rw [plain, tagged] at equal
  cases equal

end UnassumingBridge
