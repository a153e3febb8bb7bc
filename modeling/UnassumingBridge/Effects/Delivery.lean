import UnassumingBridge.Effects.Forward

/-! # What delivery does with buffers

The egress stage of one copy, the loop over the copies, and what the log says
when they have run.
-/

namespace UnassumingBridge

open Support

variable {τ : Type} {cfg : Config} {s : Ubr τ} {env : FrameEnv} {skb : Skb} {vlan : UbrVlan}

/-- What the tag stage of egress makes of a copy for slot `q`. -/
def egressCopy (cfg : Config) (env : FrameEnv) (vlanProto : BitVec 16) (vlan : UbrVlan) (atMac : Bool) (skb : Skb)
    (q : Pidx) : Skb :=
  if skb.cb.vlanFiltering then
    if q ∈ vlan.tagged then
      skbVlanPush cfg (env.pushFails q) atMac ⟨cfg.htons vlanProto, (skb.vlanTag.map VlanTag.tci).getD 0⟩ skb
    else vlanHwaccelClearTag skb
  else skb

/-- `__vlan_get_protocol` finds a protocol in the copy for slot `q`. For a port it
    reads from the MAC header on, for the host from behind it. -/
def FindsProtocol (cfg : Config) (env : FrameEnv) (vlanProto : BitVec 16) (vlan : UbrVlan) (skb : Skb)
    (q : Pidx) : Prop :=
  vlanGetProtocol cfg (q ≠ 0) (egressCopy cfg env vlanProto vlan (q ≠ 0) skb q) ≠ 0

/-- A copy for slot `q` can be given away. -/
def CanSend (cfg : Config) (s : Ubr τ) (env : FrameEnv) (vlan : UbrVlan) (skb : Skb) (q : Pidx) : Prop :=
  FindsProtocol cfg env s.vlanProto vlan skb q ∧ (q ≠ 0 → (s.ports q).dev.isSome)

instance (vlanProto : BitVec 16) (skb : Skb) (q : Pidx) : Decidable (FindsProtocol cfg env vlanProto vlan skb q) :=
  inferInstanceAs (Decidable (_ ≠ _))

instance (skb : Skb) (q : Pidx) : Decidable (CanSend cfg s env vlan skb q) :=
  inferInstanceAs (Decidable (FindsProtocol cfg env s.vlanProto vlan skb q ∧ (q ≠ 0 → (s.ports q).dev.isSome)))

theorem egressCopy_kept (vlanProto : BitVec 16) (atMac : Bool) (skb : Skb) (q : Pidx) :
    (egressCopy cfg env vlanProto vlan atMac skb q).buf = skb.buf ∧
      (egressCopy cfg env vlanProto vlan atMac skb q).dev = skb.dev := by
  simp only [egressCopy, skbVlanPush, vlanHwaccelClearTag, vlanHwaccelPutTag]
  split
  · split
    · split
      · exact ⟨rfl, rfl⟩
      · split
        · exact ⟨rfl, rfl⟩
        · exact ⟨rfl, rfl⟩
    · exact ⟨rfl, rfl⟩
  · exact ⟨rfl, rfl⟩

theorem egressCopy_buf (vlanProto : BitVec 16) (atMac : Bool) (skb : Skb) (q : Pidx) :
    (egressCopy cfg env vlanProto vlan atMac skb q).buf = skb.buf :=
  (egressCopy_kept vlanProto atMac skb q).1

theorem egressCopy_dev (vlanProto : BitVec 16) (atMac : Bool) (skb : Skb) (q : Pidx) :
    (egressCopy cfg env vlanProto vlan atMac skb q).dev = skb.dev :=
  (egressCopy_kept vlanProto atMac skb q).2

/-- The protocol is found by the tags and the bytes, whatever buffer they are in and
    wherever it is on its way to. -/
theorem egressProtocol_moved (vlanProto : BitVec 16) (atMac : Bool) (skb : Skb) (q : Pidx) (buf : Buf)
    (dev : Option Dev) (vec : UbrVec) :
    vlanGetProtocol cfg atMac (egressCopy cfg env vlanProto vlan atMac { skb with buf, dev, cb.vec := vec } q) =
      vlanGetProtocol cfg atMac (egressCopy cfg env vlanProto vlan atMac skb q) := by
  simp only [egressCopy, skbVlanPush, vlanHwaccelClearTag, vlanHwaccelPutTag]
  split
  · split
    · split
      · rfl
      · split
        · rfl
        · rfl
    · rfl
  · rfl

theorem findsProtocol_moved (vlanProto : BitVec 16) (skb : Skb) (q : Pidx) (buf : Buf) (dev : Option Dev)
    (vec : UbrVec) :
    FindsProtocol cfg env vlanProto vlan { skb with buf, dev, cb.vec := vec } q ↔
      FindsProtocol cfg env vlanProto vlan skb q := by
  simp only [FindsProtocol, egressProtocol_moved]

theorem canSend_moved (skb : Skb) (q : Pidx) (buf : Buf) (dev : Option Dev) (vec : UbrVec) :
    CanSend cfg s env vlan { skb with buf, dev, cb.vec := vec } q ↔ CanSend cfg s env vlan skb q := by
  simp only [CanSend, findsProtocol_moved]

namespace SkbEvent

def isDown (q : Pidx) : SkbEvent → Bool
  | .down p _ _ => p == q
  | _ => false

def isUp : SkbEvent → Bool
  | .up _ => true
  | _ => false

def isFree : SkbEvent → Bool
  | .free _ => true
  | _ => false

end SkbEvent

/-- The log sends one copy to each port of the set, port 0 being the host, and frees
    the frame once when there is none. -/
structure DeliveredTo (vec : UbrVec) (log : List SkbEvent) : Prop where
  down q : log.countP (SkbEvent.isDown q) = if q ∈ vec ∧ q ≠ 0 then 1 else 0
  up : log.countP SkbEvent.isUp = if 0 ∈ vec then 1 else 0
  freed : log.countP SkbEvent.isFree = if ∀ q, q ∉ vec then 1 else 0

theorem ubrEgressTag_eq (read : s.vlanAt skb.cb.vlan = .ok vlan) (atMac : Bool) (q : Pidx) :
    ubrEgressTag cfg s env atMac skb q = .ok (egressCopy cfg env s.vlanProto vlan atMac skb q) := by
  simp only [ubrEgressTag, egressCopy, read]
  split
  · rfl
  · rfl

theorem ubrCommonEgress_eq (skb : Skb) (read : s.vlanAt skb.cb.vlan = .ok vlan) (atMac : Bool) (q : Pidx) :
    ubrCommonEgress cfg s env atMac skb q =
      if vlanGetProtocol cfg atMac (egressCopy cfg env s.vlanProto vlan atMac skb q) = 0 then
        ⟨[.free skb.buf], .ok none⟩
      else ⟨[], .ok (some (egressCopy cfg env s.vlanProto vlan atMac skb q))⟩ := by
  have same : (egressCopy cfg env s.vlanProto vlan atMac skb q).buf = skb.buf := egressCopy_buf s.vlanProto atMac skb q
  rw [← same]
  simp only [ubrCommonEgress, ubrEgressTag_eq read]
  rw [Logged.bind_ok rfl]
  split
  · rfl
  · rfl

/-- The transmission of a copy through the device of slot `q`, if it has one. -/
def sentDown (cfg : Config) (env : FrameEnv) (s : Ubr τ) (vlan : UbrVlan) (skb : Skb) (q : Pidx) : Option SkbEvent :=
  (s.ports q).dev.map fun dev =>
    .down q dev (egressCopy cfg env s.vlanProto vlan true { skb with dev := some dev } q)

section Single

variable (skb : Skb) (read : s.vlanAt skb.cb.vlan = .ok vlan)
include read

theorem ubrDeliverDown_eq (q : Pidx) : ubrDeliverDown cfg s env skb q =
    if vlanGetProtocol cfg true (egressCopy cfg env s.vlanProto vlan true skb q) = 0 then
      ⟨[.free skb.buf], .error .useAfterFree⟩
    else match sentDown cfg env s vlan skb q with
      | none => ⟨[], .error .nullDeref⟩
      | some sent => ⟨[sent], .ok ()⟩ := by
  have protocol : vlanGetProtocol cfg true
      (egressCopy cfg env s.vlanProto vlan true { skb with dev := (s.ports q).dev } q) = _ :=
    egressProtocol_moved s.vlanProto true skb q skb.buf (s.ports q).dev skb.cb.vec
  simp only [ubrDeliverDown, ubrCommonEgress_eq { skb with dev := (s.ports q).dev } read]
  rw [← protocol]
  split
  · rfl
  · cases plugged : (s.ports q).dev with
    | none =>
        have gone : (egressCopy cfg env s.vlanProto vlan true { skb with dev := none } q).dev = none :=
          egressCopy_dev s.vlanProto true _ q
        rw [Logged.bind_ok rfl]
        simp only [gone, sentDown, plugged]
        rfl
    | some dev =>
        have there : (egressCopy cfg env s.vlanProto vlan true { skb with dev := some dev } q).dev = some dev :=
          egressCopy_dev s.vlanProto true _ q
        rw [Logged.bind_ok rfl]
        simp only [there, sentDown, plugged]
        rfl

theorem ubrDeliverUp_eq (cfg : Config) (env : FrameEnv) : ∃ copy,
    (∃ pktHost, copy =
      { egressCopy cfg env s.vlanProto vlan false { skb with dev := some s.dev } 0 with pktHost }) ∧
    ubrDeliverUp cfg s env skb =
      if vlanGetProtocol cfg false (egressCopy cfg env s.vlanProto vlan false skb 0) = 0 then
        ⟨[.free skb.buf], .error .useAfterFree⟩
      else ⟨[.up copy], .ok ()⟩ := by
  have protocol : vlanGetProtocol cfg false
      (egressCopy cfg env s.vlanProto vlan false { skb with dev := some s.dev } 0) = _ :=
    egressProtocol_moved s.vlanProto false skb 0 skb.buf (some s.dev) skb.cb.vec
  simp only [ubrDeliverUp, ubrCommonEgress_eq { skb with dev := some s.dev } read]
  rw [← protocol]
  split
  · exact ⟨_, ⟨false, rfl⟩, rfl⟩
  · exact ⟨_, ⟨_, rfl⟩, rfl⟩

theorem down_of_ubrDeliverDown {p q : Pidx} {dev : Dev} {copy : Skb}
    (sent : .down q dev copy ∈ (ubrDeliverDown cfg s env skb p).log) :
    q = p ∧ (s.ports q).dev = some dev ∧
      copy = egressCopy cfg env s.vlanProto vlan true { skb with dev := some dev } q := by
  rw [ubrDeliverDown_eq skb read] at sent
  split at sent
  · simp at sent
  · split at sent
    · cases sent
    · rename_i event sends
      simp only [List.mem_singleton] at sent
      subst sent
      obtain ⟨dev', plugged, same⟩ := Option.map_eq_some_iff.mp sends
      cases same
      exact ⟨rfl, plugged, rfl⟩

theorem not_down_of_ubrDeliverUp {q : Pidx} {dev : Dev} {copy : Skb} :
    .down q dev copy ∉ (ubrDeliverUp cfg s env skb).log := by
  obtain ⟨up, _, same⟩ := ubrDeliverUp_eq skb read cfg env
  rw [same]
  split
  · simp
  · simp

theorem down_of_ubrDeliverClones {q : Pidx} {dev : Dev} {copy : Skb} {l : List Pidx}
    (sent : .down q dev copy ∈ (ubrDeliverClones cfg s env skb l).log) :
    q ∈ l ∧ (s.ports q).dev = some dev ∧
      copy = egressCopy cfg env s.vlanProto vlan true { skb with buf := .clone q, dev := some dev } q := by
  induction l with
  | nil => cases sent
  | cons p rest ih =>
      simp only [ubrDeliverClones] at sent
      split at sent
      · cases sent
      · rcases Logged.mem_log_bind sent with first | ⟨_, _, later⟩
        · obtain ⟨rfl, plugged, same⟩ := down_of_ubrDeliverDown { skb with buf := .clone p } read first
          exact ⟨List.mem_cons_self, plugged, same⟩
        · obtain ⟨inside, plugged, same⟩ := ih later
          exact ⟨List.mem_cons_of_mem p inside, plugged, same⟩

theorem down_of_ubrDeliver {q : Pidx} {dev : Dev} {copy : Skb}
    (sent : .down q dev copy ∈ (ubrDeliver cfg s env skb).log) :
    q ∈ skb.cb.vec ∧ (s.ports q).dev = some dev ∧
      ∃ buf, copy = egressCopy cfg env s.vlanProto vlan true { skb with buf, dev := some dev } q := by
  simp only [ubrDeliver] at sent
  split at sent
  · simp at sent
  · rename_i first lowest
    rcases Logged.mem_log_bind sent with clone | ⟨cloned, _, last⟩
    · obtain ⟨above, plugged, same⟩ := down_of_ubrDeliverClones skb read clone
      exact ⟨(Bitmap.mem_iff_first lowest).mpr (.inr above), plugged, .clone q, same⟩
    · split at last
      · split at last
        · exact absurd last (not_down_of_ubrDeliverUp skb read)
        · obtain ⟨rfl, plugged, same⟩ := down_of_ubrDeliverDown skb read last
          exact ⟨Bitmap.mem_of_findFirst lowest, plugged, skb.buf, same⟩
      · simp at last

end Single

theorem not_up_of_ubrDeliverDown (skb : Skb) (read : s.vlanAt skb.cb.vlan = .ok vlan) (q : Pidx) (copy : Skb) :
    .up copy ∉ (ubrDeliverDown cfg s env skb q).log := by
  rw [ubrDeliverDown_eq skb read]
  unfold sentDown
  split
  · simp
  · cases (s.ports q).dev with
    | none => simp
    | some dev => simp

theorem not_up_of_ubrDeliverClones {skb : Skb} (read : s.vlanAt skb.cb.vlan = .ok vlan) {l : List Pidx} {copy : Skb} :
    .up copy ∉ (ubrDeliverClones cfg s env skb l).log := by
  induction l with
  | nil => exact List.not_mem_nil
  | cons q rest ih =>
      intro sent
      simp only [ubrDeliverClones] at sent
      split at sent
      · cases sent
      · rcases Logged.mem_log_bind sent with first | ⟨_, _, later⟩
        · exact not_up_of_ubrDeliverDown { skb with buf := .clone q } read q copy first
        · exact ih later

theorem up_of_ubrDeliver {skb : Skb} (read : s.vlanAt skb.cb.vlan = .ok vlan) {copy : Skb}
    (sent : .up copy ∈ (ubrDeliver cfg s env skb).log) :
    ∃ pktHost, copy = { egressCopy cfg env s.vlanProto vlan false { skb with dev := some s.dev } 0 with pktHost } := by
  simp only [ubrDeliver] at sent
  split at sent
  · simp at sent
  · rcases Logged.mem_log_bind sent with clone | ⟨cloned, _, last⟩
    · exact absurd clone (not_up_of_ubrDeliverClones read)
    · split at last
      · split at last
        · obtain ⟨up, ⟨pktHost, made⟩, same⟩ := ubrDeliverUp_eq skb read cfg env
          rw [same] at last
          split at last
          · simp at last
          · have sent : copy = up := by simpa using last
            exact ⟨pktHost, sent.trans made⟩
        · exact absurd last (not_up_of_ubrDeliverDown _ read _ _)
      · simp at last

/-- What a frame sends down is the accepted frame, tagged for its port. -/
theorem down_of_ubrForward [Jiffies τ] {now : τ} {skb copy c : Skb} {q : Pidx} {dev : Dev}
    (accepted : ubrVlanIngress cfg s env skb = .ok (true, some copy)) (ctrl : copy.cb.ctrl = false)
    (read : s.vlanAt copy.cb.vlan = .ok vlan) (sent : .down q dev c ∈ (ubrForward cfg s now env skb).log) :
    (s.ports q).dev = some dev ∧ ∃ buf, c = egressCopy cfg env s.vlanProto vlan true
      { (ubrFdbForward cfg s.fdb now env vlan copy).2 with buf, dev := some dev } q := by
  have follows : ({ s with fdb := ubrFdbLearned s.fdb now env vlan copy } : Ubr τ).vlanAt
      (ubrFdbForward cfg s.fdb now env vlan copy).2.cb.vlan = .ok vlan := read
  rw [ubrForward_accepted accepted ctrl read] at sent
  rcases Logged.mem_log_bind sent with delivery | ⟨_, _, later⟩
  · exact (down_of_ubrDeliver _ follows delivery).2
  · cases later

/-- What a frame hands up is the accepted frame, tagged for the host. -/
theorem up_of_ubrForward [Jiffies τ] {now : τ} {skb copy c : Skb}
    (accepted : ubrVlanIngress cfg s env skb = .ok (true, some copy)) (ctrl : copy.cb.ctrl = false)
    (read : s.vlanAt copy.cb.vlan = .ok vlan) (sent : .up c ∈ (ubrForward cfg s now env skb).log) :
    ∃ pktHost, c = { egressCopy cfg env s.vlanProto vlan false
      { (ubrFdbForward cfg s.fdb now env vlan copy).2 with dev := some s.dev } 0 with pktHost } := by
  have follows : ({ s with fdb := ubrFdbLearned s.fdb now env vlan copy } : Ubr τ).vlanAt
      (ubrFdbForward cfg s.fdb now env vlan copy).2.cb.vlan = .ok vlan := read
  rw [ubrForward_accepted accepted ctrl read] at sent
  rcases Logged.mem_log_bind sent with delivery | ⟨_, _, later⟩
  · exact up_of_ubrDeliver follows delivery
  · cases later

theorem countP_sentDown {skb : Pidx → Skb} {test : SkbEvent → Bool} (ofPort : Pidx → Bool)
    (agree : ∀ q dev copy, test (.down q dev copy) = ofPort q) {l : List Pidx}
    (plugged : ∀ q ∈ l, (s.ports q).dev.isSome) :
    (l.filterMap fun q => sentDown cfg env s vlan (skb q) q).countP test = l.countP ofPort := by
  induction l with
  | nil => rfl
  | cons q rest ih =>
      obtain ⟨dev, here⟩ := Option.isSome_iff_exists.mp (plugged q List.mem_cons_self)
      have later := ih fun p inside => plugged p (List.mem_cons_of_mem q inside)
      simp only [List.filterMap_cons, sentDown, here, Option.map_some, List.countP_cons, agree] at later ⊢
      rw [later]

section Whole

variable (skb : Skb) (read : s.vlanAt skb.cb.vlan = .ok vlan)
include read

theorem ubrDeliverDown_sends {q : Pidx} {sent : SkbEvent} (other : q ≠ 0)
    (finds : FindsProtocol cfg env s.vlanProto vlan skb q) (sends : sentDown cfg env s vlan skb q = some sent) :
    ubrDeliverDown cfg s env skb q = ⟨[sent], .ok ()⟩ := by
  have found : vlanGetProtocol cfg true (egressCopy cfg env s.vlanProto vlan true skb q) ≠ 0 := by
    simpa [FindsProtocol, other] using finds
  rw [ubrDeliverDown_eq skb read, if_neg found, sends]

theorem ubrDeliverDown_plugged {q : Pidx} (other : q ≠ 0) (can : CanSend cfg s env vlan skb q) :
    ∃ sent, ubrDeliverDown cfg s env skb q = ⟨[sent], .ok ()⟩ := by
  obtain ⟨dev, plugged⟩ := Option.isSome_iff_exists.mp (can.2 other)
  exact ⟨_, ubrDeliverDown_sends skb read other can.1 (congrArg (Option.map _) plugged)⟩

/-- A copy that cannot be given away is the end of the pipeline. -/
theorem ubrDeliverDown_fails {q : Pidx} (other : q ≠ 0) (cannot : ¬ CanSend cfg s env vlan skb q) :
    ∃ f, (ubrDeliverDown cfg s env skb q).res = .error f := by
  rw [ubrDeliverDown_eq skb read]
  split
  · exact ⟨.useAfterFree, rfl⟩
  · rename_i found
    have finds : FindsProtocol cfg env s.vlanProto vlan skb q := by simpa [FindsProtocol, other] using found
    have gone : (s.ports q).dev = none := by
      cases plugged : (s.ports q).dev with
      | none => rfl
      | some dev => exact absurd ⟨finds, fun _ => by rw [plugged]; rfl⟩ cannot
    rw [sentDown, gone]
    exact ⟨.nullDeref, rfl⟩

theorem ubrDeliverUp_sends (finds : FindsProtocol cfg env s.vlanProto vlan skb 0) :
    ∃ copy, ubrDeliverUp cfg s env skb = ⟨[.up copy], .ok ()⟩ := by
  obtain ⟨copy, _, up⟩ := ubrDeliverUp_eq skb read cfg env
  exact ⟨copy, up.trans (if_neg finds)⟩

theorem ubrDeliverUp_fails (cannot : ¬ CanSend cfg s env vlan skb 0) :
    ∃ f, (ubrDeliverUp cfg s env skb).res = .error f := by
  obtain ⟨copy, _, up⟩ := ubrDeliverUp_eq skb read cfg env
  have lost : vlanGetProtocol cfg false (egressCopy cfg env s.vlanProto vlan false skb 0) = 0 := by
    by_contra found
    exact cannot ⟨found, fun host => absurd rfl host⟩
  rw [up, if_pos lost]
  exact ⟨.useAfterFree, rfl⟩

/-- The final delivery, of the original buffer, when it can be given away. -/
theorem deliverLast_sends {first : Pidx} (can : CanSend cfg s env vlan skb first) :
    ∃ last : SkbEvent, (if first = 0 then ubrDeliverUp cfg s env skb else ubrDeliverDown cfg s env skb first) =
        ⟨[last], .ok ()⟩ ∧
      (∀ q, last.isDown q = decide (q = first ∧ q ≠ 0)) ∧ last.isUp = decide (first = 0) ∧
      last.isFree = false := by
  by_cases host : first = 0
  · subst host
    obtain ⟨copy, up⟩ := ubrDeliverUp_sends skb read can.1
    exact ⟨.up copy, by simp [up], by simp [SkbEvent.isDown], by simp [SkbEvent.isUp], rfl⟩
  · obtain ⟨dev, here⟩ := Option.isSome_iff_exists.mp (can.2 host)
    have sends : sentDown cfg env s vlan skb first = some _ := congrArg (Option.map _) here
    rw [if_neg host, ubrDeliverDown_sends skb read host can.1 sends]
    refine ⟨_, rfl, ?_, ?_, rfl⟩
    · intro q
      simp only [SkbEvent.isDown]
      grind
    · simp [SkbEvent.isUp, host]

variable (cloned : ∀ q, env.cloneFails q = false)
include cloned

theorem ubrDeliverClones_sends_all {l : List Pidx} (others : ∀ q ∈ l, q ≠ 0)
    (can : ∀ q ∈ l, CanSend cfg s env vlan skb q) :
    ubrDeliverClones cfg s env skb l =
      ⟨l.filterMap fun q => sentDown cfg env s vlan { skb with buf := .clone q } q, .ok true⟩ := by
  induction l with
  | nil => rfl
  | cons q rest ih =>
      have here := can q List.mem_cons_self
      have other := others q List.mem_cons_self
      obtain ⟨dev, plugged⟩ := Option.isSome_iff_exists.mp (here.2 other)
      have sends : sentDown cfg env s vlan { skb with buf := .clone q } q = some _ :=
        congrArg (Option.map _) plugged
      have finds : FindsProtocol cfg env s.vlanProto vlan { skb with buf := .clone q } q :=
        (findsProtocol_moved s.vlanProto skb q (.clone q) skb.dev skb.cb.vec).mpr here.1
      have later := ih (fun p inside => others p (List.mem_cons_of_mem q inside))
        fun p inside => can p (List.mem_cons_of_mem q inside)
      simp only [ubrDeliverClones, cloned q, Bool.false_eq_true, if_false, List.filterMap_cons, sends]
      rw [ubrDeliverDown_sends { skb with buf := .clone q } read other finds sends, Logged.bind_ok rfl, later]
      rfl

theorem ubrDeliverClones_fails {l : List Pidx} (others : ∀ q ∈ l, q ≠ 0) {q : Pidx} (inside : q ∈ l)
    (cannot : ¬ CanSend cfg s env vlan skb q) : ∃ f, (ubrDeliverClones cfg s env skb l).res = .error f := by
  induction l with
  | nil => cases inside
  | cons p rest ih =>
      have other := others p List.mem_cons_self
      have moved : CanSend cfg s env vlan { skb with buf := .clone p } p ↔ CanSend cfg s env vlan skb p :=
        canSend_moved skb p (.clone p) skb.dev skb.cb.vec
      simp only [ubrDeliverClones, cloned p, Bool.false_eq_true, if_false]
      by_cases can : CanSend cfg s env vlan skb p
      · have later : q ∈ rest := by
          rcases List.mem_cons.mp inside with rfl | later
          · exact absurd can cannot
          · exact later
        have here := moved.mpr can
        obtain ⟨dev, plugged⟩ := Option.isSome_iff_exists.mp (here.2 other)
        have sends : sentDown cfg env s vlan { skb with buf := .clone p } p = some _ :=
          congrArg (Option.map _) plugged
        rw [ubrDeliverDown_sends { skb with buf := .clone p } read other here.1 sends, Logged.bind_ok rfl]
        exact ih (fun p inside => others p (List.mem_cons_of_mem _ inside)) later
      · obtain ⟨f, failed⟩ := ubrDeliverDown_fails { skb with buf := .clone p } read other (moved.not.mpr can)
        rw [Logged.bind_error failed]
        exact ⟨f, rfl⟩

theorem ubrDeliver_sends_all (can : ∀ q ∈ skb.cb.vec, CanSend cfg s env vlan skb q) :
    (ubrDeliver cfg s env skb).res = .ok () ∧ DeliveredTo skb.cb.vec (ubrDeliver cfg s env skb).log := by
  cases lowest : skb.cb.vec.findFirst with
  | none =>
      have alone := Bitmap.findFirst_eq_none.mp lowest
      simp only [ubrDeliver, lowest]
      exact ⟨rfl, fun q => by simp [SkbEvent.isDown, alone q], by simp [SkbEvent.isUp, alone 0],
        by simp [SkbEvent.isFree, alone]⟩
  | some first =>
      have members (q : Pidx) := Bitmap.mem_iff_first (j := q) lowest
      have single := skb.cb.vec.nodup_toList.filter (first < ·)
      have beyond (q : Pidx) (inside : q ∈ skb.cb.vec.toList.filter (first < ·)) : first < q := by
        simpa using (List.mem_filter.mp inside).2
      obtain ⟨last, final, isDown, isUp, isFree⟩ :=
        deliverLast_sends skb read (can first (Bitmap.mem_of_findFirst lowest))
      simp only [ubrDeliver, lowest]
      generalize skb.cb.vec.toList.filter (first < ·) = above at *
      have others (q : Pidx) (inside : q ∈ above) : q ≠ 0 := Fin.ne_zero_of_lt (beyond q inside)
      have guests (q : Pidx) (inside : q ∈ above) := can q ((members q).mpr (.inr inside))
      have plugged (q : Pidx) (inside : q ∈ above) : (s.ports q).dev.isSome := (guests q inside).2 (others q inside)
      rw [ubrDeliverClones_sends_all skb read cloned others guests, Logged.bind_ok rfl, if_pos rfl, final]
      refine ⟨rfl, ?_, ?_, ?_⟩ <;> simp only
      · intro q
        have once : above.countP (· == q) = if q ∈ above then 1 else 0 := single.count
        have apart : q ∈ above → q ≠ first ∧ q ≠ 0 := fun inside =>
          ⟨(ne_of_lt (beyond q inside)).symm, others q inside⟩
        rw [List.countP_append, countP_sentDown (· == q) (fun _ _ _ => rfl) plugged, once, List.countP_singleton,
          isDown q]
        simp only [members q]
        grind
      · have hosts : 0 ∈ skb.cb.vec ↔ first = 0 := by
          rw [members 0]
          constructor
          · rintro (same | inside)
            · exact same.symm
            · exact absurd (beyond 0 inside) (Fin.not_lt_zero first)
          · intro same
            exact .inl same.symm
        rw [List.countP_append, countP_sentDown (fun _ => false) (fun _ _ _ => rfl) plugged,
          List.countP_false, List.countP_singleton, isUp]
        simp [hosts]
      · rw [List.countP_append, countP_sentDown (fun _ => false) (fun _ _ _ => rfl) plugged,
          List.countP_false, List.countP_singleton, isFree]
        have someone : ¬ ∀ q, q ∉ skb.cb.vec := fun alone => alone first (Bitmap.mem_of_findFirst lowest)
        rw [if_neg someone]
        rfl

/-- Delivery does not survive a copy that cannot be given away. -/
theorem ubrDeliver_fails {q : Pidx} (inside : q ∈ skb.cb.vec) (cannot : ¬ CanSend cfg s env vlan skb q) :
    (ubrDeliver cfg s env skb).res ≠ .ok () := by
  intro done
  cases lowest : skb.cb.vec.findFirst with
  | none => exact absurd inside (Bitmap.findFirst_eq_none.mp lowest q)
  | some first =>
      have others (p : Pidx) (above : p ∈ skb.cb.vec.toList.filter (first < ·)) : p ≠ 0 := by
        have beyond : first < p := by simpa using (List.mem_filter.mp above).2
        exact Fin.ne_zero_of_lt beyond
      simp only [ubrDeliver, lowest] at done
      obtain ⟨finished, clones, last⟩ := Logged.res_bind_eq_ok done
      have guests (p : Pidx) (above : p ∈ skb.cb.vec.toList.filter (first < ·)) : CanSend cfg s env vlan skb p := by
        by_contra gone
        obtain ⟨f, failed⟩ := ubrDeliverClones_fails skb read cloned others above gone
        cases clones.symm.trans failed
      rcases (Bitmap.mem_iff_first lowest).mp inside with rfl | above
      · rw [ubrDeliverClones_sends_all skb read cloned others guests] at clones
        cases clones
        rw [if_pos rfl] at last
        by_cases host : q = 0
        · subst host
          obtain ⟨f, failed⟩ := ubrDeliverUp_fails skb read cannot
          rw [if_pos rfl, failed] at last
          cases last
        · obtain ⟨f, failed⟩ := ubrDeliverDown_fails skb read host cannot
          rw [if_neg host, failed] at last
          cases last
      · exact cannot (guests q above)

end Whole
end UnassumingBridge
