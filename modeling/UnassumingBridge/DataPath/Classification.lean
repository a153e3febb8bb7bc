import UnassumingBridge.DataPath.Tagging
import UnassumingBridge.DataPath.Buffers

/-! # Which VLAN a frame is in

The VLAN of a frame is the one its outer C-tag names, or the one of the port's PVID.
Where the tag is kept should make no difference. It does on a little-endian machine,
where a tag inside the frame is never seen, for VLANs beyond the twelve bits of a VID, and
for a tag of another protocol, which does not get back to where it was.
-/

namespace UnassumingBridge

open Support

variable {τ : Type} {cfg : Config}

/-- The VID that decides: the frame's own one, or the PVID of the port. -/
def Sys.classVid (cfg : Config) (s : Sys τ) (p : Pidx) (skb : Skb) : Vid :=
  if skb.customerVid cfg ≠ 0 then skb.customerVid cfg else (s.ubr.ports p).pvid

/-- The VLAN, if there is one and slot `p` is among its members. -/
def Ubr.admits (s : Ubr τ) (p : Pidx) (vlan : Option VlanRef) : Except Fault (Option VlanRef) :=
  if vlan.isNone then .ok none
  else do
    let v ← s.vlanAt vlan
    .ok (if p ∈ v.members then vlan else none)

/-- What an accepted frame of VLAN `r` is after the ingress stage: the metadata holds a
    C-tag with the VID of the VLAN, and a frame without a C-tag has lost nothing. -/
structure AcceptedInto (cfg : Config) (s : Ubr τ) (skb : Skb) (r : VlanRef) (copy : Skb) : Prop where
  vlan : copy.cb.vlan = some r
  tag : ∃ v tci, s.heap r = some v ∧ copy.vlanTag = some ⟨cfg.htons ethP8021q, tci⟩ ∧ tci &&& vlanVidMask = v.vid
  payload : (skb.wire cfg).hProto ≠ ethP8021q → copy.frame = skb.wire cfg

/-- The ingress stage accepts the frame into the VLAN that `ubr_vlan_find` has for its
    VID, or rejects it when there is none or the port is no member. -/
def ClassifiedRight (cfg : Config) (s : Sys τ) (env : FrameEnv) (p : Pidx) (skb : Skb) : Prop :=
  ∃ found admitted kept, ubrVlanFind cfg s.ubr (s.classVid cfg p skb) = .ok found ∧
    s.ubr.admits p found = .ok admitted ∧
    ubrVlanIngress cfg s.ubr env (s.onPort p skb) = .ok (admitted.isSome, kept) ∧
    ∀ r ∈ admitted, ∃ copy, kept = some copy ∧ AcceptedInto cfg s.ubr skb r copy

/-- The port remembers a VLAN that decides alike, and whose VID a tag can hold. -/
def RemembersVlan (s : Sys τ) (p : Pidx) (admitted : Option VlanRef) : Prop :=
  s.ubr.admits p (s.ubr.ports p).ingressCb.vlan = .ok admitted ∧
    ∀ r ∈ admitted, ∀ v, s.ubr.heap r = some v → v.vid &&& vlanVidMask = v.vid

/-- A helper frees a frame that would be rejected, or the frame stays and either shows
    its VID or depends on what the port remembers, and when it is to be accepted, a tag of
    another protocol gets back to where it belongs. -/
def Classifiable (cfg : Config) (s : Sys τ) (env : FrameEnv) (p : Pidx) (skb : Skb) : Prop :=
  ∃ found admitted, ubrVlanFind cfg s.ubr (s.classVid cfg p skb) = .ok found ∧
    s.ubr.admits p found = .ok admitted ∧
    ((LosesBuffer cfg ethP8021q env skb ∧ admitted = none) ∨
      ¬ LosesBuffer cfg ethP8021q env skb ∧
        ((¬ skb.HidesTag cfg ∧ skb.customerVid cfg ≠ 0) ∨ RemembersVlan s p admitted) ∧
        (admitted.isSome → skb.KeepsForeign cfg env))

section Admits

variable {s : Ubr τ} {p : Pidx} {found admitted : Option VlanRef}

@[simp] theorem admits_none (s : Ubr τ) (p : Pidx) : s.admits p none = .ok none := rfl

theorem admits_some {r : VlanRef} {v : UbrVlan} (live : s.heap r = some v) :
    s.admits p (some r) = .ok (if p ∈ v.members then some r else none) := by
  simp only [Ubr.admits, Ubr.vlanAt_some live]
  rfl

theorem admits_ok (done : s.admits p found = .ok admitted) :
    (found = none ∧ admitted = none) ∨
      ∃ r v, found = some r ∧ s.heap r = some v ∧ admitted = if p ∈ v.members then some r else none := by
  cases found with
  | none =>
      cases done
      exact .inl ⟨rfl, rfl⟩
  | some r =>
      obtain ⟨v, read, done⟩ := except_bind_eq_ok done
      cases done
      exact .inr ⟨r, v, rfl, Ubr.vlanAt_some_eq_ok.mp read, rfl⟩

end Admits

section Ingress

variable {u : Ubr τ} {env : FrameEnv} {skb mid : Skb} {vid : Vid} {found admitted : Option VlanRef}

theorem ubrVlanIngress_lost (filtering : skb.cb.vlanFiltering = true)
    (lost : ubrVlanNormalise cfg u.vlanProto env skb = none) :
    ubrVlanIngress cfg u env skb = .ok (false, none) := by
  simp only [ubrVlanIngress, filtering, lost]
  rfl

theorem ubrVlanIngress_decides (filtering : skb.cb.vlanFiltering = true)
    (normal : ubrVlanNormalise cfg u.vlanProto env skb = some (mid, vid))
    (walked : frameVlan cfg u env skb = .ok found) (admits : u.admits skb.cb.pidx found = .ok admitted) :
    ∃ copy, ubrVlanIngress cfg u env skb = .ok (admitted.isSome, some copy) ∧
      ∀ r ∈ admitted, ∃ v, u.heap r = some v ∧ copy.cb.vlan = some r ∧ copy.frame = mid.frame ∧
        copy.vlanTag = (classifiedTag cfg u.vlanProto v vid mid).vlanTag := by
  have lookup : (if vid ≠ 0 then ubrVlanFind cfg u vid else .ok mid.cb.vlan) = .ok found := by
    rw [(ubrVlanNormalise_same normal).2]
    simpa only [frameVlan, normal] using walked
  rcases admits_ok admits with ⟨rfl, rfl⟩ | ⟨r, v, rfl, live, decided⟩
  · refine ⟨{ mid with cb.vlan := none }, ?_, by simp⟩
    simp only [ubrVlanIngress, filtering, normal, lookup]
    rfl
  · have ingress := ubrVlanIngress_found filtering normal walked live
    by_cases inside : skb.cb.pidx ∈ v.members
    · rw [if_neg (not_not.mpr inside)] at ingress
      rw [if_pos inside] at decided
      subst decided
      refine ⟨_, ingress, fun x member => ?_⟩
      cases member
      have same : (classifiedTag cfg u.vlanProto v vid { mid with cb.vlan := some r }).frame = mid.frame ∧
          (classifiedTag cfg u.vlanProto v vid { mid with cb.vlan := some r }).vlanTag =
            (classifiedTag cfg u.vlanProto v vid mid).vlanTag := by
        by_cases tagged : vid ≠ 0
        · simp only [classifiedTag, if_pos tagged, and_self]
        · simp only [classifiedTag, if_neg tagged, vlanHwaccelPutTag, and_self]
      exact ⟨v, live, rfl, same⟩
    · rw [if_pos inside] at ingress
      rw [if_neg inside] at decided
      subst decided
      exact ⟨_, ingress, by simp⟩

theorem admits_of_ingress {verdict : Bool} {kept : Option Skb} (filtering : skb.cb.vlanFiltering = true)
    (normal : ubrVlanNormalise cfg u.vlanProto env skb = some (mid, vid))
    (walked : frameVlan cfg u env skb = .ok found) (done : ubrVlanIngress cfg u env skb = .ok (verdict, kept)) :
    ∃ admitted, u.admits skb.cb.pidx found = .ok admitted := by
  cases ubrVlanIngress_cases done with
  | unfiltered hub => cases hub.symm.trans filtering
  | freed _ lost => cases normal.symm.trans lost
  | unknown _ _ missing =>
      cases walked.symm.trans missing
      exact ⟨none, admits_none u _⟩
  | foreign _ _ walked' live | accepted _ _ walked' live =>
      cases walked.symm.trans walked'
      exact ⟨_, admits_some live⟩

end Ingress

section Classes

variable {s : Sys τ} {p : Pidx} {env : FrameEnv} {skb mid : Skb} {vid : Vid} {admitted : Option VlanRef}
  (proto : s.ubr.vlanProto = ethP8021q) (filtering : (s.ubr.ports p).ingressCb.vlanFiltering = true)
  (slot : (s.ubr.ports p).ingressCb.pidx = p) (parsed : skb.Parsed cfg)
  (normal : ubrVlanNormalise cfg ethP8021q env (s.onPort p skb) = some (mid, vid))

include parsed normal

/-- A frame without a C-tag on the wire keeps all of it, when its tag gets back to where it was. -/
theorem normalise_payload :
    ((skb.wire cfg).hProto ≠ ethP8021q → mid.frame = skb.wire cfg) ↔ skb.KeepsForeign cfg env := by
  have takes : TakesTag cfg env (s.onPort p skb) mid vid := normalise_outer parsed normal
  constructor
  · intro whole tag member wrong
    have untagged : (skb.wire cfg).hProto ≠ ethP8021q := by
      rw [Option.mem_def] at member
      simpa only [Skb.wire, member, Frame.pushTag_hProto] using wrong
    have bare : skb.stripped cfg = skb.wire cfg := if_neg untagged
    exact (takes.bare.mp ((whole untagged).trans bare.symm)).2 tag member wrong
  · intro keeps untagged
    have bare : skb.stripped cfg = skb.wire cfg := if_neg untagged
    have shows : ¬ skb.HidesTag cfg := by
      intro hides
      have proto : skb.frame.hProto = ethP8021q := hides.2.2.1
      exact untagged (by simpa only [Skb.wire, hides.2.1] using proto)
    exact (takes.bare.mpr ⟨shows, keeps⟩).trans bare

include proto filtering slot

theorem classified_by_tag {found : Option VlanRef} (shows : ¬ skb.HidesTag cfg) (named : skb.customerVid cfg ≠ 0)
    (walked : ubrVlanFind cfg s.ubr (s.classVid cfg p skb) = .ok found) (admits : s.ubr.admits p found = .ok admitted) :
    ∃ copy, ubrVlanIngress cfg s.ubr env (s.onPort p skb) = .ok (admitted.isSome, some copy) ∧
      ∀ r ∈ admitted, (AcceptedInto cfg s.ubr skb r copy ↔ skb.KeepsForeign cfg env) := by
  have takes : TakesTag cfg env (s.onPort p skb) mid vid := normalise_outer parsed normal
  have read : vid = skb.customerVid cfg := takes.shown shows
  have tagged : vid ≠ 0 := read ▸ named
  rw [Sys.classVid, if_pos named, ← read] at walked
  have decides : frameVlan cfg s.ubr env (s.onPort p skb) = .ok found := by
    simpa only [frameVlan, proto, normal, if_pos tagged] using walked
  have filters : (s.onPort p skb).cb.vlanFiltering = true := filtering
  obtain ⟨copy, ingress, accepted⟩ := ubrVlanIngress_decides filters (proto ▸ normal) decides
    (by simpa only [Sys.onPort, slot] using admits)
  refine ⟨copy, ingress, fun r member => ?_⟩
  obtain ⟨v, live, pointer, frame, tag⟩ := accepted r member
  obtain ⟨tci, kept, low⟩ := normalise_tag normal tagged
  have same : v.vid = vid := by
    rcases admits_ok admits with ⟨_, rfl⟩ | ⟨x, w, rfl, other, decided⟩
    · cases member
    · rw [decided] at member
      split at member
      · cases member
        exact find_vid walked live
      · cases member
  have marked : copy.vlanTag = some ⟨cfg.htons ethP8021q, tci⟩ := by rw [tag, classifiedTag, if_pos tagged, kept]
  rw [← normalise_payload parsed normal, ← frame]
  exact ⟨fun into => into.payload, fun payload => ⟨pointer, ⟨v, tci, live, marked, low.trans same.symm⟩, payload⟩⟩

omit parsed filtering slot in
theorem frameVlan_bare (bare : vid = 0) :
    frameVlan cfg s.ubr env (s.onPort p skb) = .ok (s.ubr.ports p).ingressCb.vlan := by
  subst bare
  have inPort : ubrVlanNormalise cfg s.ubr.vlanProto env (s.onPort p skb) = some (mid, 0) := proto ▸ normal
  exact frameVlan_port inPort

theorem classified_by_port (bare : vid = 0)
    (admits : s.ubr.admits p (s.ubr.ports p).ingressCb.vlan = .ok admitted) :
    ∃ copy, ubrVlanIngress cfg s.ubr env (s.onPort p skb) = .ok (admitted.isSome, some copy) ∧
      ∀ r ∈ admitted, ∃ v, s.ubr.heap r = some v ∧ copy.cb.vlan = some r ∧
        copy.vlanTag = some ⟨cfg.htons ethP8021q, v.vid⟩ ∧
        (((skb.wire cfg).hProto ≠ ethP8021q → copy.frame = skb.wire cfg) ↔ skb.KeepsForeign cfg env) := by
  have filters : (s.onPort p skb).cb.vlanFiltering = true := filtering
  obtain ⟨copy, ingress, accepted⟩ := ubrVlanIngress_decides filters (proto ▸ normal)
    (frameVlan_bare proto normal bare) (by simpa only [Sys.onPort, slot] using admits)
  refine ⟨copy, ingress, fun r member => ?_⟩
  obtain ⟨v, live, pointer, frame, tag⟩ := accepted r member
  refine ⟨v, live, pointer, ?_, ?_⟩
  · rw [tag, classifiedTag, bare, proto]
    rfl
  · rw [← normalise_payload parsed normal, frame]

theorem remembers_of_right {kept : Option Skb} (bare : vid = 0)
    (ingress : ubrVlanIngress cfg s.ubr env (s.onPort p skb) = .ok (admitted.isSome, kept))
    (accepted : ∀ r ∈ admitted, ∃ copy, kept = some copy ∧ AcceptedInto cfg s.ubr skb r copy) :
    RemembersVlan s p admitted ∧ (admitted.isSome → skb.KeepsForeign cfg env) := by
  have filters : (s.onPort p skb).cb.vlanFiltering = true := filtering
  obtain ⟨remembered, decides⟩ := admits_of_ingress filters (proto ▸ normal)
    (frameVlan_bare proto normal bare) ingress
  have decides : s.ubr.admits p (s.ubr.ports p).ingressCb.vlan = .ok remembered := by
    simpa only [Sys.onPort, slot] using decides
  obtain ⟨copy, handled, into⟩ := classified_by_port proto filtering slot parsed normal bare decides
  obtain ⟨verdicts, same⟩ := Prod.mk.inj (Except.ok.inj (handled.symm.trans ingress))
  subst same
  cases remembered with
  | none =>
      have rejected : admitted = none := by simpa using verdicts.symm
      subst rejected
      exact ⟨⟨decides, nofun⟩, nofun⟩
  | some x =>
      have both : admitted.isSome = true := verdicts.symm
      obtain ⟨r, same⟩ := Option.isSome_iff_exists.mp both
      subst same
      obtain ⟨other, same, accepted⟩ := accepted r rfl
      cases same
      obtain ⟨v, live, pointer, tag, payload⟩ := into x rfl
      obtain ⟨w, tci, live', tag', fits⟩ := accepted.tag
      cases pointer.symm.trans accepted.vlan
      cases live.symm.trans live'
      cases tag.symm.trans tag'
      refine ⟨⟨decides, fun y member u read => ?_⟩, fun _ => payload.mp accepted.payload⟩
      cases member
      cases live.symm.trans read
      exact fits

end Classes

variable [Jiffies τ]

/-- A frame is classified as its tag or its port says exactly when the ingress stage can
    see the tag, or goes by a VLAN that decides alike, and puts no tag where it does not go. -/
theorem classification_right_iff {s : Sys τ} (reached : Reachable (bridge τ cfg) s) {p : Pidx}
    (filtering : (s.ubr.ports p).ingressCb.vlanFiltering = true) (env : FrameEnv) {skb : Skb}
    (parsed : skb.Parsed cfg) : ClassifiedRight cfg s env p skb ↔ Classifiable cfg s env p skb := by
  have proto := vlanProto_of_reachable reached
  have slot := (slotOk_of_reachable reached p).pidx (plugged_of_filtering reached filtering)
  have filters : (s.onPort p skb).cb.vlanFiltering = true := filtering
  have lost : ubrVlanNormalise cfg ethP8021q env (s.onPort p skb) = none ↔
      LosesBuffer cfg ethP8021q env (s.onPort p skb) := normalise_eq_none
  have lost : _ ↔ LosesBuffer cfg ethP8021q env skb := lost
  have freed (gone : ubrVlanNormalise cfg ethP8021q env (s.onPort p skb) = none) :
      ubrVlanIngress cfg s.ubr env (s.onPort p skb) = .ok (false, none) :=
    ubrVlanIngress_lost filters (proto ▸ gone)
  have hidden {mid : Skb} {vid : Vid} (normal : ubrVlanNormalise cfg ethP8021q env (s.onPort p skb) = some (mid, vid))
      (unseen : ¬ (¬ skb.HidesTag cfg ∧ skb.customerVid cfg ≠ 0)) : vid = 0 := by
    have takes : TakesTag cfg env (s.onPort p skb) mid vid := normalise_outer parsed normal
    by_cases hides : skb.HidesTag cfg
    · exact takes.hidden hides
    · rw [takes.shown hides]
      by_contra named
      exact unseen ⟨hides, named⟩
  constructor
  · intro ⟨found, admitted, kept, walked, admits, ingress, accepted⟩
    refine ⟨found, admitted, walked, admits, ?_⟩
    cases normal : ubrVlanNormalise cfg ethP8021q env (s.onPort p skb) with
    | none =>
        cases admitted with
        | none => exact .inl ⟨lost.mp normal, rfl⟩
        | some r => cases ingress.symm.trans (freed normal)
    | some out =>
        obtain ⟨mid, vid⟩ := out
        have stays : ¬ LosesBuffer cfg ethP8021q env skb := by
          intro loses
          cases normal.symm.trans (lost.mpr loses)
        refine .inr ⟨stays, ?_⟩
        by_cases shown : ¬ skb.HidesTag cfg ∧ skb.customerVid cfg ≠ 0
        · refine ⟨.inl shown, fun some => ?_⟩
          obtain ⟨copy, ingress', into⟩ :=
            classified_by_tag proto filtering slot parsed normal shown.1 shown.2 walked admits
          obtain ⟨r, member⟩ := Option.isSome_iff_exists.mp some
          obtain ⟨copy', same, right⟩ := accepted r member
          cases (Prod.mk.inj (Except.ok.inj (ingress'.symm.trans ingress))).2.trans same
          exact (into r member).mp right
        · have bare : vid = 0 := hidden normal shown
          obtain ⟨remembers, keeps⟩ := remembers_of_right proto filtering slot parsed normal bare ingress accepted
          exact ⟨.inr remembers, keeps⟩
  · intro ⟨found, admitted, walked, admits, condition⟩
    rcases condition with ⟨loses, rfl⟩ | ⟨stays, condition, keeps⟩
    · exact ⟨found, none, none, walked, admits, freed (lost.mpr loses), nofun⟩
    · obtain ⟨⟨mid, vid⟩, normal⟩ := Option.ne_none_iff_exists'.mp fun gone => stays (lost.mp gone)
      have put (r : VlanRef) (member : r ∈ admitted) : skb.KeepsForeign cfg env :=
        keeps (Option.isSome_iff_exists.mpr ⟨r, member⟩)
      by_cases shown : ¬ skb.HidesTag cfg ∧ skb.customerVid cfg ≠ 0
      · obtain ⟨copy, ingress, into⟩ :=
          classified_by_tag proto filtering slot parsed normal shown.1 shown.2 walked admits
        refine ⟨found, admitted, some copy, walked, admits, ingress, fun r member => ⟨copy, rfl, ?_⟩⟩
        exact (into r member).mpr (put r member)
      · obtain ⟨remembers, fits⟩ := condition.resolve_left shown
        obtain ⟨copy, ingress, into⟩ :=
          classified_by_port proto filtering slot parsed normal (hidden normal shown) remembers
        refine ⟨found, admitted, some copy, walked, admits, ingress, fun r member => ⟨copy, rfl, ?_⟩⟩
        obtain ⟨v, live, pointer, tag, payload⟩ := into r member
        exact ⟨pointer, ⟨v, v.vid, live, tag, fits r member v live⟩, payload.mpr (put r member)⟩

/-- A frame of VLAN 7, with the tag where reception leaves it. -/
def offloadedFrame : Skb := { broadcastFrame with vlanTag := some ⟨x86.htons ethP8021q, 7⟩ }

/-- The same frame, with the tag where the sender has put it. -/
def inBandFrame : Skb :=
  { broadcastFrame with frame := broadcastFrame.frame.pushTag ethP8021q 7, protocol := x86.htons ethP8021q }

/-- The frame of VLAN 7 gets there. -/
theorem classification_right_x86 : ∃ s : Sys Nat, Reachable (bridge Nat x86) s ∧
    (s.ubr.ports 1).ingressCb.vlanFiltering = true ∧
    s.ubr.admits 1 (some 2) = .ok (some 2) ∧ ClassifiedRight x86 s {} 1 offloadedFrame := by
  obtain ⟨tr, s, run, test⟩ := run_booted x86 (fun _ _ => True)
    [.portAdd 1 {}, .vlanAdd 5 false, .vlanAdd 7 false, .vlanAttach 7 1 0, .portSet (some 1) 5]
    (fun _ s => (s.ubr.ports 1).ingressCb.vlanFiltering &&
      (ubrVlanFind x86 s.ubr (s.classVid x86 1 offloadedFrame)).toOption == some (some 2) &&
      (s.ubr.admits 1 (some 2)).toOption == some (some 2))
    (by decide +kernel)
  simp only [Bool.and_eq_true, beq_iff_eq] at test
  obtain ⟨⟨filtering, named⟩, member⟩ := test
  have parsed : offloadedFrame.Parsed x86 := rfl
  refine ⟨s, run.reachable, filtering, ok_of_toOption member, ?_⟩
  refine (classification_right_iff run.reachable filtering {} parsed).mpr
    ⟨some 2, some 2, ok_of_toOption named, ok_of_toOption member, .inr ⟨?_, .inl ⟨?_, ?_⟩, fun _ => ?_⟩⟩
  · simp [LosesBuffer, offloadedFrame]
  · exact fun hides => nomatch hides.2.1
  · decide
  · intro tag here foreign
    cases here
    exact absurd rfl foreign

/-- The VLAN into which the ingress stage accepts a frame of the host. -/
def acceptedVlan (s : Sys Nat) (skb : Skb) : Option VlanRef :=
  match ubrVlanIngress x86 s.ubr {} (s.onPort 0 skb) with
  | .ok (true, some copy) => copy.cb.vlan
  | _ => none

/-- The host, a member of the VLANs 5 and 7, sends a frame of VLAN 7, and it goes to VLAN 5. -/
theorem in_band_tag_is_overlooked :
    ¬ ∀ s : Sys Nat, Reachable (bridge Nat x86) s → ∀ p, (s.ubr.ports p).ingressCb.vlanFiltering = true →
      ∀ env (skb : Skb), skb.Parsed x86 → ClassifiedRight x86 s env p skb := by
  intro claim
  obtain ⟨tr, s, run, test⟩ := run_booted x86 (fun _ _ => True)
    [.vlanAdd 5 false, .vlanAdd 7 false, .vlanAttach 5 1000 0, .vlanAttach 7 1000 0, .portSet (some 1000) 5]
    (fun _ s => (s.ubr.ports 0).ingressCb.vlanFiltering && acceptedVlan s inBandFrame == some 1 &&
      (ubrVlanFind x86 s.ubr (s.classVid x86 0 inBandFrame)).toOption == some (some 2) &&
      (s.ubr.admits 0 (some 2)).toOption == some (some 2))
    (by decide +kernel)
  simp only [Bool.and_eq_true, beq_iff_eq] at test
  obtain ⟨⟨⟨filtering, goes⟩, named⟩, member⟩ := test
  obtain ⟨found, admitted, kept, walked, admits, ingress, accepted⟩ :=
    claim s run.reachable 0 filtering {} inBandFrame rfl
  rw [walked] at named
  cases named
  rw [admits] at member
  cases member
  obtain ⟨copy, rfl, into⟩ := accepted 2 rfl
  rw [acceptedVlan, ingress] at goes
  cases into.vlan.symm.trans goes

end UnassumingBridge
