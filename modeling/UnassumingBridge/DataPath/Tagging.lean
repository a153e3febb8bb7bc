import UnassumingBridge.DataPath.Delivery

/-! # Tags on the wire

What a filtering port's frame looks like when a copy of it is transmitted. Ingress
always leaves a C-tag in the metadata, and egress pushes another one on top of it. A tag
of another protocol ingress puts into the frame, but not where tags go.
-/

namespace UnassumingBridge

open Support

variable {τ : Type} {cfg : Config}

/-- The protocol field is what reception makes of the bytes of the frame. -/
def Skb.Parsed (cfg : Config) (skb : Skb) : Prop := skb.protocol = vlanEncapProto cfg skb.frame

/-- The frame on the wire without its outer C-tag, if it has one. -/
def Skb.stripped (cfg : Config) (skb : Skb) : Frame :=
  if (skb.wire cfg).hProto = ethP8021q then (((skb.wire cfg).popTag).map Prod.snd).getD (skb.wire cfg)
  else skb.wire cfg

/-- The VID of the outer C-tag on the wire; 0 when there is no such tag. -/
def Skb.customerVid (cfg : Config) (skb : Skb) : Vid :=
  if (skb.wire cfg).hProto = ethP8021q then (((skb.wire cfg).popTag).map (·.1 &&& vlanVidMask)).getD 0 else 0

/-- A C-tag in the frame itself, which only a big-endian machine recognises: ingress
    compares the field in network order with the number 0x8100. -/
def Skb.HidesTag (cfg : Config) (skb : Skb) : Prop :=
  cfg.bigEndian = false ∧ skb.vlanTag = none ∧ skb.frame.hProto = ethP8021q ∧ skb.frame.popTag.isSome

/-- A metadata tag of another protocol makes the same frame at the data pointer as behind
    the source address. -/
def Skb.KeepsForeign (cfg : Config) (env : FrameEnv) (skb : Skb) : Prop :=
  ∀ tag ∈ skb.vlanTag, cfg.htons tag.proto ≠ ethP8021q →
    skb.frame.insertTagAtData env.headroom env.beyond (cfg.htons tag.proto) tag.tci =
      skb.frame.pushTag (cfg.htons tag.proto) tag.tci

/-- What a copy for slot `q` should be on the wire. -/
def TaggedExactly (cfg : Config) (vlan : UbrVlan) (stripped : Frame) (q : Pidx) (copy : Skb) : Prop :=
  if q ∈ vlan.tagged then ∃ tci, tci &&& vlanVidMask = vlan.vid ∧ copy.wire cfg = stripped.pushTag ethP8021q tci
  else copy.wire cfg = stripped

theorem vlanEncapProto_eq_8021q {f : Frame} :
    vlanEncapProto cfg f = ethP8021q ↔ cfg.bigEndian = true ∧ f.hProto = ethP8021q := by
  have swapped : cfg.bigEndian = false → cfg.htons ethP8021q < ethP8023Min := by
    intro order
    simp only [Config.htons, order]
    decide
  constructor
  · intro encapsulated
    simp only [vlanEncapProto] at encapsulated
    split at encapsulated
    · rename_i long
      have proto : f.hProto = cfg.htons ethP8021q := by rw [← encapsulated, Config.htons_htons]
      cases order : cfg.bigEndian with
      | true => exact ⟨rfl, by simpa only [Config.htons, order, if_true] using proto⟩
      | false => exact absurd (swapped order) (BitVec.not_lt.mpr (proto ▸ long))
    · have length (x : BitVec 16) (short : x = ethP8023 ∨ x = ethP8022) : cfg.htons x ≠ ethP8021q := by
        rcases short with rfl | rfl <;> cases order : cfg.bigEndian <;>
          simp only [Config.htons, order] <;> decide
      split at encapsulated
      · exact absurd encapsulated (length _ (.inl rfl))
      · exact absurd encapsulated (length _ (.inr rfl))
  · rintro ⟨order, proto⟩
    have long : ethP8023Min ≤ ethP8021q := by decide
    simp only [vlanEncapProto, proto, if_pos long, Config.htons, order, if_true]

theorem vlanProto_of_reachable [Jiffies τ] {s : Sys τ} (reached : Reachable (bridge τ cfg) s) :
    s.ubr.vlanProto = ethP8021q := by
  refine reached.invariant (I := fun s => s.ubr.vlanProto = ethP8021q) ?_ ?_
  · intro s init
    obtain ⟨dev, devAddr, same⟩ := init_ubr init
    rw [same]
    rfl
  · intro s e s' o same enabled done
    exact (exec_effect enabled done).vlanProto.trans same

section Ingress

variable {env : FrameEnv} {skb mid : Skb} {vid : Vid}

theorem normalise_tag {vlanProto : BitVec 16}
    (normal : ubrVlanNormalise cfg vlanProto env skb = some (mid, vid)) (tagged : vid ≠ 0) :
    ∃ tci, mid.vlanTag = some ⟨cfg.htons vlanProto, tci⟩ ∧ tci &&& vlanVidMask = vid := by
  cases untagged : ubrVlanUntag cfg vlanProto env skb with
  | none => cases (ubrVlanNormalise_lost untagged).symm.trans normal
  | some bare =>
      cases present : bare.vlanTag with
      | none =>
          cases (ubrVlanNormalise_none untagged present).symm.trans normal
          exact absurd rfl tagged
      | some tag =>
          by_cases own : cfg.htons tag.proto = vlanProto
          · cases (ubrVlanNormalise_own untagged present own).symm.trans normal
            exact ⟨tag.tci, by rw [present, ← own, Config.htons_htons], rfl⟩
          · rw [ubrVlanNormalise_foreign untagged present own] at normal
            split at normal
            · cases normal
            · cases normal
              exact absurd rfl tagged

/-- The ingress stage takes the C-tag away, and its VID from it, unless the tag is hidden;
    a tag of another protocol it puts into the frame. -/
structure TakesTag (cfg : Config) (env : FrameEnv) (skb mid : Skb) (vid : Vid) : Prop where
  shorter : (skb.stripped cfg).payload.length ≤ mid.frame.payload.length
  bare : mid.frame = skb.stripped cfg ↔ ¬ skb.HidesTag cfg ∧ skb.KeepsForeign cfg env
  hidden : skb.HidesTag cfg → vid = 0
  shown : ¬ skb.HidesTag cfg → vid = skb.customerVid cfg

private theorem takesTag_inBand {bare : Skb} (parsed : skb.Parsed cfg) (noTag : skb.vlanTag = none)
    (proto : skb.protocol = ethP8021q) (untagged : ubrVlanUntag cfg ethP8021q env skb = some bare)
    (normal : ubrVlanNormalise cfg ethP8021q env skb = some (mid, vid)) : TakesTag cfg env skb mid vid := by
  obtain ⟨order, outer⟩ := vlanEncapProto_eq_8021q.mp (parsed.symm.trans proto)
  have taken : skbVlanUntag cfg env skb = some bare := by
    simpa only [ubrVlanUntag, noTag, Option.isNone_none, proto, and_self, if_true] using untagged
  obtain ⟨_, tci, frame, popped, made⟩ := skbVlanUntag_some taken
  have customer : cfg.htons ethP8021q = ethP8021q := by simp only [Config.htons, order, if_true]
  have tag : bare.vlanTag = some ⟨ethP8021q, tci⟩ := by rw [made, ← proto]; rfl
  cases (ubrVlanNormalise_own untagged tag customer).symm.trans normal
  have stripped : skb.stripped cfg = frame := by simp [Skb.stripped, Skb.wire, noTag, outer, popped]
  have shows : ¬ skb.HidesTag cfg := by
    intro hides
    cases order.symm.trans hides.1
  have whole : mid.frame = skb.stripped cfg := by rw [stripped, made]; rfl
  refine ⟨by rw [whole], iff_of_true whole ⟨shows, ?_⟩, fun hides => absurd hides shows, fun _ => ?_⟩
  · intro other member
    rw [noTag] at member
    cases member
  · simp [Skb.customerVid, Skb.wire, noTag, outer, popped]

private theorem takesTag_none (parsed : skb.Parsed cfg) (noTag : skb.vlanTag = none)
    (other : skb.protocol ≠ ethP8021q) : TakesTag cfg env skb skb 0 := by
  have keeps : skb.KeepsForeign cfg env := by
    intro tag member
    rw [noTag] at member
    cases member
  have short : skb.HidesTag cfg → ∀ frame, skb.frame.popTag = some frame → skb.stripped cfg = frame.2 := by
    intro hides frame popped
    simp [Skb.stripped, Skb.wire, noTag, hides.2.2.1, popped]
  by_cases hides : skb.HidesTag cfg
  · obtain ⟨frame, popped⟩ := Option.isSome_iff_exists.mp hides.2.2.2
    have longer := Frame.popTag_length popped
    have stripped := short hides frame popped
    have different : skb.frame ≠ skb.stripped cfg := by
      intro equal
      rw [← stripped, ← equal] at longer
      omega
    exact ⟨by rw [stripped]; omega, iff_of_false different fun both => both.1 hides, fun _ => rfl,
      fun shows => absurd hides shows⟩
  · have bare : skb.stripped cfg = skb.frame ∧ skb.customerVid cfg = 0 := by
      by_cases outer : skb.frame.hProto = ethP8021q
      · have order : cfg.bigEndian = false := by
          by_contra big
          have big : cfg.bigEndian = true := by simpa using big
          exact other (parsed.trans (vlanEncapProto_eq_8021q.mpr ⟨big, outer⟩))
        have short : skb.frame.popTag = none := by
          cases popped : skb.frame.popTag with
          | none => rfl
          | some frame => exact absurd ⟨order, noTag, outer, by rw [popped]; rfl⟩ hides
        simp [Skb.stripped, Skb.customerVid, Skb.wire, noTag, outer, short]
      · simp [Skb.stripped, Skb.customerVid, Skb.wire, noTag, outer]
    exact ⟨by rw [bare.1], iff_of_true bare.1.symm ⟨hides, keeps⟩, fun hidden => absurd hidden hides,
      fun _ => bare.2.symm⟩

private theorem takesTag_metadata {tag : VlanTag} (present : skb.vlanTag = some tag)
    (untagged : ubrVlanUntag cfg ethP8021q env skb = some skb)
    (normal : ubrVlanNormalise cfg ethP8021q env skb = some (mid, vid)) : TakesTag cfg env skb mid vid := by
  have shows : ¬ skb.HidesTag cfg := fun hides => nomatch present.symm.trans hides.2.1
  by_cases own : cfg.htons tag.proto = ethP8021q
  · cases (ubrVlanNormalise_own untagged present own).symm.trans normal
    have stripped : skb.stripped cfg = skb.frame := by simp [Skb.stripped, Skb.wire, present, own]
    have keeps : skb.KeepsForeign cfg env := by
      intro other member wrong
      rw [present] at member
      cases member
      exact absurd own wrong
    refine ⟨by rw [stripped], iff_of_true stripped.symm ⟨shows, keeps⟩, fun hides => absurd hides shows, fun _ => ?_⟩
    simp [Skb.customerVid, Skb.wire, present, own]
  · rw [ubrVlanNormalise_foreign untagged present own] at normal
    split at normal
    · cases normal
    · cases normal
      have stripped : skb.stripped cfg = skb.frame.pushTag (cfg.htons tag.proto) tag.tci := by
        simp [Skb.stripped, Skb.wire, present, own]
      have placed : (misplaceTag cfg env tag skb).frame =
        skb.frame.insertTagAtData env.headroom env.beyond (cfg.htons tag.proto) tag.tci := rfl
      refine ⟨by rw [stripped, placed, Frame.pushTag_length, Frame.insertTagAtData_length], ?_,
        fun hides => absurd hides shows, fun _ => by simp [Skb.customerVid, Skb.wire, present, own]⟩
      rw [stripped, placed]
      simp [Skb.KeepsForeign, present, own, shows]

theorem normalise_outer (parsed : skb.Parsed cfg)
    (normal : ubrVlanNormalise cfg ethP8021q env skb = some (mid, vid)) : TakesTag cfg env skb mid vid := by
  cases untagged : ubrVlanUntag cfg ethP8021q env skb with
  | none => cases (ubrVlanNormalise_lost untagged).symm.trans normal
  | some bare =>
      have first := ubrVlanUntag_some untagged
      by_cases inBand : skb.vlanTag = none ∧ skb.protocol = ethP8021q
      · exact takesTag_inBand parsed inBand.1 inBand.2 untagged normal
      · obtain rfl := first.same.resolve_right inBand
        cases present : bare.vlanTag with
        | none =>
            cases (ubrVlanNormalise_none untagged present).symm.trans normal
            exact takesTag_none parsed present fun proto => inBand ⟨present, proto⟩
        | some tag => exact takesTag_metadata present untagged normal

theorem find_vid {u : Ubr τ} {r : VlanRef} {v : UbrVlan} (walked : ubrVlanFind cfg u vid = .ok (some r))
    (live : u.heap r = some v) : v.vid = vid := by
  obtain ⟨_, w, read, same⟩ := findInBucket_some walked
  cases live.symm.trans read
  exact same

/-- An accepted frame of a filtering port carries a C-tag in its metadata, with the VID of
    its VLAN as far as that fits. -/
theorem accepted_tag {u : Ubr τ} {copy : Skb} (filtering : skb.cb.vlanFiltering = true)
    (accepted : ubrVlanIngress cfg u env skb = .ok (true, some copy)) :
    (∃ tci, copy.vlanTag = some ⟨cfg.htons u.vlanProto, tci⟩ ∧ ∀ vlan, u.vlanAt copy.cb.vlan = .ok vlan →
      (tci &&& vlanVidMask = vlan.vid ↔ vlan.vid &&& vlanVidMask = vlan.vid)) ∧
      ∃ mid vid, ubrVlanNormalise cfg u.vlanProto env skb = some (mid, vid) ∧ copy.frame = mid.frame := by
  cases ubrVlanIngress_cases accepted with
  | unfiltered hub read => cases hub.symm.trans filtering
  | @accepted mid vid r vlan _ normal found live inside =>
      by_cases tagged : vid ≠ 0
      · obtain ⟨tci, tag, low⟩ := normalise_tag normal tagged
        have walked : ubrVlanFind cfg u vid = .ok (some r) := by
          simpa only [frameVlan, normal, if_pos tagged] using found
        simp only [classifiedTag, if_pos tagged]
        refine ⟨⟨tci, tag, fun v read => ?_⟩, mid, vid, normal, rfl⟩
        have named : v.vid = vid := find_vid walked (Ubr.vlanAt_some_eq_ok.mp read)
        rw [low, named, ← low, BitVec.and_assoc, BitVec.and_self]
      · simp only [classifiedTag, if_neg tagged, vlanHwaccelPutTag]
        refine ⟨⟨vlan.vid, rfl, fun v read => ?_⟩, mid, vid, normal, rfl⟩
        cases (Ubr.vlanAt_some live).symm.trans read
        exact Iff.rfl

end Ingress

/-- Egress pushes a second tag on top of the first one, leaves that one alone when there
    is no memory for it, or takes it away. -/
theorem egressCopy_wire (env : FrameEnv) (skb : Skb) (vlan : UbrVlan) {vlanProto tci : BitVec 16}
    (filtering : skb.cb.vlanFiltering = true) (tag : skb.vlanTag = some ⟨cfg.htons vlanProto, tci⟩) (q : Pidx) :
    (egressCopy cfg env vlanProto vlan true skb q).wire cfg =
      if q ∈ vlan.tagged then
        if env.pushFails q then skb.frame.pushTag vlanProto tci
        else (skb.frame.pushTag vlanProto tci).pushTag vlanProto tci
      else skb.frame := by
  simp only [egressCopy, filtering, if_true, skbVlanPush, tag, vlanHwaccelPutTag, vlanHwaccelClearTag,
    Option.map_some, Option.getD_some, Config.htons_htons, Bool.true_and]
  split
  · cases env.pushFails q with
    | true => simp only [Skb.wire, tag, Config.htons_htons, Bool.not_true, Bool.false_eq_true, if_false, if_true]
    | false => simp only [Skb.wire, Config.htons_htons, Bool.not_false, Bool.false_eq_true, if_false, if_true]
  · rfl

theorem Frame.pushTag_inj {tpid tci tci' : BitVec 16} {f g : Frame} (same : f.pushTag tpid tci = g.pushTag tpid tci') :
    tci = tci' ∧ f = g := by
  have popped := congrArg Frame.popTag same
  rw [Frame.popTag_pushTag, Frame.popTag_pushTag] at popped
  cases popped
  exact ⟨rfl, rfl⟩

theorem taggedExactly_iff {env : FrameEnv} {vlan : UbrVlan} {q : Pidx} {c : Skb} {inside stripped : Frame}
    {tci : BitVec 16}
    (wire : c.wire cfg =
      if q ∈ vlan.tagged then
        if env.pushFails q then inside.pushTag ethP8021q tci
        else (inside.pushTag ethP8021q tci).pushTag ethP8021q tci
      else inside)
    (shorter : stripped.payload.length ≤ inside.payload.length) :
    TaggedExactly cfg vlan stripped q c ↔
      (q ∈ vlan.tagged → env.pushFails q = true ∧ tci &&& vlanVidMask = vlan.vid) ∧ inside = stripped := by
  by_cases tagged : q ∈ vlan.tagged
  · rw [if_pos tagged] at wire
    simp only [TaggedExactly, tagged, if_true, true_imp_iff]
    cases fails : env.pushFails q with
    | true =>
        rw [fails, if_pos rfl] at wire
        simp only [true_and]
        constructor
        · rintro ⟨tci', low, single⟩
          obtain ⟨rfl, rfl⟩ := Frame.pushTag_inj (wire.symm.trans single)
          exact ⟨low, rfl⟩
        · rintro ⟨low, rfl⟩
          exact ⟨tci, low, wire⟩
    | false =>
        rw [fails, if_neg Bool.false_ne_true] at wire
        simp only [Bool.false_eq_true, false_and, iff_false]
        rintro ⟨other, _, single⟩
        have lengths := congrArg (fun f => f.payload.length) (wire.symm.trans single)
        simp only [Frame.pushTag_length] at lengths
        omega
  · rw [if_neg tagged] at wire
    simp only [TaggedExactly, tagged, if_false, false_imp_iff, true_and, wire]

variable [Jiffies τ]

/-- A copy leaves as it should exactly when it is for an untagged member, or the push of
    the second tag has failed, and ingress has taken the C-tag away without putting
    another tag where it does not go. -/
theorem egress_tagging_exact_iff {s : Sys τ} (reached : Reachable (bridge τ cfg) s) {p : Pidx}
    (filtering : (s.ubr.ports p).ingressCb.vlanFiltering = true) {env : FrameEnv} {skb copy : Skb}
    (parsed : skb.Parsed cfg) (accepted : ubrVlanIngress cfg s.ubr env (s.onPort p skb) = .ok (true, some copy))
    {vlan : UbrVlan} (read : s.ubr.vlanAt copy.cb.vlan = .ok vlan) {q : Pidx} {dev : Dev} {c : Skb}
    (sent : .down q dev c ∈ (ubrForward cfg s.ubr s.jiffies env (s.onPort p skb)).log) :
    TaggedExactly cfg vlan (skb.stripped cfg) q c ↔
      (q ∈ vlan.tagged → env.pushFails q = true ∧ vlan.vid &&& vlanVidMask = vlan.vid) ∧
        ¬ skb.HidesTag cfg ∧ skb.KeepsForeign cfg env := by
  have same := (ubrVlanIngress_cases accepted).same
  have ctrl : copy.cb.ctrl = false := same.ctrl.trans (slotOk_of_reachable reached p).ctrl
  obtain ⟨⟨tci, tag, fits⟩, mid, vid, normal, frame⟩ := accepted_tag filtering accepted
  obtain ⟨_, buf, made⟩ := down_of_ubrForward accepted ctrl read sent
  have wire := egressCopy_wire env { (ubrFdbForward cfg s.ubr.fdb s.jiffies env vlan copy).2 with
    buf, dev := some dev } vlan (same.vlanFiltering.trans filtering) tag q
  rw [← made, vlanProto_of_reachable reached] at wire
  rw [vlanProto_of_reachable reached] at normal
  have takes : TakesTag cfg env (s.onPort p skb) mid vid := normalise_outer parsed normal
  have inside : copy.frame = skb.stripped cfg ↔ ¬ skb.HidesTag cfg ∧ skb.KeepsForeign cfg env := frame ▸ takes.bare
  have shorter : (skb.stripped cfg).payload.length ≤ copy.frame.payload.length := frame ▸ takes.shorter
  have exactly_iff : TaggedExactly cfg vlan (skb.stripped cfg) q c ↔ _ := taggedExactly_iff wire shorter
  rw [exactly_iff, fits vlan read]
  exact and_congr_right' inside

/-- The one copy that the bridge sends down for a broadcast on port 1, with its port. -/
def floodedFrom1 (s : Sys Nat) : Option (Pidx × Skb) :=
  match (ubrForward x86 s.ubr s.jiffies {} (s.onPort 1 broadcastFrame)).log with
  | [.down q _ c] => some (q, c)
  | _ => none

theorem floodedFrom1_some {s : Sys Nat} {c : Skb} {q : Pidx} (flooded : floodedFrom1 s = some (q, c)) :
    ∃ dev, .down q dev c ∈ (ubrForward x86 s.ubr s.jiffies {} (s.onPort 1 broadcastFrame)).log := by
  simp only [floodedFrom1] at flooded
  split at flooded
  · rename_i log
    cases flooded
    exact ⟨_, log ▸ List.mem_singleton_self _⟩
  · cases flooded

/-- From an access port to an access port the frame stays as it is. -/
theorem egress_tagging_exact_x86 :
    ∃ s : Sys Nat, Reachable (bridge Nat x86) s ∧ (s.ubr.ports 1).ingressCb.vlanFiltering = true ∧ ∃ copy vlan q dev c,
      ubrVlanIngress x86 s.ubr {} (s.onPort 1 broadcastFrame) = .ok (true, some copy) ∧
      s.ubr.vlanAt copy.cb.vlan = .ok vlan ∧
      .down q dev c ∈ (ubrForward x86 s.ubr s.jiffies {} (s.onPort 1 broadcastFrame)).log ∧
      TaggedExactly x86 vlan (broadcastFrame.stripped x86) q c := by
  obtain ⟨tr, s, run, test⟩ := run_booted x86 (fun _ _ => True)
    [.portAdd 1 {}, .portAdd 2 {}, .vlanAdd 5 false, .vlanAttach 5 1 0, .vlanAttach 5 2 0, .portSet (some 1) 5]
    (fun _ s => (s.ubr.ports 1).ingressCb.vlanFiltering && (acceptedBroadcast s 1).any fun copy =>
      (s.ubr.vlanAt copy.cb.vlan).toOption.any fun vlan =>
        (floodedFrom1 s).any fun ((q, _) : Pidx × Skb) => decide (q ∉ vlan.tagged))
    (by decide +kernel)
  obtain ⟨filtering, test⟩ := (Bool.and_eq_true _ _).mp test
  obtain ⟨copy, accepts, test⟩ := (Option.any_eq_true ..).mp test
  obtain ⟨vlan, follows, test⟩ := (Option.any_eq_true ..).mp test
  obtain ⟨⟨q, c⟩, flooded, outside⟩ := (Option.any_eq_true ..).mp test
  obtain ⟨dev, sent⟩ := floodedFrom1_some flooded
  have accepted := acceptedBroadcast_some accepts
  have read := ok_of_toOption follows
  have parsed : broadcastFrame.Parsed x86 := rfl
  have shows : ¬ broadcastFrame.HidesTag x86 := fun hides => absurd hides.2.2.1 (by decide)
  refine ⟨s, run.reachable, filtering, copy, vlan, q, dev, c, accepted, read, sent, ?_⟩
  exact (egress_tagging_exact_iff run.reachable filtering parsed accepted read sent).mpr
    ⟨fun inside => absurd inside (of_decide_eq_true outside), shows, nofun⟩

/-- From an access port to a trunk. -/
theorem egress_pushes_two_tags :
    ¬ ∀ s : Sys Nat, Reachable (bridge Nat x86) s → ∀ p, (s.ubr.ports p).ingressCb.vlanFiltering = true →
      ∀ env skb copy, skb.Parsed x86 → ubrVlanIngress x86 s.ubr env (s.onPort p skb) = .ok (true, some copy) →
      ∀ vlan, s.ubr.vlanAt copy.cb.vlan = .ok vlan → ∀ q dev c,
      .down q dev c ∈ (ubrForward x86 s.ubr s.jiffies env (s.onPort p skb)).log →
        TaggedExactly x86 vlan (skb.stripped x86) q c := by
  intro claim
  obtain ⟨tr, s, run, test⟩ := run_booted x86 (fun _ _ => True)
    [.portAdd 1 {}, .portAdd 2 {}, .vlanAdd 5 false, .vlanAttach 5 1 0, .vlanAttach 5 2 1, .portSet (some 1) 5]
    (fun _ s => (s.ubr.ports 1).ingressCb.vlanFiltering && (acceptedBroadcast s 1).isSome &&
      (floodedFrom1 s).any fun (_, c) => (c.wire x86).payload.length == 8)
    (by decide +kernel)
  simp only [Bool.and_eq_true] at test
  obtain ⟨⟨filtering, accepts⟩, floods⟩ := test
  obtain ⟨copy, accepted⟩ := Option.isSome_iff_exists.mp accepts
  obtain ⟨⟨q, c⟩, flooded, length⟩ := (Option.any_eq_true ..).mp floods
  obtain ⟨dev, sent⟩ := floodedFrom1_some flooded
  obtain ⟨vlan, read, _⟩ := accepted_vec (acceptedBroadcast_some accepted)
  have tagging := claim s run.reachable 1 filtering {} broadcastFrame copy rfl (acceptedBroadcast_some accepted)
    vlan read q dev c sent
  simp only [TaggedExactly] at tagging
  split at tagging
  · obtain ⟨tci, _, single⟩ := tagging
    rw [single, Frame.pushTag_length] at length
    cases length
  · rw [tagging] at length
    cases length

end UnassumingBridge
