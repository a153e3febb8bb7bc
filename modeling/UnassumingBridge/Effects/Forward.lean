import UnassumingBridge.Kernel.Dev

/-! # What forwarding does to the bridge

A frame changes nothing but the FDB, and the FDB only by what learning does with
the frame's source address and ingress port.
-/

namespace UnassumingBridge

open Support

variable {τ : Type} {cfg : Config} {s s' : Ubr τ} {env : FrameEnv} {skb skb' : Skb}

/-- What the stages before the FDB leave alone. -/
structure SameFrame (skb skb' : Skb) : Prop where
  buf : skb'.buf = skb.buf
  pidx : skb'.cb.pidx = skb.cb.pidx
  vlanFiltering : skb'.cb.vlanFiltering = skb.cb.vlanFiltering
  saLearning : skb'.cb.saLearning = skb.cb.saLearning
  ctrl : skb'.cb.ctrl = skb.cb.ctrl

theorem SameFrame.refl (skb : Skb) : SameFrame skb skb := ⟨rfl, rfl, rfl, rfl, rfl⟩

/-- The addresses that the later stages go by are the received ones. -/
structure SameAddresses (skb skb' : Skb) : Prop where
  hDest : skb'.frame.hDest = skb.frame.hDest
  hSource : skb'.frame.hSource = skb.frame.hSource

/-- The tag that the ingress stage sees: the one in the metadata, or the one it takes
    out of the packet. -/
def ingressTagProto (vlanProto : BitVec 16) (skb : Skb) : Option Be16 :=
  match skb.vlanTag with
  | some tag => some tag.proto
  | none => if skb.protocol = vlanProto then some skb.protocol else none

/-- The ingress stage finds a tag of another protocol, which it puts into the packet. -/
def Skb.Foreign (cfg : Config) (vlanProto : BitVec 16) (skb : Skb) : Prop :=
  ∃ proto, ingressTagProto vlanProto skb = some proto ∧ cfg.htons proto ≠ vlanProto

instance (cfg : Config) (vlanProto : BitVec 16) (skb : Skb) : Decidable (skb.Foreign cfg vlanProto) :=
  decidable_of_iff ((ingressTagProto vlanProto skb).any (fun proto => cfg.htons proto ≠ vlanProto) = true) <| by
    simp [Skb.Foreign, Option.any_eq_true]

theorem popTag_addresses {f g : Frame} {tci : BitVec 16} (popped : f.popTag = some (tci, g)) :
    g.hDest = f.hDest ∧ g.hSource = f.hSource := by
  simp only [Frame.popTag] at popped
  split at popped
  · cases popped
    exact ⟨rfl, rfl⟩
  · cases popped

theorem skbVlanUntag_some (untagged : skbVlanUntag cfg env skb = some skb') :
    env.untagFails = false ∧ ∃ tci frame, skb.frame.popTag = some (tci, frame) ∧
      skb' = skbResetMacLen { skb with
        frame
        protocol := vlanEncapProto cfg frame
        vlanTag := some ⟨skb.protocol, tci⟩
        networkHeader := 0 } := by
  simp only [skbVlanUntag] at untagged
  split at untagged
  · cases untagged
  · rename_i works
    split at untagged
    · cases untagged
    · rename_i tci frame popped
      cases untagged
      exact ⟨by simpa using works, tci, frame, popped, rfl⟩

section Normalise

variable {vlanProto : BitVec 16} {vid : Vid} {bare mid : Skb}

/-- The first of the tag stages: a tag that is in the packet is taken out. -/
def ubrVlanUntag (cfg : Config) (vlanProto : BitVec 16) (env : FrameEnv) (skb : Skb) : Option Skb :=
  if skb.vlanTag.isNone ∧ skb.protocol = vlanProto then skbVlanUntag cfg env skb else some skb

/-- The buffer after a tag was put into the frame at the data pointer. -/
def misplaceTag (cfg : Config) (env : FrameEnv) (tag : VlanTag) (skb : Skb) : Skb :=
  skbResetMacLen { skb with
    frame := skb.frame.insertTagAtData env.headroom env.beyond (cfg.htons tag.proto) tag.tci
    protocol := tag.proto
    networkHeader := skb.networkHeader + 4 }

/-- What the untagging stage leaves. -/
structure Untagged (vlanProto : BitVec 16) (skb bare : Skb) : Prop where
  tag : bare.vlanTag.map VlanTag.proto = ingressTagProto vlanProto skb
  buf : bare.buf = skb.buf
  cb : bare.cb = skb.cb
  addresses : SameAddresses skb bare
  same : bare = skb ∨ skb.vlanTag = none ∧ skb.protocol = vlanProto

theorem ubrVlanUntag_some (untagged : ubrVlanUntag cfg vlanProto env skb = some bare) :
    Untagged vlanProto skb bare := by
  simp only [ubrVlanUntag] at untagged
  split at untagged
  · rename_i inBand
    obtain ⟨none, proto⟩ := inBand
    have none := Option.isNone_iff_eq_none.mp none
    obtain ⟨_, tci, frame, popped, rfl⟩ := skbVlanUntag_some untagged
    obtain ⟨dest, source⟩ := popTag_addresses popped
    refine ⟨?_, rfl, rfl, ⟨dest, source⟩, .inr ⟨none, proto⟩⟩
    simp only [ingressTagProto, none, proto, if_true, skbResetMacLen_vlanTag, Option.map_some]
  · rename_i outside
    cases untagged
    refine ⟨?_, rfl, rfl, ⟨rfl, rfl⟩, .inl rfl⟩
    cases present : skb.vlanTag with
    | some tag => simp only [ingressTagProto, present, Option.map_some]
    | none =>
        have other : skb.protocol ≠ vlanProto := fun proto => outside ⟨by rw [present]; rfl, proto⟩
        simp only [ingressTagProto, present, other, if_false, Option.map_none]

theorem Untagged.foreign_iff (untagged : Untagged vlanProto skb bare) :
    skb.Foreign cfg vlanProto ↔ ∃ tag, bare.vlanTag = some tag ∧ cfg.htons tag.proto ≠ vlanProto := by
  simp only [Skb.Foreign, ← untagged.tag]
  cases bare.vlanTag with
  | none => simp
  | some tag => simp

theorem ubrVlanNormalise_lost (lost : ubrVlanUntag cfg vlanProto env skb = none) :
    ubrVlanNormalise cfg vlanProto env skb = none := by
  simp only [ubrVlanNormalise]
  exact Option.bind_eq_none_iff.mpr fun bare found => nomatch lost.symm.trans found

section Stages

variable (untagged : ubrVlanUntag cfg vlanProto env skb = some bare)

include untagged

theorem ubrVlanNormalise_none (plain : bare.vlanTag = none) :
    ubrVlanNormalise cfg vlanProto env skb = some (bare, 0) := by
  refine Option.bind_eq_some_iff.mpr ⟨bare, untagged, ?_⟩
  simp only [plain]

theorem ubrVlanNormalise_own {tag : VlanTag} (present : bare.vlanTag = some tag)
    (own : cfg.htons tag.proto = vlanProto) :
    ubrVlanNormalise cfg vlanProto env skb = some (bare, tag.tci &&& vlanVidMask) := by
  refine Option.bind_eq_some_iff.mpr ⟨bare, untagged, ?_⟩
  simp only [present, own, ne_eq, not_true_eq_false, if_false]

/-- A tag of another protocol is put in at the data pointer. -/
theorem ubrVlanNormalise_foreign {tag : VlanTag} (present : bare.vlanTag = some tag)
    (other : cfg.htons tag.proto ≠ vlanProto) :
    ubrVlanNormalise cfg vlanProto env skb =
      if env.insertFails then none else some (misplaceTag cfg env tag bare, 0) := by
  have rest : ubrVlanNormalise cfg vlanProto env skb =
      (vlanInsertTagSetProto cfg env tag bare).bind fun skb => some (skbResetMacLen skb, 0) := by
    simp only [ubrVlanNormalise, Option.bind_eq_bind]
    rw [show (if skb.vlanTag.isNone ∧ skb.protocol = vlanProto then skbVlanUntag cfg env skb else some skb) =
      some bare from untagged]
    simp only [Option.bind_some, present, ne_eq, other, not_false_eq_true, if_true]
  rw [rest, vlanInsertTagSetProto]
  split
  · rfl
  · rfl

end Stages

theorem ubrVlanNormalise_same (normal : ubrVlanNormalise cfg vlanProto env skb = some (skb', vid)) :
    SameFrame skb skb' ∧ skb'.cb = skb.cb := by
  have all (buf : skb'.buf = skb.buf) (cb : skb'.cb = skb.cb) : SameFrame skb skb' ∧ skb'.cb = skb.cb :=
    ⟨⟨buf, by rw [cb], by rw [cb], by rw [cb], by rw [cb]⟩, cb⟩
  cases untagged : ubrVlanUntag cfg vlanProto env skb with
  | none => cases (ubrVlanNormalise_lost untagged).symm.trans normal
  | some bare =>
      have first := ubrVlanUntag_some untagged
      cases present : bare.vlanTag with
      | none =>
          cases (ubrVlanNormalise_none untagged present).symm.trans normal
          exact all first.buf first.cb
      | some tag =>
          by_cases own : cfg.htons tag.proto = vlanProto
          · cases (ubrVlanNormalise_own untagged present own).symm.trans normal
            exact all first.buf first.cb
          · rw [ubrVlanNormalise_foreign untagged present own] at normal
            split at normal
            · cases normal
            · cases normal
              exact all first.buf first.cb

/-- Unless a tag of another protocol is put back, the tag handling leaves the addresses
    alone, and what lies around the frame plays no part. -/
theorem ubrVlanNormalise_kept (own : ¬ skb.Foreign cfg vlanProto) :
    (∀ mid vid, ubrVlanNormalise cfg vlanProto env skb = some (mid, vid) → SameAddresses skb mid) ∧
      ∀ headroom beyond, ubrVlanNormalise cfg vlanProto { env with headroom, beyond } skb =
        ubrVlanNormalise cfg vlanProto env skb := by
  have steady (headroom : BitVec 32) (beyond : Nat → Byte) :
      ubrVlanUntag cfg vlanProto { env with headroom, beyond } skb = ubrVlanUntag cfg vlanProto env skb := rfl
  cases untagged : ubrVlanUntag cfg vlanProto env skb with
  | none =>
      have lost := ubrVlanNormalise_lost untagged
      refine ⟨fun mid vid normal => ?_, fun headroom beyond => ?_⟩
      · cases lost.symm.trans normal
      · rw [lost, ubrVlanNormalise_lost ((steady headroom beyond).trans untagged)]
  | some bare =>
      have first := ubrVlanUntag_some untagged
      cases present : bare.vlanTag with
      | none =>
          have normal := ubrVlanNormalise_none untagged present
          refine ⟨fun mid vid result => ?_, fun headroom beyond => ?_⟩
          · cases normal.symm.trans result
            exact first.addresses
          · rw [normal, ubrVlanNormalise_none ((steady headroom beyond).trans untagged) present]
      | some tag =>
          have proto : cfg.htons tag.proto = vlanProto := by
            by_contra other
            exact own (first.foreign_iff.mpr ⟨tag, present, other⟩)
          have normal := ubrVlanNormalise_own untagged present proto
          refine ⟨fun mid vid result => ?_, fun headroom beyond => ?_⟩
          · cases normal.symm.trans result
            exact first.addresses
          · rw [normal, ubrVlanNormalise_own ((steady headroom beyond).trans untagged) present proto]

/-- A tag of another protocol goes where the data pointer is, with whatever lies around
    the frame there. -/
theorem ubrVlanNormalise_misplaced (other : skb.Foreign cfg vlanProto)
    (normal : ubrVlanNormalise cfg vlanProto env skb = some (mid, vid)) :
    ∃ bare tag, Untagged vlanProto skb bare ∧ bare.vlanTag = some tag ∧ cfg.htons tag.proto ≠ vlanProto ∧
      vid = 0 ∧ mid = misplaceTag cfg env tag bare ∧
      ∀ headroom beyond, ubrVlanNormalise cfg vlanProto { env with headroom, beyond } skb =
        some (misplaceTag cfg { env with headroom, beyond } tag bare, 0) := by
  cases untagged : ubrVlanUntag cfg vlanProto env skb with
  | none => cases (ubrVlanNormalise_lost untagged).symm.trans normal
  | some bare =>
      have first := ubrVlanUntag_some untagged
      obtain ⟨tag, present, wrong⟩ := first.foreign_iff.mp other
      have placed := ubrVlanNormalise_foreign untagged present wrong
      rw [placed] at normal
      split at normal
      · cases normal
      · rename_i works
        cases normal
        refine ⟨bare, tag, first, present, wrong, rfl, rfl, ?_⟩
        intro headroom beyond
        have again : ubrVlanUntag cfg vlanProto { env with headroom, beyond } skb = some bare := untagged
        exact (ubrVlanNormalise_foreign again present wrong).trans (if_neg works)

end Normalise

/-- The VLAN that the ingress stage of a filtering port looks at; `none` also when a
    helper has freed the buffer before. -/
def frameVlan (cfg : Config) (s : Ubr τ) (env : FrameEnv) (skb : Skb) : Except Fault (Option VlanRef) :=
  match ubrVlanNormalise cfg s.vlanProto env skb with
  | none => .ok none
  | some (_, vid) => if vid ≠ 0 then ubrVlanFind cfg s vid else .ok skb.cb.vlan

theorem frameVlan_port {mid : Skb} (normal : ubrVlanNormalise cfg s.vlanProto env skb = some (mid, 0)) :
    frameVlan cfg s env skb = .ok skb.cb.vlan := by
  simp only [frameVlan, normal, ne_eq, not_true_eq_false, if_false]

/-- The metadata tag with which a frame leaves the ingress stage. -/
def classifiedTag (cfg : Config) (vlanProto : BitVec 16) (vlan : UbrVlan) (vid : Vid) (skb : Skb) : Skb :=
  if vid ≠ 0 then skb else vlanHwaccelPutTag ⟨cfg.htons vlanProto, vlan.vid⟩ skb

theorem classifiedTag_cb (vlanProto : BitVec 16) (vlan : UbrVlan) (vid : Vid) (skb : Skb) :
    (classifiedTag cfg vlanProto vlan vid skb).cb = skb.cb := by
  simp only [classifiedTag]
  split
  · rfl
  · rfl

/-- What the ingress stage can do. -/
inductive Ingress (cfg : Config) (s : Ubr τ) (env : FrameEnv) (skb : Skb) : Bool → Option Skb → Prop where
  | unfiltered {vlan} (hub : skb.cb.vlanFiltering = false) (read : s.vlanAt skb.cb.vlan = .ok vlan) :
      Ingress cfg s env skb true (some { skb with cb.vec := skb.cb.vec.and vlan.members })
  | freed (filtering : skb.cb.vlanFiltering = true)
      (lost : ubrVlanNormalise cfg s.vlanProto env skb = none) : Ingress cfg s env skb false none
  | unknown {mid vid} (filtering : skb.cb.vlanFiltering = true)
      (normal : ubrVlanNormalise cfg s.vlanProto env skb = some (mid, vid))
      (missing : frameVlan cfg s env skb = .ok none) :
      Ingress cfg s env skb false (some { mid with cb.vlan := none })
  | foreign {mid vid r vlan} (filtering : skb.cb.vlanFiltering = true)
      (normal : ubrVlanNormalise cfg s.vlanProto env skb = some (mid, vid))
      (found : frameVlan cfg s env skb = .ok (some r)) (live : s.heap r = some vlan)
      (outside : skb.cb.pidx ∉ vlan.members) :
      Ingress cfg s env skb false
        (some (classifiedTag cfg s.vlanProto vlan vid { mid with cb.vlan := some r }))
  | accepted {mid vid r vlan} (filtering : skb.cb.vlanFiltering = true)
      (normal : ubrVlanNormalise cfg s.vlanProto env skb = some (mid, vid))
      (found : frameVlan cfg s env skb = .ok (some r)) (live : s.heap r = some vlan)
      (inside : skb.cb.pidx ∈ vlan.members) :
      Ingress cfg s env skb true
        (some { classifiedTag cfg s.vlanProto vlan vid { mid with cb.vlan := some r } with
          cb := { skb.cb with vlan := some r, vec := skb.cb.vec.and vlan.members } })

theorem ubrVlanIngress_cases {verdict : Bool} {kept : Option Skb}
    (done : ubrVlanIngress cfg s env skb = .ok (verdict, kept)) : Ingress cfg s env skb verdict kept := by
  simp only [ubrVlanIngress] at done
  split at done
  · rename_i hub
    obtain ⟨vlan, read, done⟩ := except_bind_eq_ok done
    cases done
    exact .unfiltered (by simpa using hub) read
  · rename_i filtering
    have filtering : skb.cb.vlanFiltering = true := by simpa using filtering
    split at done
    · rename_i normal
      cases done
      exact .freed filtering normal
    · rename_i mid vid normal
      have cb := (ubrVlanNormalise_same normal).2
      obtain ⟨found, walked, done⟩ := except_bind_eq_ok done
      have classified : frameVlan cfg s env skb = .ok found := by
        simp only [frameVlan, normal]
        rw [← walked, cb]
      split at done
      · rename_i unknown
        cases done
        have missing : found = none := by simpa using unknown
        subst missing
        exact .unknown filtering normal classified
      · obtain ⟨vlan, read, done⟩ := except_bind_eq_ok done
        obtain ⟨r, rfl, live⟩ := Ubr.vlanAt_eq_ok.mp read
        have marked : (if vid ≠ 0 then { mid with cb.vlan := some r } else
            vlanHwaccelPutTag ⟨cfg.htons s.vlanProto, vlan.vid⟩ { mid with cb.vlan := some r }) =
            classifiedTag cfg s.vlanProto vlan vid { mid with cb.vlan := some r } := rfl
        rw [marked] at done
        have kept : (classifiedTag cfg s.vlanProto vlan vid { mid with cb.vlan := some r }).cb = _ :=
          classifiedTag_cb s.vlanProto vlan vid _
        rw [kept] at done
        split at done
        · rename_i outside
          cases done
          exact .foreign filtering normal classified live (by rw [← cb]; exact outside)
        · rename_i inside
          cases done
          have member : skb.cb.pidx ∈ vlan.members := by simpa [cb] using inside
          have outcome := Ingress.accepted filtering normal classified live member
          rw [← cb] at outcome
          exact outcome

section Hub

variable (hub : skb.cb.vlanFiltering = false)

include hub

theorem ubrVlanIngress_hub {vlan : UbrVlan} (read : s.vlanAt skb.cb.vlan = .ok vlan) :
    ubrVlanIngress cfg s env skb = .ok (true, some { skb with cb.vec := skb.cb.vec.and vlan.members }) := by
  simp only [ubrVlanIngress, hub, read]
  rfl

theorem ubrVlanIngress_hub_fault {f : Fault} (fault : s.vlanAt skb.cb.vlan = .error f) :
    ubrVlanIngress cfg s env skb = .error f := by
  simp only [ubrVlanIngress, hub, fault]
  rfl

end Hub

theorem ubrVlanIngress_found {mid : Skb} {vid : Vid} {r : VlanRef} {vlan : UbrVlan}
    (filtering : skb.cb.vlanFiltering = true) (normal : ubrVlanNormalise cfg s.vlanProto env skb = some (mid, vid))
    (found : frameVlan cfg s env skb = .ok (some r)) (live : s.heap r = some vlan) :
    ubrVlanIngress cfg s env skb =
      if skb.cb.pidx ∉ vlan.members then
        .ok (false, some (classifiedTag cfg s.vlanProto vlan vid { mid with cb.vlan := some r }))
      else .ok (true, some { classifiedTag cfg s.vlanProto vlan vid { mid with cb.vlan := some r } with
        cb := { skb.cb with vlan := some r, vec := skb.cb.vec.and vlan.members } }) := by
  have cb := (ubrVlanNormalise_same normal).2
  have walked : (if vid ≠ 0 then ubrVlanFind cfg s vid else .ok mid.cb.vlan) = .ok (some r) := by
    rw [cb]
    simpa only [frameVlan, normal] using found
  have read : s.vlanAt (some r) = .ok vlan := Ubr.vlanAt_some live
  obtain ⟨marked, mark⟩ : ∃ marked, marked =
      classifiedTag cfg s.vlanProto vlan vid { mid with cb.vlan := some r } := ⟨_, rfl⟩
  have kept : marked.cb = { skb.cb with vlan := some r } := by rw [mark, classifiedTag_cb, cb]
  have ingress : ubrVlanIngress cfg s env skb =
      if marked.cb.pidx ∉ vlan.members then .ok (false, some marked)
      else .ok (true, some { marked with cb.vec := marked.cb.vec.and vlan.members }) := by
    simp only [ubrVlanIngress, filtering, normal, walked, mark]
    change (s.vlanAt (some r) >>= _) = _
    rw [read]
    rfl
  rw [ingress, kept, ← mark]

theorem ubrVlanIngress_missing {mid : Skb} {vid : Vid} (filtering : skb.cb.vlanFiltering = true)
    (normal : ubrVlanNormalise cfg s.vlanProto env skb = some (mid, vid))
    (missing : frameVlan cfg s env skb = .ok none) :
    ubrVlanIngress cfg s env skb = .ok (false, some { mid with cb.vlan := none }) := by
  have cb := (ubrVlanNormalise_same normal).2
  have walked : (if vid ≠ 0 then ubrVlanFind cfg s vid else .ok mid.cb.vlan) = .ok none := by
    rw [cb]
    simpa only [frameVlan, normal] using missing
  simp only [ubrVlanIngress, filtering, normal, walked]
  rfl

/-- What lies around the frame plays no part in the verdict. It gets into the frame when a
    tag of another protocol is put in where the data pointer is. -/
theorem Ingress.foreign_dest {verdict : Bool} {copy : Skb} (filtering : skb.cb.vlanFiltering = true)
    (other : skb.Foreign cfg s.vlanProto) (ingress : Ingress cfg s env skb verdict (some copy)) :
    ∃ rest : BitVec 16, ∀ headroom beyond, ∃ copy', copy'.frame.hDest = (headroom ++ rest : Mac) ∧
      ubrVlanIngress cfg s { env with headroom, beyond } skb = .ok (verdict, some copy') := by
  have vlan {mid : Skb} {vid : Vid} (normal : ubrVlanNormalise cfg s.vlanProto env skb = some (mid, vid)) :
      ∃ bare tag, vid = 0 ∧ frameVlan cfg s env skb = .ok skb.cb.vlan ∧ ∀ headroom beyond,
        ubrVlanNormalise cfg s.vlanProto { env with headroom, beyond } skb =
            some (misplaceTag cfg { env with headroom, beyond } tag bare, 0) ∧
          frameVlan cfg s { env with headroom, beyond } skb = .ok skb.cb.vlan := by
    obtain ⟨bare, tag, _, _, _, rfl, _, steady⟩ := ubrVlanNormalise_misplaced other normal
    exact ⟨bare, tag, rfl, frameVlan_port normal, fun headroom beyond =>
      ⟨steady headroom beyond, frameVlan_port (steady headroom beyond)⟩⟩
  cases ingress with
  | unfiltered hub => cases hub.symm.trans filtering
  | unknown _ normal missing =>
      obtain ⟨bare, tag, _, here, steady⟩ := vlan normal
      refine ⟨bare.frame.hDest.extractLsb' 32 16, fun headroom beyond => ?_⟩
      obtain ⟨normal', vlan'⟩ := steady headroom beyond
      have missing' := vlan'.trans (here.symm.trans missing)
      exact ⟨_, rfl, ubrVlanIngress_missing filtering normal' missing'⟩
  | @foreign mid vid r v _ normal found live outside =>
      obtain ⟨bare, tag, _, here, steady⟩ := vlan normal
      refine ⟨bare.frame.hDest.extractLsb' 32 16, fun headroom beyond => ?_⟩
      obtain ⟨normal', vlan'⟩ := steady headroom beyond
      have found' := vlan'.trans (here.symm.trans found)
      exact ⟨_, rfl, (ubrVlanIngress_found filtering normal' found' live).trans (if_pos outside)⟩
  | @accepted mid vid r v _ normal found live inside =>
      obtain ⟨bare, tag, _, here, steady⟩ := vlan normal
      refine ⟨bare.frame.hDest.extractLsb' 32 16, fun headroom beyond => ?_⟩
      obtain ⟨normal', vlan'⟩ := steady headroom beyond
      have found' := vlan'.trans (here.symm.trans found)
      exact ⟨_, rfl, (ubrVlanIngress_found filtering normal' found' live).trans (if_neg (not_not.mpr inside))⟩

theorem ubrVlanIngress_steady (own : skb.cb.vlanFiltering = true → ¬ skb.Foreign cfg s.vlanProto) (headroom : BitVec 32)
    (beyond : Nat → Byte) :
    ubrVlanIngress cfg s { env with headroom, beyond } skb = ubrVlanIngress cfg s env skb := by
  cases filtering : skb.cb.vlanFiltering with
  | false => simp only [ubrVlanIngress, filtering, Bool.not_false, if_true]
  | true => simp only [ubrVlanIngress, (ubrVlanNormalise_kept (own filtering)).2]

theorem Ingress.same {verdict : Bool} (ingress : Ingress cfg s env skb verdict (some skb')) :
    SameFrame skb skb' := by
  have marked (vlan : UbrVlan) (vid : Vid) (mid : Skb) :
      SameFrame mid (classifiedTag cfg s.vlanProto vlan vid mid) := by
    simp only [classifiedTag]
    split
    · exact .refl mid
    · exact ⟨rfl, rfl, rfl, rfl, rfl⟩
  cases ingress with
  | unfiltered hub read => exact ⟨rfl, rfl, rfl, rfl, rfl⟩
  | unknown filtering normal missing =>
      obtain ⟨same, _⟩ := ubrVlanNormalise_same normal
      exact ⟨same.buf, same.pidx, same.vlanFiltering, same.saLearning, same.ctrl⟩
  | @foreign mid vid r vlan filtering normal found live outside =>
      obtain ⟨same, _⟩ := ubrVlanNormalise_same normal
      have tag := marked vlan vid { mid with cb.vlan := some r }
      exact ⟨tag.buf.trans same.buf, tag.pidx.trans same.pidx, tag.vlanFiltering.trans same.vlanFiltering,
        tag.saLearning.trans same.saLearning, tag.ctrl.trans same.ctrl⟩
  | @accepted mid vid r vlan filtering normal found live inside =>
      obtain ⟨same, _⟩ := ubrVlanNormalise_same normal
      have tag := marked vlan vid { mid with cb.vlan := some r }
      exact ⟨tag.buf.trans same.buf, rfl, rfl, rfl, rfl⟩

/-- A frame keeps its addresses unless the port filters and its tag is of another protocol. -/
theorem Ingress.addresses {verdict : Bool} (ingress : Ingress cfg s env skb verdict (some skb'))
    (own : skb.cb.vlanFiltering = true → ¬ skb.Foreign cfg s.vlanProto) : SameAddresses skb skb' := by
  have marked (vlan : UbrVlan) (vid : Vid) (mid : Skb) :
      (classifiedTag cfg s.vlanProto vlan vid mid).frame = mid.frame := by
    simp only [classifiedTag]
    split
    · rfl
    · rfl
  cases ingress with
  | unfiltered hub read => exact ⟨rfl, rfl⟩
  | unknown filtering normal missing =>
      have same := (ubrVlanNormalise_kept (own filtering)).1 _ _ normal
      exact ⟨same.hDest, same.hSource⟩
  | @foreign mid vid r vlan filtering normal | @accepted mid vid r vlan filtering normal =>
      have same := (ubrVlanNormalise_kept (own filtering)).1 _ _ normal
      have frame := marked vlan vid { mid with cb.vlan := some r }
      exact ⟨(congrArg Frame.hDest frame).trans same.hDest, (congrArg Frame.hSource frame).trans same.hSource⟩

/-- The frame as the tag handling of the ingress stage leaves it, unless a helper frees it. -/
def ingressFrame (cfg : Config) (u : Ubr τ) (env : FrameEnv) (skb : Skb) : Option Skb :=
  if skb.cb.vlanFiltering then (ubrVlanNormalise cfg u.vlanProto env skb).map Prod.fst else some skb

/-- The same bytes, and what the kernel has noted about them. -/
structure SameBytes (skb skb' : Skb) : Prop where
  frame : skb'.frame = skb.frame
  protocol : skb'.protocol = skb.protocol
  networkHeader : skb'.networkHeader = skb.networkHeader
  macLen : skb'.macLen = skb.macLen

/-- Behind its tag handling the ingress stage is concerned with the VLAN only. -/
theorem Ingress.frame {verdict : Bool} {copy : Skb} (ingress : Ingress cfg s env skb verdict (some copy)) :
    ∃ mid, ingressFrame cfg s env skb = some mid ∧ SameFrame mid copy ∧ SameBytes mid copy := by
  have marked (vlan : UbrVlan) (vid : Vid) (mid : Skb) :
      SameBytes mid (classifiedTag cfg s.vlanProto vlan vid mid) := by
    simp only [classifiedTag]
    split
    · exact ⟨rfl, rfl, rfl, rfl⟩
    · exact ⟨rfl, rfl, rfl, rfl⟩
  have entered {mid : Skb} {vid : Vid} (filtering : skb.cb.vlanFiltering = true)
      (normal : ubrVlanNormalise cfg s.vlanProto env skb = some (mid, vid)) :
      ingressFrame cfg s env skb = some mid ∧ SameFrame skb mid := by
    refine ⟨?_, (ubrVlanNormalise_same normal).1⟩
    simp only [ingressFrame, filtering, if_true, normal, Option.map_some]
  have same := ingress.same
  have before {mid : Skb} (first : SameFrame skb mid) : SameFrame mid copy :=
    ⟨same.buf.trans first.buf.symm, same.pidx.trans first.pidx.symm, same.vlanFiltering.trans first.vlanFiltering.symm,
      same.saLearning.trans first.saLearning.symm, same.ctrl.trans first.ctrl.symm⟩
  cases ingress with
  | unfiltered hub =>
      refine ⟨skb, by simp only [ingressFrame, hub, Bool.false_eq_true, if_false], same, ⟨rfl, rfl, rfl, rfl⟩⟩
  | unknown filtering normal =>
      obtain ⟨enters, first⟩ := entered filtering normal
      exact ⟨_, enters, before first, ⟨rfl, rfl, rfl, rfl⟩⟩
  | @foreign mid vid r vlan filtering normal | @accepted mid vid r vlan filtering normal =>
      obtain ⟨enters, first⟩ := entered filtering normal
      have tag := marked vlan vid { mid with cb.vlan := some r }
      exact ⟨mid, enters, before first, ⟨tag.frame, tag.protocol, tag.networkHeader, tag.macLen⟩⟩

section Stages

variable [Jiffies τ] {now : τ} {verdict : Bool} {copy : Skb} {vlan : UbrVlan}

theorem ubrForward_freed (ingress : ubrVlanIngress cfg s env skb = .ok (verdict, none)) :
    ubrForward cfg s now env skb = ⟨[], .error .useAfterFree⟩ := by
  simp only [ubrForward, ingress]
  rfl

theorem ubrForward_fault {f : Fault} (ingress : ubrVlanIngress cfg s env skb = .ok (verdict, some copy))
    (ctrl : copy.cb.ctrl = false) (fault : s.vlanAt copy.cb.vlan = .error f) :
    ubrForward cfg s now env skb = ⟨[], .error f⟩ := by
  simp only [ubrForward, ingress, Logged.lift_ok_bind, ctrl, fault]
  rfl

theorem ubrForward_rejected (ingress : ubrVlanIngress cfg s env skb = .ok (false, some copy))
    (ctrl : copy.cb.ctrl = false) (read : s.vlanAt copy.cb.vlan = .ok vlan) :
    ubrForward cfg s now env skb =
      ⟨[.free copy.buf], .ok ({ s with fdb := ubrFdbLearned s.fdb now env vlan copy }, false)⟩ := by
  simp only [ubrForward, ingress, Logged.lift_ok_bind, ctrl, read]
  rfl

theorem ubrForward_accepted (ingress : ubrVlanIngress cfg s env skb = .ok (true, some copy))
    (ctrl : copy.cb.ctrl = false) (read : s.vlanAt copy.cb.vlan = .ok vlan) :
    ubrForward cfg s now env skb =
      (ubrDeliver cfg { s with fdb := ubrFdbLearned s.fdb now env vlan copy } env
        (ubrFdbForward cfg s.fdb now env vlan copy).2 >>= fun _ =>
          pure ({ s with fdb := ubrFdbLearned s.fdb now env vlan copy }, false)) := by
  simp only [ubrForward, ingress, Logged.lift_ok_bind, ctrl, read]
  rfl

end Stages

variable [Jiffies τ] {now : τ}

/-- The only trace of a frame in the bridge is in the FDB. -/
theorem ubrForward_res {handed : Bool} (done : (ubrForward cfg s now env skb).res = .ok (s', handed)) :
    s' = s ∨ ∃ vlan r verdict copy, s.heap r = some vlan ∧
      ubrVlanIngress cfg s env skb = .ok (verdict, some copy) ∧ copy.cb.vlan = some r ∧
      s' = { s with fdb := ubrFdbLearned s.fdb now env vlan copy } := by
  obtain ⟨⟨allow, kept⟩, ingress, done⟩ := Logged.res_bind_eq_ok done
  cases kept with
  | none => cases done
  | some copy =>
      simp only [Logged.lift_res] at ingress
      simp only at done
      split at done
      · cases done
        exact .inl rfl
      · obtain ⟨vlan, read, done⟩ := Logged.res_bind_eq_ok done
        obtain ⟨r, pointer, live⟩ := Ubr.vlanAt_eq_ok.mp read
        refine .inr ⟨vlan, r, allow, copy, live, ingress, pointer, ?_⟩
        split at done
        · obtain ⟨_, _, done⟩ := Logged.res_bind_eq_ok done
          cases done
          rfl
        · obtain ⟨_, _, done⟩ := Logged.res_bind_eq_ok done
          cases done
          rfl

end UnassumingBridge
