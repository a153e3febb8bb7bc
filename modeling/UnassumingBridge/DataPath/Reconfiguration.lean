import UnassumingBridge.DataPath.Classification
import UnassumingBridge.DataPath.Transparency

/-! # Ports whose PVID changes

`ubr_port_nl_set_cmd` writes the VLAN and the filtering flag of a port one after the
other, and a frame copies both in between. Unless the port keeps its mode, what the frame
finds is neither the old configuration nor the new one.
-/

namespace UnassumingBridge

open Support

variable {τ : Type} {cfg : Config}

/-- A field that `ubr_port_nl_set_cmd` writes. -/
inductive PortWrite where
  | setPvid (pvid : Vid)
  | setVlan (vlan : Option VlanRef)
  | setFiltering (vlanFiltering : Bool)

def PortWrite.on (p : UbrPort) : PortWrite → UbrPort
  | .setPvid pvid => { p with pvid }
  | .setVlan vlan => { p with ingressCb.vlan := vlan }
  | .setFiltering vlanFiltering => { p with ingressCb.vlanFiltering := vlanFiltering }

/-- `ubr_port_nl_set_cmd` in program order, with what `ubr_vlan_find` returns -/
def portSetWrites (pvid : Vid) (vlan : Option VlanRef) : List PortWrite :=
  [.setPvid pvid, .setVlan vlan, .setFiltering (pvid != 0)]

/-- The control block of the port between two of the writes. -/
def UbrPort.Between (p : UbrPort) (writes : List PortWrite) (cb : UbrCb) : Prop :=
  ∃ done todo, done ≠ [] ∧ todo ≠ [] ∧ writes = done ++ todo ∧ cb = (done.foldl PortWrite.on p).ingressCb

/-- A frame with the one control block takes the way of a frame with the other: the verdict, the VLAN, the
    vector, the tag and the flag that egress goes by are the same, and so is all that follows. -/
structure TreatedAs [Jiffies τ] (cfg : Config) (s : Ubr τ) (env : FrameEnv) (skb : Skb) (cb cb' : UbrCb) : Prop where
  ingress : ubrVlanIngress cfg s env { skb with cb } = ubrVlanIngress cfg s env { skb with cb := cb' }
  forward now : ubrForward cfg s now env { skb with cb } = ubrForward cfg s now env { skb with cb := cb' }

/-- A frame that finds `cb` is treated as with the old or the new one, and a port that does not
    filter has a VLAN. -/
structure Seamless [Jiffies τ] (cfg : Config) (s : Ubr τ) (env : FrameEnv) (skb : Skb) (old new cb : UbrCb) : Prop where
  treated : TreatedAs cfg s env skb cb old ∨ TreatedAs cfg s env skb cb new
  hub : cb.vlanFiltering = false → cb.vlan ≠ none

/-- The VLAN of the port is not for the frame: it has a VID, or a helper frees it first. -/
def Skb.OwnVid (cfg : Config) (vlanProto : BitVec 16) (env : FrameEnv) (skb : Skb) : Prop :=
  ∀ mid, ubrVlanNormalise cfg vlanProto env skb ≠ some (mid, 0)

/-- The port goes on filtering or goes on as a hub, or its VLAN stays the same, or does not matter. -/
structure KeepsMode (cfg : Config) (s : Ubr τ) (env : FrameEnv) (skb : Skb) (old : UbrCb) (pvid : Vid)
    (vlan : Option VlanRef) : Prop where
  mode : old.vlanFiltering = (pvid != 0) ∨ old.vlan = vlan ∨
    old.vlanFiltering = true ∧ skb.OwnVid cfg s.vlanProto env
  hub : old.vlanFiltering = false → old.vlan ≠ none ∧ vlan ≠ none

theorem portSetWrites_done (p : UbrPort) (pvid : Vid) (vlan : Option VlanRef) :
    (portSetWrites pvid vlan).foldl PortWrite.on p = p.setPvid pvid vlan := rfl

/-- After the first write frames find the old configuration, after the second a mixed one. -/
theorem between_iff {p : UbrPort} {pvid : Vid} {vlan : Option VlanRef} {cb : UbrCb} :
    p.Between (portSetWrites pvid vlan) cb ↔ cb = p.ingressCb ∨ cb = { p.ingressCb with vlan } := by
  constructor
  · intro ⟨done, todo, begun, unfinished, split, same⟩
    match done, split with
    | [], _ => exact absurd rfl begun
    | [_], split =>
        cases split
        exact .inl same
    | [_, _], split =>
        cases split
        exact .inr same
    | [_, _, _], split =>
        cases split
        exact absurd rfl unfinished
  · intro either
    rcases either with rfl | rfl
    · exact ⟨[.setPvid pvid], [.setVlan vlan, .setFiltering (pvid != 0)], nofun, nofun, rfl, rfl⟩
    · exact ⟨[.setPvid pvid, .setVlan vlan], [.setFiltering (pvid != 0)], nofun, nofun, rfl, rfl⟩

section Ingress

variable {s : Ubr τ} {env : FrameEnv} {skb mid kept : Skb} {verdict : Bool} {pvid : Vid} {vlan : Option VlanRef}

theorem normalise_withCb (vlanProto : BitVec 16) (cb : UbrCb) :
    ubrVlanNormalise cfg vlanProto env { skb with cb } =
      (ubrVlanNormalise cfg vlanProto env skb).map fun out => ({ out.1 with cb }, out.2) := by
  have untag : skbVlanUntag cfg env { skb with cb } = (skbVlanUntag cfg env skb).map fun mid => { mid with cb } := by
    simp only [skbVlanUntag]
    split
    · rfl
    · split
      · rfl
      · rfl
  have insert (tag : VlanTag) (mid : Skb) : vlanInsertTagSetProto cfg env tag { mid with cb } =
      (vlanInsertTagSetProto cfg env tag mid).map fun mid => { mid with cb } := by
    simp only [vlanInsertTagSetProto]
    split
    · rfl
    · rfl
  have first : (if skb.vlanTag.isNone ∧ skb.protocol = vlanProto then skbVlanUntag cfg env { skb with cb }
      else some { skb with cb }) = (if skb.vlanTag.isNone ∧ skb.protocol = vlanProto then skbVlanUntag cfg env skb
      else some skb).map fun mid => { mid with cb } := by
    split
    · exact untag
    · rfl
  simp only [ubrVlanNormalise, first]
  cases (if skb.vlanTag.isNone ∧ skb.protocol = vlanProto then skbVlanUntag cfg env skb else some skb) with
  | none => rfl
  | some mid =>
      obtain ⟨buf, dev, frame, protocol, vlanTag, networkHeader, macLen, pktHost, own⟩ := mid
      simp only [Option.map_some, bind, Option.bind]
      cases vlanTag with
      | none => rfl
      | some tag =>
          by_cases foreign : cfg.htons tag.proto ≠ vlanProto
          · obtain ⟨mid, same⟩ : ∃ mid : Skb, mid =
                ⟨buf, dev, frame, protocol, some tag, networkHeader, macLen, pktHost, own⟩ := ⟨_, rfl⟩
            have inserted := insert tag mid
            simp only [same] at inserted
            simp only [if_pos foreign, inserted, ← same]
            cases vlanInsertTagSetProto cfg env tag mid with
            | none => rfl
            | some rewritten => rfl
          · simp only [if_neg foreign]
            rfl

theorem ingress_vlan (forPort : skb.cb.vlanFiltering = true →
      ∃ mid, ubrVlanNormalise cfg s.vlanProto env skb = some (mid, 0))
    (done : ubrVlanIngress cfg s env skb = .ok (verdict, some kept)) :
    kept.cb.vlan = skb.cb.vlan ∧ kept.cb.vlanFiltering = skb.cb.vlanFiltering := by
  have ingress := ubrVlanIngress_cases done
  have port (filtering : skb.cb.vlanFiltering = true) : frameVlan cfg s env skb = .ok skb.cb.vlan := by
    obtain ⟨mid, normal⟩ := forPort filtering
    exact frameVlan_port normal
  refine ⟨?_, ingress.same.vlanFiltering⟩
  cases ingress with
  | unfiltered hub read => rfl
  | unknown filtering _ missing => exact (Except.ok.inj ((port filtering).symm.trans missing)).symm
  | @foreign mid vid r vlan filtering _ found =>
      rw [classifiedTag_cb]
      exact (Except.ok.inj ((port filtering).symm.trans found)).symm
  | accepted filtering _ found => exact (Except.ok.inj ((port filtering).symm.trans found)).symm

theorem ingress_ends (skb : Skb) (found : ubrVlanFind cfg s pvid = .ok vlan) (pointer : skb.cb.vlan = vlan)
    (hub : skb.cb.vlanFiltering = false → vlan ≠ none)
    (forPort : skb.cb.vlanFiltering = true → ∃ mid, ubrVlanNormalise cfg s.vlanProto env skb = some (mid, 0)) :
    ∃ verdict kept, ubrVlanIngress cfg s env skb = .ok (verdict, some kept) := by
  have live {r : VlanRef} (named : vlan = some r) : ∃ v, s.heap r = some v := by
    obtain ⟨_, v, read, _⟩ := findInBucket_some (named ▸ found)
    exact ⟨v, read⟩
  cases filtering : skb.cb.vlanFiltering with
  | false =>
      obtain ⟨r, named⟩ := Option.ne_none_iff_exists'.mp (hub filtering)
      obtain ⟨v, read⟩ := live named
      have follows : s.vlanAt skb.cb.vlan = .ok v := by rw [pointer, named, Ubr.vlanAt_some read]
      exact ⟨_, _, ubrVlanIngress_hub filtering follows⟩
  | true =>
      obtain ⟨mid, normal⟩ := forPort filtering
      have port : frameVlan cfg s env skb = .ok vlan := by rw [frameVlan_port normal, pointer]
      obtain ⟨admitted, admits⟩ : ∃ admitted, s.admits skb.cb.pidx vlan = .ok admitted := by
        cases named : vlan with
        | none => exact ⟨none, admits_none s _⟩
        | some r =>
            obtain ⟨v, read⟩ := live named
            exact ⟨_, admits_some read⟩
      obtain ⟨copy, ingress, _⟩ := ubrVlanIngress_decides filtering normal port admits
      exact ⟨_, copy, ingress⟩

theorem ingress_own_vid {cb : UbrCb} (filtering : cb.vlanFiltering = true) (own : skb.OwnVid cfg s.vlanProto env)
    (pointer : Option VlanRef) : ubrVlanIngress cfg s env { skb with cb := { cb with vlan := pointer } } =
      ubrVlanIngress cfg s env { skb with cb } := by
  obtain ⟨pidx, vlanFiltering, saLearning, ctrl, vlan, vec⟩ := cb
  have on : vlanFiltering = true := filtering
  subst on
  simp only [ubrVlanIngress, normalise_withCb]
  cases normal : ubrVlanNormalise cfg s.vlanProto env skb with
  | none => rfl
  | some out =>
      obtain ⟨mid, vid⟩ := out
      have named : vid ≠ 0 := fun bare => own mid (bare ▸ normal)
      simp only [Option.map_some, ne_eq, named, not_false_eq_true, if_true, Bool.not_true, Bool.false_eq_true, if_false]

end Ingress

section Treated

variable [Jiffies τ] {s : Ubr τ} {env : FrameEnv} {skb : Skb} {old new cb : UbrCb}

theorem treatedAs_of_ingress
    (same : ubrVlanIngress cfg s env { skb with cb } = ubrVlanIngress cfg s env { skb with cb := old }) :
    TreatedAs cfg s env skb cb old where
  ingress := same
  forward now := by simp only [ubrForward, same]

theorem TreatedAs.refl (cb : UbrCb) : TreatedAs cfg s env skb cb cb := ⟨rfl, fun _ => rfl⟩

variable {p : UbrPort} {pvid : Vid} {vlan : Option VlanRef}

theorem seamless_of_keepsMode (keeps : KeepsMode cfg s env skb p.ingressCb pvid vlan)
    (between : p.Between (portSetWrites pvid vlan) cb) :
    Seamless cfg s env skb p.ingressCb (p.setPvid pvid vlan).ingressCb cb := by
  rcases between_iff.mp between with rfl | rfl
  · exact ⟨.inl (.refl _), fun hub => (keeps.hub hub).1⟩
  · refine ⟨?_, fun hub => (keeps.hub hub).2⟩
    rcases keeps.mode with same | same | ⟨filtering, own⟩
    · right
      have complete : { p.ingressCb with vlan } = (p.setPvid pvid vlan).ingressCb := by
        simp only [UbrPort.setPvid, same]
      exact complete ▸ .refl _
    · left
      exact same ▸ .refl _
    · left
      exact treatedAs_of_ingress (ingress_own_vid filtering own vlan)

/-- A frame that is in the port's VLAN can tell the mixed control block from both. -/
theorem keepsMode_of_seamless (found : ubrVlanFind cfg s pvid = .ok vlan)
    (seamless : ∀ cb, p.Between (portSetWrites pvid vlan) cb →
      Seamless cfg s env skb p.ingressCb (p.setPvid pvid vlan).ingressCb cb) :
    KeepsMode cfg s env skb p.ingressCb pvid vlan := by
  have first := seamless p.ingressCb (between_iff.mpr (.inl rfl))
  have second := seamless { p.ingressCb with vlan } (between_iff.mpr (.inr rfl))
  refine ⟨?_, fun hub => ⟨first.hub hub, second.hub hub⟩⟩
  by_contra mixed
  simp only [not_or, not_and] at mixed
  obtain ⟨switches, moves, port⟩ := mixed
  have forPort (filtering : p.ingressCb.vlanFiltering = true) (cb : UbrCb) :
      ∃ mid, ubrVlanNormalise cfg s.vlanProto env { skb with cb } = some (mid, 0) := by
    have mine := port filtering
    simp only [Skb.OwnVid, ne_eq, not_forall, not_not] at mine
    obtain ⟨mid, normal⟩ := mine
    exact ⟨_, by rw [normalise_withCb, normal]; rfl⟩
  obtain ⟨verdict, kept, half⟩ := ingress_ends { skb with cb := { p.ingressCb with vlan } } found rfl second.hub
    fun filtering => forPort filtering _
  have halfVlan := ingress_vlan (fun filtering => forPort filtering _) half
  rcases second.treated with asOld | asNew
  · have old := asOld.ingress.symm.trans half
    have oldVlan := ingress_vlan (fun filtering => forPort filtering _) old
    exact moves (oldVlan.1.symm.trans halfVlan.1)
  · have new := asNew.ingress.symm.trans half
    exact switches (halfVlan.2.symm.trans (ubrVlanIngress_cases new).same.vlanFiltering)

end Treated

/-- No frame notices that a PVID is set if, and only if, the port keeps its mode. -/
theorem pvid_change_seamless_iff [Jiffies τ] {s : Ubr τ} {pvid : Vid} {vlan : Option VlanRef}
    (found : ubrVlanFind cfg s pvid = .ok vlan) (p : UbrPort) (env : FrameEnv) (skb : Skb) :
    (∀ cb, p.Between (portSetWrites pvid vlan) cb →
      Seamless cfg s env skb p.ingressCb (p.setPvid pvid vlan).ingressCb cb) ↔
        KeepsMode cfg s env skb p.ingressCb pvid vlan :=
  ⟨keepsMode_of_seamless found, fun keeps _ between => seamless_of_keepsMode keeps between⟩

/-- A port with the PVID 5 gets the PVID 6. It filters before and after, and no frame notices. -/
theorem pvid_change_seamless_x86 : ∃ (s : Sys Nat) (vlan : Option VlanRef), Reachable (bridge Nat x86) s ∧
    ubrVlanFind x86 s.ubr 6 = .ok vlan ∧ (s.ubr.ports 1).pvid = 5 ∧ ∀ env skb cb,
      (s.ubr.ports 1).Between (portSetWrites 6 vlan) cb →
        Seamless x86 s.ubr env skb (s.ubr.ports 1).ingressCb ((s.ubr.ports 1).setPvid 6 vlan).ingressCb cb := by
  obtain ⟨tr, s, run, test⟩ := run_booted x86 (fun _ _ => True)
    [.portAdd 1 {}, .vlanAdd 5 false, .vlanAdd 6 false, .portSet (some 1) 5]
    (fun _ s => (ubrVlanFind x86 s.ubr 6).toOption.isSome && (s.ubr.ports 1).pvid == 5 &&
      (s.ubr.ports 1).ingressCb.vlanFiltering) (by decide +kernel)
  simp only [Bool.and_eq_true, beq_iff_eq] at test
  obtain ⟨⟨found, old⟩, filtering⟩ := test
  obtain ⟨vlan, found⟩ := Option.isSome_iff_exists.mp found
  have named := ok_of_toOption found
  refine ⟨s, vlan, run.reachable, named, old, fun env skb => ?_⟩
  refine (pvid_change_seamless_iff named (s.ubr.ports 1) env skb).mpr ⟨.inl filtering, fun hub => ?_⟩
  cases filtering.symm.trans hub

/-- Port 1 is about to get the PVID 5, whose VLAN has port 2 only. A frame that comes in between goes to port 2;
    before it went to the host as well, and afterwards it is rejected. -/
theorem pvid_change_shows :
    ¬ ∀ s : Sys Nat, Reachable (bridge Nat x86) s → ∀ p pvid vlan, ubrVlanFind x86 s.ubr pvid = .ok vlan →
      ∀ cb, (s.ubr.ports p).Between (portSetWrites pvid vlan) cb → ∀ env skb,
        Seamless x86 s.ubr env skb (s.ubr.ports p).ingressCb ((s.ubr.ports p).setPvid pvid vlan).ingressCb cb := by
  intro claim
  obtain ⟨tr, s, run, test⟩ := run_booted x86 (fun _ _ => True)
    [.portAdd 1 {}, .portAdd 2 {}, .vlanAdd 5 false, .vlanAttach 5 2 0]
    (fun _ s => (ubrVlanFind x86 s.ubr 5).toOption == some (some 1) &&
      deliverySet (ubrForward x86 s.ubr 0 {}
        { broadcastFrame with cb := { (s.ubr.ports 1).ingressCb with vlan := some 1 } }).log == [2] &&
      deliverySet (ubrForward x86 s.ubr 0 {} { broadcastFrame with cb := (s.ubr.ports 1).ingressCb }).log == [2, 0] &&
      deliverySet (ubrForward x86 s.ubr 0 {}
        { broadcastFrame with cb := ((s.ubr.ports 1).setPvid 5 (some 1)).ingressCb }).log == [])
    (by decide +kernel)
  simp only [Bool.and_eq_true, beq_iff_eq] at test
  obtain ⟨⟨⟨found, half⟩, old⟩, new⟩ := test
  have seamless := claim s run.reachable 1 5 (some 1) (ok_of_toOption found) _ (between_iff.mpr (.inr rfl)) {}
    broadcastFrame
  rcases seamless.treated with asOld | asNew
  · rw [asOld.forward 0, old] at half
    cases half
  · rw [asNew.forward 0, new] at half
    cases half

end UnassumingBridge
