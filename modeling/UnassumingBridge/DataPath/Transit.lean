import UnassumingBridge.Effects.Transit
import UnassumingBridge.Invariants.Registry
import UnassumingBridge.DataPath.Delivery

/-! # Tagged members and frames in flight

A frame has its recipients from the members of its VLAN, and each copy looks for its
port among the tagged ones later. `ubr_vlan_port_add` and `ubr_vlan_port_del` order
their writes so that every member is tagged at any time, which is not enough for a
copy whose port stopped to be a member while the frame was in flight.
-/

namespace UnassumingBridge

open Support

variable {τ : Type}

/-- A frame from a filtering port, in the VLAN with that VID. -/
def Skb.ofVlan (s : Ubr τ) (vid : Vid) (skb : Skb) : Bool :=
  skb.cb.vlanFiltering && (skb.cb.vlan.bind s.heap).any fun v => v.vid = vid

/-- A frame of the VLAN leaves through the port, the host being port 0, without a tag. -/
def SkbEvent.leaks (s : Ubr τ) (vid : Vid) (q : Pidx) : SkbEvent → Bool
  | .down p _ skb => decide (p = q) && skb.ofVlan s vid && skb.vlanTag.isNone
  | .up skb => decide (q = 0) && skb.ofVlan s vid && skb.vlanTag.isNone
  | .free _ => false

/-- The port joins the VLAN as tagged only. -/
def Transit.TaggedOnly (vid : Vid) (q : Pidx) (s : Transit τ) : TransitEvent → Prop
  | .attach v port tagged => v = vid → ubrPortFind s.sys.ubr (some port) = .ok q → tagged ≠ 0
  -- a new port joins VLAN 0 as untagged
  | .around (.portAdd dev _) => vid = 0 → s.sys.initSlot dev ≠ some q
  | _ => True

/-- The next write takes the port from the tagged ones of the VLAN. -/
def Transit.untags (vid : Vid) (q : Pidx) (s : Transit τ) : Bool :=
  match s.writes with
  | .clearTagged r p :: _ => decide (p = q) && (s.sys.ubr.heap r).any fun v => v.vid = vid
  | _ => false

/-- The port is taken from the tagged ones when no frame of the VLAN has still to come to it. -/
def Transit.Drained (vid : Vid) (q : Pidx) (s : Transit τ) : TransitEvent → Prop
  | .write => s.untags vid q = true → ∀ f ∈ s.flight, f.skb.ofVlan s.sys.ubr vid = true → q ∉ f.todo
  | _ => True

instance (vid : Vid) (q : Pidx) (s : Transit τ) : (e : TransitEvent) → Decidable (s.TaggedOnly vid q e)
  | .attach v port tagged =>
      inferInstanceAs (Decidable (v = vid → ubrPortFind s.sys.ubr (some port) = .ok q → tagged ≠ 0))
  | .around (.portAdd dev _) => inferInstanceAs (Decidable (vid = 0 → s.sys.initSlot dev ≠ some q))
  | .detach .. | .write | .rx .. | .xmit .. | .egress .. => .isTrue trivial
  | .around (.rx ..) | .around (.xmit ..) | .around (.age ..) | .around (.tick ..) | .around (.portDel ..)
  | .around (.portCleanup ..) | .around (.vlanAdd ..) | .around (.vlanDel ..) | .around (.vlanFree ..)
  | .around (.vlanAttach ..) | .around (.vlanDetach ..) | .around (.portSet ..) | .around (.devChange ..) =>
      .isTrue trivial

instance (vid : Vid) (q : Pidx) (s : Transit τ) : (e : TransitEvent) → Decidable (s.Drained vid q e)
  | .write => inferInstanceAs (Decidable (s.untags vid q = true → ∀ f ∈ s.flight,
      f.skb.ofVlan s.sys.ubr vid = true → q ∉ f.todo))
  | .around .. | .attach .. | .detach .. | .rx .. | .xmit .. | .egress .. => .isTrue trivial

theorem ofVlan_iff {s : Ubr τ} {vid : Vid} {skb : Skb} : skb.ofVlan s vid = true ↔
    skb.cb.vlanFiltering = true ∧ ∃ r v, skb.cb.vlan = some r ∧ s.heap r = some v ∧ v.vid = vid := by
  cases pointer : skb.cb.vlan with
  | none => simp [Skb.ofVlan, pointer]
  | some r => cases live : s.heap r <;> simp [Skb.ofVlan, pointer, live]

section Copies

variable {cfg : Config} {s : Ubr τ} {env : FrameEnv} {skb : Skb} {vid : Vid} {p q : Pidx}

theorem skbVlanPush_tag (fails atMac : Bool) (tag : VlanTag) :
    (skbVlanPush cfg fails atMac tag skb).vlanTag ≠ none := by
  cases present : skb.vlanTag with
  | none => simp [skbVlanPush, present, vlanHwaccelPutTag]
  | some old =>
      simp only [skbVlanPush, present]
      split
      · simp [vlanHwaccelPutTag]
      · simp [present]

/-- The port is not among the tagged ones of the frame's VLAN. -/
def Ubr.Strips (s : Ubr τ) (vid : Vid) (cb : UbrCb) (p : Pidx) : Prop :=
  cb.vlanFiltering = true ∧ ∃ r v, cb.vlan = some r ∧ s.heap r = some v ∧ v.vid = vid ∧ p ∉ v.tagged

/-- A copy that has lost its tag was for a port that is not among the tagged ones. -/
theorem ubrEgressTag_leaks {atMac : Bool} {c : Skb} (tagged : ubrEgressTag cfg s env atMac skb p = .ok c)
    (inside : c.ofVlan s vid = true) (bare : c.vlanTag = none) : s.Strips vid skb.cb p := by
  cases filtering : skb.cb.vlanFiltering with
  | false =>
      simp only [ubrEgressTag, filtering] at tagged
      cases tagged
      simp [ofVlan_iff, filtering] at inside
  | true =>
      simp only [ubrEgressTag, filtering, if_true] at tagged
      obtain ⟨v, read, tagged⟩ := except_bind_eq_ok tagged
      obtain ⟨r, pointer, live⟩ := Ubr.vlanAt_eq_ok.mp read
      split at tagged
      · cases tagged
        exact absurd bare (skbVlanPush_tag (env.pushFails p) atMac _)
      · rename_i outside
        cases tagged
        obtain ⟨_, _, w, pointer', live', same⟩ := ofVlan_iff.mp inside
        cases pointer.symm.trans pointer'
        cases live.symm.trans live'
        exact ⟨filtering, r, v, pointer, live, same, outside⟩

theorem ubrCommonEgress_tagged {atMac : Bool} {c : Skb} (tagged : ubrEgressTag cfg s env atMac skb p = .ok c) :
    ubrCommonEgress cfg s env atMac skb p =
      if vlanGetProtocol cfg atMac c = 0 then ⟨[.free c.buf], .ok none⟩ else ⟨[], .ok (some c)⟩ := by
  simp only [ubrCommonEgress, tagged]
  rw [Logged.bind_ok rfl]
  split
  · rfl
  · rfl

theorem ubrCommonEgress_untagged {atMac : Bool} {f : Fault} (stopped : ubrEgressTag cfg s env atMac skb p = .error f) :
    ubrCommonEgress cfg s env atMac skb p = ⟨[], .error f⟩ := by
  simp only [ubrCommonEgress, stopped]
  rfl

theorem leaks_of_ubrDeliverDown {e : SkbEvent} (sent : e ∈ (ubrDeliverDown cfg s env skb p).log)
    (leak : e.leaks s vid q = true) : q = p ∧ s.Strips vid skb.cb p := by
  simp only [ubrDeliverDown] at sent
  cases tagged : ubrEgressTag cfg s env true { skb with dev := (s.ports p).dev } p with
  | error f =>
      rw [ubrCommonEgress_untagged tagged, Logged.bind_error rfl] at sent
      exact absurd sent List.not_mem_nil
  | ok c =>
      rw [ubrCommonEgress_tagged tagged] at sent
      split at sent
      · rw [Logged.bind_ok rfl] at sent
        have freed : e = .free c.buf := by simpa [Logged.lift] using sent
        subst freed
        cases leak
      · rw [Logged.bind_ok rfl] at sent
        simp only [List.nil_append] at sent
        split at sent
        · exact absurd sent List.not_mem_nil
        · rename_i dev plugged
          have down : e = .down p dev c := List.mem_singleton.mp sent
          subst down
          simp only [SkbEvent.leaks, Bool.and_eq_true, decide_eq_true_eq, Option.isNone_iff_eq_none] at leak
          have strips := ubrEgressTag_leaks tagged leak.1.2 leak.2
          exact ⟨leak.1.1.symm, strips⟩

theorem leaks_of_ubrDeliverUp {e : SkbEvent} (sent : e ∈ (ubrDeliverUp cfg s env skb).log)
    (leak : e.leaks s vid q = true) : q = 0 ∧ s.Strips vid skb.cb 0 := by
  simp only [ubrDeliverUp] at sent
  cases tagged : ubrEgressTag cfg s env false { skb with dev := some s.dev } 0 with
  | error f =>
      rw [ubrCommonEgress_untagged tagged, Logged.bind_error rfl] at sent
      exact absurd sent List.not_mem_nil
  | ok c =>
      rw [ubrCommonEgress_tagged tagged] at sent
      split at sent
      · rw [Logged.bind_ok rfl] at sent
        have freed : e = .free c.buf := by simpa [Logged.lift] using sent
        subst freed
        cases leak
      · rw [Logged.bind_ok rfl] at sent
        have up := List.mem_singleton.mp sent
        subst up
        simp only [SkbEvent.leaks, Bool.and_eq_true, decide_eq_true_eq, Option.isNone_iff_eq_none] at leak
        have inside : c.ofVlan s vid = true := leak.1.2
        have strips := ubrEgressTag_leaks tagged inside leak.2
        exact ⟨leak.1.1, strips⟩

theorem shift_leaks {s s' : Transit τ} {event : TransitEvent} {log : List SkbEvent} {e : SkbEvent}
    (shift : Shift cfg s event s' log) (inside : e ∈ log) (leak : e.leaks s.sys.ubr vid q = true) :
    ∃ f ∈ s.flight, q ∈ f.todo ∧ s.sys.ubr.Strips vid f.skb.cb q := by
  cases shift with
  | around | refused | attach | detach | write | entered => exact absurd inside List.not_mem_nil
  | dropped fdb buf =>
      cases List.mem_singleton.mp inside
      cases leak
  | cut unsent =>
      have freed := unsent e inside
      cases e with
      | free buf => cases leak
      | down | up => cases freed
  | @last i env f p here todo =>
      have flying := List.mem_of_getElem? here
      split at inside
      · rename_i host
        obtain ⟨rfl, strips⟩ := leaks_of_ubrDeliverUp inside leak
        exact ⟨f, flying, by simp [todo, host], strips⟩
      · obtain ⟨rfl, strips⟩ := leaks_of_ubrDeliverDown inside leak
        exact ⟨f, flying, by simp [todo], strips⟩
  | @copied i env f p rest here todo =>
      obtain ⟨rfl, strips⟩ := leaks_of_ubrDeliverDown inside leak
      exact ⟨f, List.mem_of_getElem? here, by simp [todo], strips⟩

end Copies

/-- What a command or a callback can do to the objects of a VLAN: a new one is empty, and
    in the others the port does not appear. -/
structure Keeps (vid : Vid) (q : Pidx) (u u' : Ubr τ) : Prop where
  grows : u.nextVlan ≤ u'.nextVlan
  objects : ∀ r v', u'.heap r = some v' → v'.vid = vid →
    (r = u.nextVlan ∧ q ∉ v'.members) ∨
      ∃ v, u.heap r = some v ∧ v.vid = vid ∧ v'.tagged = v.tagged ∧ (q ∈ v'.members → q ∈ v.members)

section Around

variable {cfg : Config} {s : Transit τ} {vid : Vid} {q : Pidx}

theorem Keeps.same {u u' : Ubr τ} (heap : u'.heap = u.heap) (next : u'.nextVlan = u.nextVlan) : Keeps vid q u u' where
  grows := le_of_eq next.symm
  objects _ v' live same := by
    rw [heap] at live
    exact .inr ⟨v', live, same, rfl, id⟩

theorem Keeps.put {u u' : Ubr τ} {r : VlanRef} {v w : UbrVlan} (live : u.heap r = some v)
    (heap : u'.heap = (u.putVlan r w).heap) (next : u'.nextVlan = u.nextVlan) (sameVid : w.vid = v.vid)
    (tagged : w.tagged = v.tagged) (members : v.vid = vid → q ∈ w.members → q ∈ v.members) : Keeps vid q u u' where
  grows := le_of_eq next.symm
  objects x v' written same := by
    rw [heap] at written
    rcases putVlan_heap written with ⟨rfl, rfl⟩ | ⟨_, old⟩
    · have vids := sameVid.symm.trans same
      exact .inr ⟨v, live, vids, tagged, members vids⟩
    · exact .inr ⟨v', old, same, rfl, id⟩

theorem plugged_members {dev : Dev} {k : Pidx} {r : VlanRef} {v : UbrVlan} (begun : s.sys.initSlot dev = some k)
    (other : vid = 0 → s.sys.initSlot dev ≠ some q) (found : ubrVlanFind cfg s.sys.ubr 0 = .ok (some r))
    (live : s.sys.ubr.heap r = some v) (vids : v.vid = vid) (inside : q ∈ (v.attach k false).members) :
    q ∈ v.members := by
  obtain ⟨_, w, read, zero⟩ := findInBucket_some found
  cases live.symm.trans read
  have apart := other (vids.symm.trans zero)
  rcases Bitmap.mem_set.mp inside with rfl | old
  · exact absurd begun apart
  · exact old

theorem around_keeps {e : Event} {u : Ubr τ} (free : s.Free e) (effect : Effect cfg s.sys e u)
    (taggedOnly : s.TaggedOnly vid q (.around e)) : Keeps vid q s.sys.ubr u := by
  cases effect with
  | quiet fdb | pvidSet slot found | portDeleted slave owned idle | portCleaned queued once => exact .same rfl rfl
  | @vlanAdded new _ missing =>
      refine ⟨Nat.le_succ _, fun r v' added same => ?_⟩
      have added : (s.sys.ubr.addVlan cfg new).heap r = some v' := added
      rcases addVlan_heap_cases added with ⟨new, rfl⟩ | ⟨_, old⟩
      · exact .inl ⟨new, Bitmap.mem_zero q⟩
      · exact .inr ⟨v', old, same, rfl, id⟩
  | vlanDeleted found live same fresh =>
      exact .put live rfl rfl rfl rfl fun _ inside => absurd inside (Bitmap.mem_zero q)
  | @vlanFreed r queued =>
      refine ⟨le_refl _, fun x v' left same => ?_⟩
      by_cases here : x = r
      · simp [ubrVlanDelRcu, here] at left
      · exact .inr ⟨v', by simpa [ubrVlanDelRcu, here] using left, same, rfl, id⟩
  | attached | detached => exact free.elim
  | portAdded begun whole found live => exact .put live rfl rfl rfl rfl (plugged_members begun taggedOnly found live)
  | portAddFailed begun broken found live idle =>
      exact .put live rfl rfl rfl rfl (plugged_members begun taggedOnly found live)

end Around

/-- What a command has still to write, with what its first write has left. -/
inductive Pending (vid : Vid) (q : Pidx) (u : Ubr τ) : List BitWrite → Prop where
  | idle : Pending vid q u []
  | tag {r p} (old : r < u.nextVlan) : Pending vid q u [.setTagged r p, .setMember r p]
  | join {r p} (old : r < u.nextVlan)
      (tagged : ∀ v, u.heap r = some v → v.vid = vid → p = q → q ∈ v.tagged) : Pending vid q u [.setMember r p]
  | leave {r p} (old : r < u.nextVlan) : Pending vid q u [.clearMember r p, .clearTagged r p]
  | untag {r p} (old : r < u.nextVlan)
      (left : ∀ v, u.heap r = some v → v.vid = vid → p = q → q ∉ v.members) : Pending vid q u [.clearTagged r p]

/-- The port is tagged wherever it is a member of the VLAN, and wherever a frame of the
    VLAN has still to come to it. -/
structure Sealed (cfg : Config) (vid : Vid) (q : Pidx) (s : Transit τ) : Prop where
  vlans : VlansOk cfg s.sys.ubr
  members : ∀ r v, s.sys.ubr.heap r = some v → v.vid = vid → q ∈ v.members → q ∈ v.tagged
  writes : Pending vid q s.sys.ubr s.writes
  flight : ∀ f ∈ s.flight, f.skb.cb.vlanFiltering = true → q ∈ f.todo → ∀ r, f.skb.cb.vlan = some r →
    r < s.sys.ubr.nextVlan ∧ ∀ v, s.sys.ubr.heap r = some v → v.vid = vid → q ∈ v.tagged

section Keep

variable {cfg : Config} {vid : Vid} {q : Pidx} {s : Transit τ} {u : Ubr τ}

theorem Keeps.tagged (keeps : Keeps vid q s.sys.ubr u) {r : VlanRef} (old : r < s.sys.ubr.nextVlan)
    (tagged : ∀ v, s.sys.ubr.heap r = some v → v.vid = vid → q ∈ v.tagged) :
    ∀ v, u.heap r = some v → v.vid = vid → q ∈ v.tagged := by
  intro v' live same
  rcases keeps.objects r v' live same with ⟨new, _⟩ | ⟨v, before, vids, kept, _⟩
  · exact absurd new (Nat.ne_of_lt old)
  · rw [kept]
    exact tagged v before vids

theorem Pending.keep {writes : List BitWrite} {u u' : Ubr τ} (pending : Pending vid q u writes)
    (keeps : Keeps vid q u u') : Pending vid q u' writes := by
  cases pending with
  | idle => exact .idle
  | tag old => exact .tag (Nat.lt_of_lt_of_le old keeps.grows)
  | leave old => exact .leave (Nat.lt_of_lt_of_le old keeps.grows)
  | join old tagged =>
      refine .join (Nat.lt_of_lt_of_le old keeps.grows) fun v' live same here => ?_
      rcases keeps.objects _ v' live same with ⟨new, _⟩ | ⟨v, before, vids, kept, _⟩
      · exact absurd new (Nat.ne_of_lt old)
      · rw [kept]
        exact tagged v before vids here
  | untag old left =>
      refine .untag (Nat.lt_of_lt_of_le old keeps.grows) fun v' live same here inside => ?_
      rcases keeps.objects _ v' live same with ⟨new, _⟩ | ⟨v, before, vids, _, member⟩
      · exact absurd new (Nat.ne_of_lt old)
      · exact left v before vids here (member inside)

theorem Sealed.keep {sys : Sys τ} (ok : Sealed cfg vid q s) (keeps : Keeps vid q s.sys.ubr sys.ubr)
    (vlans : VlansOk cfg sys.ubr) : Sealed cfg vid q { s with sys } where
  vlans := vlans
  members r v' live same inside := by
    rcases keeps.objects r v' live same with ⟨_, fresh⟩ | ⟨v, before, vids, kept, member⟩
    · exact absurd inside fresh
    · rw [kept]
      exact ok.members r v before vids (member inside)
  writes := ok.writes.keep keeps
  flight f flying filtering todo r pointer := by
    obtain ⟨old, tagged⟩ := ok.flight f flying filtering todo r pointer
    exact ⟨Nat.lt_of_lt_of_le old keeps.grows, keeps.tagged old tagged⟩

theorem Sealed.put {r : VlanRef} {v w : UbrVlan} {rest : List BitWrite} (ok : Sealed cfg vid q s)
    (live : s.sys.ubr.heap r = some v) (sameVid : w.vid = v.vid)
    (members : v.vid = vid → q ∈ w.members → q ∈ w.tagged)
    (tagged : v.vid = vid → q ∈ v.tagged → q ∈ w.tagged ∨
      ∀ f ∈ s.flight, f.skb.cb.vlanFiltering = true → f.skb.cb.vlan = some r → q ∉ f.todo)
    (writes : Pending vid q (s.sys.ubr.putVlan r w) rest) :
    Sealed cfg vid q { s with sys.ubr := s.sys.ubr.putVlan r w, writes := rest } where
  vlans := ok.vlans.put live sameVid
  members x u written same inside := by
    rcases putVlan_heap written with ⟨rfl, rfl⟩ | ⟨_, old⟩
    · exact members (sameVid.symm.trans same) inside
    · exact ok.members x u old same inside
  writes := writes
  flight f flying filtering todo x pointer := by
    obtain ⟨old, before⟩ := ok.flight f flying filtering todo x pointer
    refine ⟨old, fun u written same => ?_⟩
    rcases putVlan_heap written with ⟨rfl, rfl⟩ | ⟨_, live'⟩
    · have vids := sameVid.symm.trans same
      rcases tagged vids (before v live vids) with kept | drained
      · exact kept
      · exact absurd todo (drained f flying filtering pointer)
    · exact before u live' same

theorem putVlan_self {r : VlanRef} {v w : UbrVlan} (written : (u.putVlan r w).heap r = some v) : v = w := by
  rcases putVlan_heap written with ⟨_, same⟩ | ⟨other, _⟩
  · exact same
  · exact absurd rfl other

theorem BitWrite.on_vid (w : BitWrite) (v : UbrVlan) : (w.on v).vid = v.vid := by
  cases w <;> rfl

theorem Sealed.write {w : BitWrite} {rest : List BitWrite} (ok : Sealed cfg vid q s) (pending : s.writes = w :: rest)
    (drained : s.Drained vid q .write) (applied : w.apply s.sys.ubr = .ok u) :
    Sealed cfg vid q { s with sys.ubr := u, writes := rest } := by
  have writes := ok.writes
  obtain ⟨v, live, rfl⟩ := bitWrite_apply_ok applied
  rw [pending] at writes
  cases writes with
  | @tag r p old =>
      apply ok.put live (BitWrite.on_vid (.setTagged r p) v)
      · exact fun vids inside => Bitmap.mem_set.mpr (.inr (ok.members r v live vids inside))
      · exact fun _ tagged => .inl (Bitmap.mem_set.mpr (.inr tagged))
      · refine .join old fun u written _ here => ?_
        rw [putVlan_self written]
        exact Bitmap.mem_set.mpr (.inl here.symm)
  | @join r p old tagged =>
      apply ok.put live (BitWrite.on_vid (.setMember r p) v)
      · intro vids inside
        rcases Bitmap.mem_set.mp inside with same | before
        · exact tagged v live vids same.symm
        · exact ok.members r v live vids before
      · exact fun _ kept => .inl kept
      · exact .idle
  | @leave r p old =>
      apply ok.put live (BitWrite.on_vid (.clearMember r p) v)
      · exact fun vids inside => ok.members r v live vids (Bitmap.mem_clear.mp inside).2
      · exact fun _ kept => .inl kept
      · refine .untag old fun u written _ here inside => ?_
        rw [putVlan_self written] at inside
        exact (Bitmap.mem_clear.mp inside).1 here.symm
  | @untag r p old left =>
      apply ok.put live (BitWrite.on_vid (.clearTagged r p) v)
      · intro vids inside
        apply Bitmap.mem_clear.mpr
        exact ⟨fun same => left v live vids same.symm inside, ok.members r v live vids inside⟩
      · intro vids tagged
        by_cases same : q = p
        · refine .inr fun f flying filtering pointer => drained ?_ f flying ?_
          · have here : s.sys.ubr.heap r = some v := live
            simp [Transit.untags, pending, same, here, vids]
          · exact ofVlan_iff.mpr ⟨filtering, r, v, pointer, live, vids⟩
        · exact .inl (Bitmap.mem_clear.mpr ⟨same, tagged⟩)
      · exact .idle

theorem Sealed.begin {writes : List BitWrite} (ok : Sealed cfg vid q s) (pending : Pending vid q s.sys.ubr writes) :
    Sealed cfg vid q { s with writes } :=
  ⟨ok.vlans, ok.members, pending, ok.flight⟩

theorem Sealed.learned (ok : Sealed cfg vid q s) (fdb : UbrFdb τ) : Sealed cfg vid q { s with sys.ubr.fdb := fdb } :=
  ok.keep (.same rfl rfl) ⟨ok.vlans.hashed, ok.vlans.unique, ok.vlans.bounded, ok.vlans.queued⟩

theorem Sealed.fewer {flight : List Copying} (ok : Sealed cfg vid q s)
    (fewer : ∀ f ∈ flight, ∃ g ∈ s.flight, f.skb = g.skb ∧ ∀ p ∈ f.todo, p ∈ g.todo) :
    Sealed cfg vid q { s with flight } := by
  refine ⟨ok.vlans, ok.members, ok.writes, fun f flying filtering todo r pointer => ?_⟩
  obtain ⟨g, before, same, shrunk⟩ := fewer f flying
  rw [same] at filtering pointer
  exact ok.flight g before filtering (shrunk q todo) r pointer

theorem Sealed.erase (ok : Sealed cfg vid q s) (i : Nat) :
    Sealed cfg vid q { s with flight := s.flight.eraseIdx i } :=
  ok.fewer fun f left => ⟨f, List.mem_of_mem_eraseIdx left, rfl, fun _ inside => inside⟩

theorem Sealed.entered {skb : Skb} (ok : Sealed cfg vid q s) (classified : skb.Classified s.sys.ubr) :
    Sealed cfg vid q { s with flight := s.flight ++ [⟨skb, deliveryOrder skb.cb.vec⟩] } := by
  refine ⟨ok.vlans, ok.members, ok.writes, fun f flying filtering todo r pointer => ?_⟩
  rcases List.mem_append.mp flying with before | new
  · exact ok.flight f before filtering todo r pointer
  · cases List.mem_singleton.mp new
    obtain ⟨x, v, pointer', live, members⟩ := classified
    cases pointer.symm.trans pointer'
    refine ⟨ok.vlans.bounded r v live, fun w live' vids => ?_⟩
    cases live.symm.trans live'
    exact ok.members r v live vids (members q (mem_deliveryOrder todo))

theorem Sealed.step {e : TransitEvent} {s' : Transit τ} {log : List SkbEvent} (ok : Sealed cfg vid q s)
    (taggedOnly : s.TaggedOnly vid q e) (drained : s.Drained vid q e) (shift : Shift cfg s e s' log) :
    Sealed cfg vid q s' := by
  cases shift with
  | around free effect => exact ok.keep (around_keeps free effect taggedOnly) (ok.vlans.step effect)
  | refused => exact ok
  | @attach v port tagged r u p live same slot =>
      have old := ok.vlans.bounded r u live
      cases marked : tagged != 0 with
      | true => exact ok.begin (.tag old)
      | false =>
          refine ok.begin (.join old fun w live' vids here => ?_)
          cases live.symm.trans live'
          rw [here] at slot
          have bare : tagged = 0 := by simpa using marked
          exact absurd bare (taggedOnly (same.symm.trans vids) slot)
  | @detach v port r u p live same slot => exact ok.begin (.leave (ok.vlans.bounded r u live))
  | write pending applied => exact ok.write pending drained applied
  | dropped fdb buf => exact ok.learned fdb
  | entered fdb classified => exact (ok.entered classified).learned fdb
  | cut unsent => exact ok.erase _
  | last here todo => exact ok.erase _
  | @copied i env f p rest here todo =>
      refine ok.fewer fun g left => ?_
      rcases List.mem_or_eq_of_mem_set left with before | rfl
      · exact ⟨g, before, rfl, fun _ inside => inside⟩
      · refine ⟨f, List.mem_of_getElem? here, rfl, fun x inside => ?_⟩
        rw [todo]
        exact List.mem_cons_of_mem p inside

/-- Port 0 is in VLAN 0 from the beginning, untagged; no other port is in a VLAN. -/
theorem init_sealed (other : vid ≠ 0 ∨ q ≠ 0) (start : s.sys.Init cfg ∧ s.writes = [] ∧ s.flight = []) :
    Sealed cfg vid q s := by
  obtain ⟨init, writes, flight⟩ := start
  obtain ⟨dev, devAddr, fresh⟩ := init_ubr init
  refine ⟨?_, fun r v live same inside => ?_, ?_, ?_⟩
  · rw [fresh]
    exact .fresh dev devAddr
  · rw [fresh] at live
    rcases putVlan_heap live with ⟨rfl, rfl⟩ | ⟨old, live⟩
    · rcases Bitmap.mem_set.mp inside with host | nobody
      · rcases other with apart | apart
        · exact absurd same.symm apart
        · exact absurd host apart
      · exact absurd nobody (Bitmap.mem_zero q)
    · have added : ((zeroedUbr dev devAddr : Ubr τ).addVlan cfg 0).heap r = some v := live
      rcases addVlan_heap_cases added with ⟨zero, _⟩ | ⟨_, before⟩
      · exact absurd zero old
      · cases before
  · rw [writes]
    exact .idle
  · rw [flight]
    exact fun f flying => absurd flying List.not_mem_nil

theorem not_leaks (ok : Sealed cfg vid q s) {event : TransitEvent} {s' : Transit τ} {log : List SkbEvent}
    (shift : Shift cfg s event s' log) : ∀ e ∈ log, e.leaks s.sys.ubr vid q = false := by
  intro e inside
  by_contra leak
  obtain ⟨f, flying, todo, filtering, r, v, pointer, live, vids, outside⟩ :=
    shift_leaks shift inside (by simpa using leak)
  exact outside ((ok.flight f flying filtering todo r pointer).2 v live vids)

end Keep

abbrev TransitHistory (τ : Type) := List (Transition (Transit τ) TransitEvent Outcome)

/-- A port that joins a VLAN as tagged only, and leaves it when no frame of the VLAN has
    still to come to it, never gets a frame of the VLAN without a tag. -/
theorem tagged_member_never_leaks [Jiffies τ] {cfg : Config} {vid : Vid} {q : Pidx} {tr : TransitHistory τ}
    {s : Transit τ} (other : vid ≠ 0 ∨ q ≠ 0)
    (run : Run (transit τ cfg) (fun s e => s.TaggedOnly vid q e ∧ s.Drained vid q e) tr s) :
    ∀ t ∈ tr, ∀ e ∈ t.ret.log, e.leaks t.pre.sys.ubr vid q = false := by
  have invariant : Sealed cfg vid q s ∧ ∀ t ∈ tr, ∀ e ∈ t.ret.log, e.leaks t.pre.sys.ubr vid q = false := by
    refine run.invariant (I := fun tr s => Sealed cfg vid q s ∧ ∀ t ∈ tr, ∀ e ∈ t.ret.log,
      e.leaks t.pre.sys.ubr vid q = false) ?_ ?_
    · exact fun s start => ⟨init_sealed other start, fun t inside => absurd inside List.not_mem_nil⟩
    · intro tr s e s' o _ ok enabled guards done
      have shift := exec_shift enabled done
      exact ⟨ok.1.step guards.1 guards.2 shift, List.forall_mem_cons.mpr ⟨not_leaks ok.1 shift, ok.2⟩⟩
  exact invariant.2

theorem booted_transit (cfg : Config) : (transit Nat cfg).Init ⟨booted cfg, [], []⟩ := ⟨booted_init cfg, rfl, rfl⟩

theorem run_transit (cfg : Config) (C : Transit Nat → TransitEvent → Prop) [∀ s e, Decidable (C s e)]
    (es : List TransitEvent) (test : TransitHistory Nat → Transit Nat → Bool)
    (passed : ((transit Nat cfg).play C es ([], ⟨booted cfg, [], []⟩)).any (fun out => test out.1 out.2) = true) :
    ∃ tr s, Run (transit Nat cfg) C tr s ∧ test tr s = true :=
  Machine.exists_run_of_play es (booted_transit cfg) test passed

/-- Two tagged members of VLAN 10; frames that come in on the first one are of that VLAN. -/
def twoMembers : List TransitEvent :=
  [.around (.portAdd 1 {}), .around (.portAdd 2 {}), .around (.vlanAdd 10 false), .attach 10 1 1, .write, .write,
    .attach 10 2 1, .write, .write, .around (.portSet (some 1) 10)]

/-- The second port leaves, and the frame for it is gone between the two writes. -/
theorem tagged_member_never_leaks_x86 :
    ∃ tr s, Run (transit Nat x86) (fun s e => s.TaggedOnly 10 2 e ∧ s.Drained 10 2 e) tr s ∧
      (tr.any fun t => t.ret.log.any (SkbEvent.isDown 2)) = true ∧
      ∀ t ∈ tr, ∀ e ∈ t.ret.log, e.leaks t.pre.sys.ubr 10 2 = false := by
  obtain ⟨tr, s, run, sent⟩ := run_transit x86 (fun s e => s.TaggedOnly 10 2 e ∧ s.Drained 10 2 e)
    (twoMembers ++ [.rx 1 broadcastFrame {}, .detach 10 2, .write, .egress 0 {}, .write])
    (fun tr _ => tr.any fun t => t.ret.log.any (SkbEvent.isDown 2)) (by decide +kernel)
  exact ⟨tr, s, run, sent, tagged_member_never_leaks (.inl (by decide)) run⟩

/-- The second port leaves while a frame has still to come to it. -/
theorem leaving_member_gets_untagged :
    ¬ ∀ (vid : Vid) (q : Pidx) tr s, (vid ≠ 0 ∨ q ≠ 0) →
      Run (transit Nat x86) (fun s e => s.TaggedOnly vid q e) tr s →
      ∀ t ∈ tr, ∀ e ∈ t.ret.log, e.leaks t.pre.sys.ubr vid q = false := by
  intro claim
  obtain ⟨tr, s, run, leak⟩ := run_transit x86 (fun s e => s.TaggedOnly 10 2 e)
    (twoMembers ++ [.rx 1 broadcastFrame {}, .detach 10 2, .write, .write, .egress 0 {}])
    (fun tr _ => tr.any fun t => t.ret.log.any fun e => e.leaks t.pre.sys.ubr 10 2) (by decide +kernel)
  obtain ⟨t, inside, leak⟩ := List.any_eq_true.mp leak
  obtain ⟨e, sent, leak⟩ := List.any_eq_true.mp leak
  rw [claim 10 2 tr s (.inl (by decide)) run t inside e sent] at leak
  cases leak

end UnassumingBridge
