import UnassumingBridge.DataPath.Picture

/-! # A bridge that is used in order is a learning switch

Every event of such a bridge is mirrored by the learning switch that pictures it. So the
bridge never crashes, and what is true of every learning switch is true of the bridge. The
clock has any number of bits that the timeout leaves room in, and may wrap.
-/

namespace UnassumingBridge

open Support

variable {w : Nat} {cfg : Config} {s : Sys (BitVec w)} {a : LearningSwitch.State Vid Pidx Mac}

section Commands

theorem mirrors_of_leaves {e : Event} {u : Ubr (BitVec w)} (leaves : s.Leaves cfg e u)
    (enabled : a.Enabled (design cfg) (s.meaning cfg e)) (silent : a.answer (design cfg) (s.meaning cfg e) = none)
    (pictures : Pictures cfg u s.jiffies (a.next (design cfg) (s.meaning cfg e))) : Mirrors cfg s a e := by
  obtain ⟨s', ret, done, ubr, clock⟩ := leaves
  refine ⟨enabled, s', { ret }, done, ?_, ?_⟩
  · rw [silent]
    rfl
  · rw [ubr, clock]
    exact pictures

theorem mirrors_of_idle {e : Event} {u : Ubr (BitVec w)} (idle : s.meaning cfg e = .idle) (leaves : s.Leaves cfg e u)
    (pictures : Pictures cfg u s.jiffies a) : Mirrors cfg s a e := by
  apply mirrors_of_leaves leaves
  · rw [idle]
    trivial
  · rw [idle]
    rfl
  · rw [idle]
    exact pictures

variable (ok : Tidy cfg s) (pictures : Pictures cfg s.ubr s.jiffies a)
include ok pictures

theorem mirrors_portAdd {dev : Dev} {env : PortAddEnv} (order : s.InOrder cfg (.portAdd dev env)) :
    Mirrors cfg s a (.portAdd dev env) := by
  cases begun : s.initSlot dev with
  | none =>
      have idle : s.meaning cfg (.portAdd dev env) = .idle := by
        unfold Sys.meaning
        simp only [begun, Option.filter_none]
      exact mirrors_of_idle idle (Tidy.portAdd_refused begun) pictures
  | some k =>
      have whole := ok.completes order.members rfl begun
      have plugs : s.meaning cfg (.portAdd dev env) = .plug k := by
        have kept : (s.initSlot dev).filter (fun k => s.completes dev env k) = some k := by simp [begun, whole]
        unfold Sys.meaning
        simp only [kept]
      obtain ⟨r, v, found, object, home⟩ := ok.registered_iff.mp ok.host_registered
      have unused := initSlot_idle begun
      have clean := ok.ports.clean k unused (order.slots k begun)
      apply mirrors_of_leaves (ok.portAdd_plugged begun whole found object)
      · rw [plugs]
        exact fun inside => unused ((pictures.ports k).mp inside)
      · rw [plugs]
        rfl
      · rw [plugs]
        exact pictures.plug ok.vlans object home clean dev

theorem mirrors_portDel (wide : 0 < w) (half : 300 * cfg.hz < 2 ^ (w - 1)) {dev : Dev}
    (enabled : s.Enabled (.portDel dev)) (order : s.InOrder cfg (.portDel dev)) : Mirrors cfg s a (.portDel dev) := by
  obtain ⟨k, slave⟩ := Option.isSome_iff_exists.mp enabled
  have unplugs : s.meaning cfg (.portDel dev) = .unplug k := by
    unfold Sys.meaning
    simp only [slave]
  apply mirrors_of_leaves (ok.portDel_vacated slave)
  · rw [unplugs]
    exact (pictures.ports k).mpr (ok.slaves.slaves dev k slave).1
  · rw [unplugs]
    rfl
  · rw [unplugs]
    apply pictures.vacate wide half
    · intro r v object
      have live := ok.live object
      exact order.members k slave r (ok.vlans.bounded r v object) v object live.2
    · intro vid m node found current
      apply order.entries k slave node (Table.mem_of_lookup found)
      rwa [← Bool.not_eq_true, isOld_iff_lapsed, pictures.timeout]

theorem mirrors_portCleanup {k : Pidx} (queued : k ∈ s.ubr.portRcu) : Mirrors cfg s a (.portCleanup k) := by
  refine mirrors_of_idle rfl ok.portCleanup_zeroed (pictures.rewire rfl rfl pictures.ports (fun j inUse => ?_) rfl rfl)
  have other : j ≠ k := fun here => ok.ports.pendingIdle k queued (here ▸ inUse)
  rw [Ubr.putPort_other _ _ other]
  exact pictures.pvid j inUse

theorem mirrors_vlanAdd (vid : Vid) (zallocFails : Bool) : Mirrors cfg s a (.vlanAdd vid zallocFails) := by
  by_cases refused : zallocFails = true ∨ s.ubr.registered cfg vid = true
  · have idle : s.meaning cfg (.vlanAdd vid zallocFails) = .idle := by
      unfold Sys.meaning
      simp only [Bool.or_eq_true, if_pos refused]
    exact mirrors_of_idle idle (ok.vlanAdd_refused refused) pictures
  · obtain ⟨works, unknown⟩ := not_or.mp refused
    have works : zallocFails = false := by simpa using works
    have missing : ubrVlanFind cfg s.ubr vid = .ok none := by
      rcases ok.find vid with ⟨r, v, found, object, same⟩ | ⟨missing, _⟩
      · exact absurd (ok.registered_iff.mpr ⟨r, v, found, object, same⟩) unknown
      · exact missing
    have adds : s.meaning cfg (.vlanAdd vid zallocFails) = .add vid := by
      unfold Sys.meaning
      simp only [Bool.or_eq_true, if_neg refused]
    subst works
    apply mirrors_of_leaves (Tidy.vlanAdd_registered missing)
    · rw [adds]
      exact pictures.absent vid fun r v => not_live_of_find_none ok.vlans missing
    · rw [adds]
      rfl
    · rw [adds]
      exact pictures.register ok.vlans missing

theorem mirrors_vlanDel {vid : Vid} (order : s.InOrder cfg (.vlanDel vid)) : Mirrors cfg s a (.vlanDel vid) := by
  have gone : s.ubr.registered cfg vid = false := order.vlans
  have missing : ubrVlanFind cfg s.ubr vid = .ok none := by
    rcases ok.find vid with ⟨r, v, found, object, same⟩ | ⟨missing, _⟩
    · rw [ok.registered_iff.mpr ⟨r, v, found, object, same⟩] at gone
      cases gone
    · exact missing
  exact mirrors_of_idle rfl (Tidy.vlanDel_refused missing) pictures

theorem mirrors_portSet (port : Option Dev) (pvid : Vid) : Mirrors cfg s a (.portSet port pvid) := by
  cases slot : ubrPortFind s.ubr port with
  | error e =>
      have idle : s.meaning cfg (.portSet port pvid) = .idle := by
        unfold Sys.meaning
        simp only [slot]
      exact mirrors_of_idle idle (Tidy.portSet_refused slot) pictures
  | ok k =>
      have filters : s.meaning cfg (.portSet port pvid) = .filter k (pvidOf pvid) := by
        unfold Sys.meaning
        simp only [slot]
      obtain ⟨vlan, leaves⟩ := ok.portSet_put pvid slot
      apply mirrors_of_leaves leaves
      · rw [filters]
        exact (pictures.ports k).mpr (ubrPortFind_ok slot).1
      · rw [filters]
        rfl
      · rw [filters]
        refine pictures.rewire rfl rfl pictures.ports (fun j inUse => ?_) rfl rfl
        change Function.update a.pvid k (pvidOf pvid) j = _
        by_cases here : j = k
        · rw [here, Function.update_self, Ubr.putPort_self]
          rfl
        · rw [Function.update_of_ne here, Ubr.putPort_other _ _ here]
          exact pictures.pvid j inUse

section Members

variable {vid : Vid} {port : Dev} {k : Pidx} (slot : ubrPortFind s.ubr (some port) = .ok k)
  (registered : s.ubr.registered cfg vid = true)
include slot registered

theorem mirrors_attached (tagged : BitVec 32) : Mirrors cfg s a (.vlanAttach vid port tagged) := by
  have attaches : s.meaning cfg (.vlanAttach vid port tagged) = .attach vid k := by
    unfold Sys.meaning
    simp only [slot]
  obtain ⟨r, v, found, object, same⟩ := ok.registered_iff.mp registered
  have known := pictures.members r v object
  apply mirrors_of_leaves (Tidy.vlanAttach_put found object slot tagged)
  · rw [attaches]
    exact ⟨(pictures.ports k).mpr (ubrPortFind_ok slot).1, by rw [← same, known]; rfl⟩
  · rw [attaches]
    rfl
  · rw [attaches]
    refine pictures.putVlan ok.vlans object _ rfl rfl rfl ?_ (LearningSwitch.stations_kept (.inr (.inl ⟨vid, k, rfl⟩)))
    rw [same] at known ⊢
    rw [LearningSwitch.members_attach known, UbrVlan.attach, ports_set]

theorem mirrors_detached : Mirrors cfg s a (.vlanDetach vid port) := by
  have detaches : s.meaning cfg (.vlanDetach vid port) = .detach vid k := by
    unfold Sys.meaning
    simp only [slot]
  obtain ⟨r, v, found, object, same⟩ := ok.registered_iff.mp registered
  have known := pictures.members r v object
  apply mirrors_of_leaves (Tidy.vlanDetach_put found object slot)
  · rw [detaches]
    exact ⟨(pictures.ports k).mpr (ubrPortFind_ok slot).1, by rw [← same, known]; rfl⟩
  · rw [detaches]
    rfl
  · rw [detaches]
    refine pictures.putVlan ok.vlans object _ rfl rfl rfl ?_
      (LearningSwitch.stations_kept (.inr (.inr (.inl ⟨vid, k, rfl⟩))))
    rw [same] at known ⊢
    rw [LearningSwitch.members_detach known, UbrVlan.detach, ports_clear]

end Members

theorem mirrors_vlanAttach {vid : Vid} {port : Dev} {tagged : BitVec 32}
    (order : s.InOrder cfg (.vlanAttach vid port tagged)) : Mirrors cfg s a (.vlanAttach vid port tagged) := by
  cases slot : ubrPortFind s.ubr (some port) with
  | error e =>
      have idle : s.meaning cfg (.vlanAttach vid port tagged) = .idle := by
        unfold Sys.meaning
        simp only [slot]
      exact mirrors_of_idle idle (ok.vlanAttach_refused slot tagged) pictures
  | ok k =>
      have registered : s.ubr.registered cfg vid = true := order.names (by rw [slot]; rfl)
      exact mirrors_attached ok pictures slot registered tagged

theorem mirrors_vlanDetach {vid : Vid} {port : Dev} (order : s.InOrder cfg (.vlanDetach vid port)) :
    Mirrors cfg s a (.vlanDetach vid port) := by
  cases slot : ubrPortFind s.ubr (some port) with
  | error e =>
      have idle : s.meaning cfg (.vlanDetach vid port) = .idle := by
        unfold Sys.meaning
        simp only [slot]
      exact mirrors_of_idle idle (ok.vlanDetach_refused slot) pictures
  | ok k =>
      have registered : s.ubr.registered cfg vid = true := order.names (by rw [slot]; rfl)
      exact mirrors_detached ok pictures slot registered

end Commands

section Frames

variable {k : Pidx} {skb : Skb} {env : FrameEnv} {vid : Vid}

/-- What the ingress stage makes of a frame whose VLAN is registered. -/
structure Classified (cfg : Config) (s : Sys (BitVec w)) (k : Pidx) (skb : Skb) (env : FrameEnv) (vid : Vid)
    (r : VlanRef)
    (vlan : UbrVlan) (verdict : Bool) (copy : Skb) : Prop where
  object : s.ubr.heap r = some vlan
  named : vlan.vid = (s.ubr.ports k).classify vid
  ingress : ubrVlanIngress cfg s.ubr env (s.onPort k skb) = .ok (verdict, some copy)
  pointer : copy.cb.vlan = some r
  verdict : verdict = true ↔ (s.ubr.ports k).pvid = 0 ∨ k ∈ vlan.members

theorem classified_hub (ok : Tidy cfg s) (inUse : k ∈ s.ubr.busy)
    (hub : (s.ubr.ports k).ingressCb.vlanFiltering = false) :
    ∃ r vlan copy, Classified cfg s k skb env vid r vlan true copy := by
  have cached := ok.pvids k inUse
  have zero : (s.ubr.ports k).pvid = 0 := by
    by_contra closed
    rw [cached.filtering.mpr closed] at hub
    cases hub
  obtain ⟨r, live⟩ := ok.host
  have pointer : (s.ubr.ports k).ingressCb.vlan = some r := (cached.vlan r).mpr (zero ▸ live)
  obtain ⟨vlan, object, home⟩ := live
  have read : s.ubr.vlanAt (s.onPort k skb).cb.vlan = .ok vlan := Ubr.vlanAt_eq_ok.mpr ⟨r, pointer, object.1⟩
  refine ⟨r, vlan, _, object.1, ?_, ubrVlanIngress_hub hub read, pointer, ?_⟩
  · rw [home, UbrPort.classify, if_pos zero]
  · simp only [zero, true_or]

theorem classified_filtering (ok : Tidy cfg s) (inUse : k ∈ s.ubr.busy)
    (filtering : (s.ubr.ports k).ingressCb.vlanFiltering = true) (brought : s.brought cfg k skb env = some vid)
    (registered : s.ubr.registered cfg ((s.ubr.ports k).classify vid) = true) :
    ∃ r vlan verdict copy, Classified cfg s k skb env vid r vlan verdict copy := by
  have cached := ok.pvids k inUse
  have closed := cached.filtering.mp filtering
  have owned := (ok.slots k).pidx (ok.ports.served k inUse)
  obtain ⟨r, vlan, found, object, named⟩ := ok.registered_iff.mp registered
  simp only [Sys.brought, filtering, if_true] at brought
  obtain ⟨⟨mid, vid'⟩, normal, same⟩ := Option.map_eq_some_iff.mp brought
  cases same
  have normal : ubrVlanNormalise cfg s.ubr.vlanProto env (s.onPort k skb) = some (mid, vid') := normal
  have classified : frameVlan cfg s.ubr env (s.onPort k skb) = .ok (some r) := by
    by_cases bare : vid' = 0
    · subst bare
      have pointer : (s.ubr.ports k).ingressCb.vlan = some r := by
        apply (cached.vlan r).mpr
        rw [UbrPort.classify, if_neg closed, if_pos rfl] at named
        exact ⟨vlan, ok.live object, named⟩
      rw [frameVlan_port normal]
      exact congrArg Except.ok pointer
    · rw [UbrPort.classify, if_neg closed, if_neg bare] at found
      simp only [frameVlan, normal]
      exact (if_pos bare).trans found
  have ingress := ubrVlanIngress_found filtering normal classified object
  have port : (s.onPort k skb).cb.pidx = k := owned
  rw [port] at ingress
  by_cases inside : k ∈ vlan.members
  · rw [if_neg (not_not.mpr inside)] at ingress
    exact ⟨r, vlan, true, _, object, named, ingress, rfl, by simp only [inside, or_true]⟩
  · rw [if_pos inside] at ingress
    refine ⟨r, vlan, false, _, object, named, ingress, ?_,
      fun accepted => absurd accepted Bool.false_ne_true, fun either => (either.elim closed inside).elim⟩
    rw [classifiedTag_cb]

/-- How a frame is handled: it is of the VLAN `vlan`, and its copies go to `vec`. -/
structure InVlan (cfg : Config) (s : Sys (BitVec w)) (k : Pidx) (skb : Skb) (env : FrameEnv) (vid : Vid)
    (vlan : UbrVlan)
    (copy : Skb) (vec : UbrVec) : Prop where
  object : ∃ r, s.ubr.heap r = some vlan
  named : vlan.vid = (s.ubr.ports k).classify vid
  same : SameFrame (s.onPort k skb) copy
  addresses : SameAddresses (s.onPort k skb) copy
  run : (ubrForward cfg s.ubr s.jiffies env (s.onPort k skb)).res =
    .ok ({ s.ubr with fdb := s.learned env vlan copy }, false)
  delivered : DeliveredTo vec (ubrForward cfg s.ubr s.jiffies env (s.onPort k skb)).log
  vec q : q ∈ vec ↔ ((s.ubr.ports k).pvid = 0 ∨ k ∈ vlan.members) ∧ q ∈ s.recipients cfg env k vlan copy

theorem inVlan_of_order (ok : Tidy cfg s) (inUse : k ∈ s.ubr.busy) {e : Event} (order : s.InOrder cfg e)
    (enters : s.entry e = some (k, skb, env)) (brought : s.brought cfg k skb env = some vid)
    (registered : s.ubr.registered cfg ((s.ubr.ports k).classify vid) = true) :
    ∃ vlan copy vec, InVlan cfg s k skb env vid vlan copy vec := by
  have works : env.Works := order.works _ enters
  obtain ⟨r, vlan, verdict, copy, classified⟩ :
      ∃ r vlan verdict copy, Classified cfg s k skb env vid r vlan verdict copy := by
    cases mode : (s.ubr.ports k).ingressCb.vlanFiltering with
    | true => exact classified_filtering ok inUse mode brought registered
    | false =>
        obtain ⟨r, vlan, copy, classified⟩ := classified_hub ok inUse mode
        exact ⟨r, vlan, true, copy, classified⟩
  obtain ⟨object, named, ingress, pointer, decides⟩ := classified
  have slot := ok.slots k
  have plugged := ok.ports.served k inUse
  have same := (ubrVlanIngress_cases ingress).same
  have addresses := (ubrVlanIngress_cases ingress).addresses (order.tags _ enters)
  have ctrl : copy.cb.ctrl = false := same.ctrl.trans slot.ctrl
  have read : s.ubr.vlanAt copy.cb.vlan = .ok vlan := Ubr.vlanAt_eq_ok.mpr ⟨r, pointer, object⟩
  cases verdict with
  | false =>
      have outside : ¬ ((s.ubr.ports k).pvid = 0 ∨ k ∈ vlan.members) := fun inside => nomatch decides.mpr inside
      have run : ubrForward cfg s.ubr s.jiffies env (s.onPort k skb) = _ := ubrForward_rejected ingress ctrl read
      refine ⟨vlan, copy, .zero, ⟨r, object⟩, named, same, addresses, congrArg Logged.res run, ?_, fun q => ?_⟩
      · rw [run]
        exact ⟨fun q => by simp [SkbEvent.isDown], by simp [SkbEvent.isUp], by simp [SkbEvent.isFree]⟩
      · exact ⟨fun inside => absurd inside (Bitmap.mem_zero q), fun inside => absurd inside.1 outside⟩
  | true =>
      obtain ⟨_, read', vec⟩ := accepted_vec ingress
      cases read.symm.trans read'
      obtain ⟨out, marked⟩ : ∃ out, out = { copy with cb.vec := s.recipients cfg env k vlan copy } := ⟨_, rfl⟩
      have outgoing : (ubrFdbForward cfg s.ubr.fdb s.jiffies env vlan copy).2 = out := by
        have start : (s.onPort k skb).cb.vec = Bitmap.fill.clear k := slot.vec plugged
        simp only [ubrFdbForward, ubrFdbFilter_eq, vec, start, marked]
        rfl
      have follows :
          ({ s.ubr with fdb := s.learned env vlan copy } : Ubr (BitVec w)).vlanAt out.cb.vlan = .ok vlan := by
        rw [marked]
        exact read
      have set : out.cb.vec = s.recipients cfg env k vlan copy := congrArg (fun skb : Skb => skb.cb.vec) marked
      -- members are ports in use, and those have devices
      have everybody : ∀ q ∈ out.cb.vec,
          CanSend cfg { s.ubr with fdb := s.learned env vlan copy } env vlan out q := by
        intro q inside
        rw [set] at inside
        have member := (Bitmap.mem_and.mp (Bitmap.mem_and.mp inside).1).2
        have there : vlan ∈ (s.ubr.vlanAt copy.cb.vlan).toOption := by rw [read]; rfl
        rw [marked]
        exact ⟨(findsProtocol_moved s.ubr.vlanProto copy q copy.buf copy.dev _).mpr
            (order.protocols _ enters copy (accepted_some.mpr ingress) vlan there q member),
          fun _ => ok.ports.served q (ok.members.busy r vlan (ok.live object) q member)⟩
      obtain ⟨done, log⟩ := ubrDeliver_sends_all out follows works.1 everybody
      have run : ubrForward cfg s.ubr s.jiffies env (s.onPort k skb) = _ := ubrForward_accepted ingress ctrl read
      rw [outgoing] at run
      have ends := run.trans (Logged.bind_ok done _)
      refine ⟨vlan, copy, out.cb.vec, ⟨r, object⟩, named, same, addresses, congrArg Logged.res ends, ?_, fun q => ?_⟩
      · rw [ends]
        simpa using log
      · rw [set]
        exact ⟨fun inside => ⟨decides.mp rfl, inside⟩, fun inside => inside.2⟩

theorem vlanOf_frame (vid : Vid) (pvid : a.pvid k = pvidOf (s.ubr.ports k).pvid) :
    LearningSwitch.vlanOf (design cfg) a.pvid k ((some vid).filter fun vid => vid ≠ 0) =
      (s.ubr.ports k).classify vid := by
  unfold LearningSwitch.vlanOf UbrPort.classify pvidOf at *
  rw [pvid]
  by_cases hub : (s.ubr.ports k).pvid = 0
  · rw [if_pos hub, if_pos hub]
    rfl
  · rw [if_neg hub, if_neg hub]
    by_cases bare : vid = 0
    · rw [if_pos bare, bare]
      rfl
    · have tagged : (some vid).filter (fun vid => vid ≠ 0) = some vid := Option.filter_some_pos (decide_eq_true bare)
      rw [if_neg bare, tagged]
      rfl

section Pictured

variable {vlan : UbrVlan} {copy : Skb} {vec : UbrVec} {tag : Option Vid}
  (pictures : Pictures cfg s.ubr s.jiffies a) (stations : StationsOnly s.ubr.fdb)
  (done : InVlan cfg s k skb env vid vlan copy vec) (works : env.Works) (learning : copy.cb.saLearning = true)
  (plain : vlan.Plain) (through : copy.cb.pidx = k) (named : LearningSwitch.vlanOf (design cfg) a.pvid k tag = vlan.vid)
include pictures stations done works learning plain through named

theorem known_learned (vid' : Vid) (m : Mac) :
    Known (300 * cfg.hz) s.jiffies ((s.learned env vlan copy).lookup (macKey vid' m))
      ((a.next (design cfg) (.frame k tag skb.frame.hSource skb.frame.hDest)).stations vid' m) := by
  have source : copy.frame.hSource = skb.frame.hSource := done.addresses.hSource
  have before := pictures.stations vid' m
  have stores : ¬ (env.nodeAllocFails ∨ env.nodeInsertFails) := by simp [works.2.1, works.2.2]
  rw [LearningSwitch.stations_frame, named, Sys.learned, lookup_learned_key learning plain, source, through]
  by_cases mine : isValidEtherAddr skb.frame.hSource = true ∧ vid' = vlan.vid ∧ m = skb.frame.hSource
  · have seen : (design cfg).station skb.frame.hSource = true ∧ vid' = vlan.vid ∧ m = skb.frame.hSource := mine
    rw [if_pos mine, if_pos seen]
    exact .learn stores k _ fun node found => stations.stations node (Table.mem_of_lookup found)
  · have unseen : ¬ ((design cfg).station skb.frame.hSource = true ∧ vid' = vlan.vid ∧ m = skb.frame.hSource) := mine
    rw [if_neg mine, if_neg unseen]
    exact before

theorem ports_inVlan (wide : 0 < w) (half : 300 * cfg.hz < 2 ^ (w - 1)) (inUse : k ∈ s.ubr.busy) : UbrVec.ports vec =
    (a.view vlan.vid).serve (design cfg) k (a.pvid k).isNone skb.frame.hSource skb.frame.hDest := by
  have dest : copy.frame.hDest = skb.frame.hDest := done.addresses.hDest
  obtain ⟨r, object⟩ := done.object
  have members := pictures.members r vlan object
  have learned : (s.learned env vlan copy).ageingTimeout = 300 * cfg.hz := learned_timeout.trans pictures.timeout
  have known := known_learned pictures stations done works learning plain through named vlan.vid skb.frame.hDest
  have view : (a.next (design cfg) (.frame k tag skb.frame.hSource skb.frame.hDest)).view vlan.vid =
      (a.view vlan.vid).learn (design cfg) k skb.frame.hSource := named ▸ LearningSwitch.view_frame
  have seen : (a.next (design cfg) (.frame k tag skb.frame.hSource skb.frame.hDest)).stations vlan.vid skb.frame.hDest =
      ((a.view vlan.vid).learn (design cfg) k skb.frame.hSource).stations skb.frame.hDest :=
    congrArg (fun w => w.stations skb.frame.hDest) view
  rw [seen, ← dest, ← learned] at known
  ext q
  have destination : q ∈ destinationPorts cfg (s.learned env vlan copy) s.jiffies env vlan copy ↔
      ∀ p ∈ ((a.view vlan.vid).learn (design cfg) k skb.frame.hSource).place (design cfg) skb.frame.hDest, q = p := by
    have ok : StationsOnly (s.learned env vlan copy) := stations.learned
    rw [mem_destinationPorts wide (learned ▸ half) ok plain known q, learned, dest]
    rfl
  have admits : (a.view vlan.vid).admits k (a.pvid k).isNone ↔ (s.ubr.ports k).pvid = 0 ∨ k ∈ vlan.members := by
    have hub : (a.pvid k).isNone = true ↔ (s.ubr.ports k).pvid = 0 := by
      rw [pictures.pvid k inUse]
      unfold pvidOf
      split
      · rename_i zero
        exact ⟨fun _ => zero, fun _ => rfl⟩
      · rename_i other
        exact ⟨nofun, fun zero => absurd zero other⟩
    unfold LearningSwitch.View.admits
    rw [hub, LearningSwitch.State.view, members]
    simp [UbrVec.ports]
  have member : (∃ m, ((a.view vlan.vid).learn (design cfg) k skb.frame.hSource).members = some m ∧ q ∈ m) ↔
      q ∈ vlan.members := by
    rw [LearningSwitch.learn_members, LearningSwitch.State.view, members]
    simp [UbrVec.ports]
  change q ∈ vec ↔ (a.view vlan.vid).admits k (a.pvid k).isNone ∧ q ≠ k ∧ _ ∧ _
  rw [done.vec, admits, member, ← destination, Sys.recipients, recipients]
  simp only [Bitmap.mem_and, Bitmap.mem_clear, Bitmap.mem_fill, and_true, and_assoc]

end Pictured

theorem mirrors_frame (wide : 0 < w) (half : 300 * cfg.hz < 2 ^ (w - 1)) (ok : Tidy cfg s)
    (pictures : Pictures cfg s.ubr s.jiffies a) (stations : StationsOnly s.ubr.fdb) (inUse : k ∈ s.ubr.busy)
    (classifies : s.Classifies cfg k skb env) {e : Event} (order : s.InOrder cfg e)
    (enters : s.entry e = some (k, skb, env)) (means : s.meaning cfg e = s.frame cfg k skb env)
    (runs : s.exec cfg e = s.forwarded (ubrForward cfg s.ubr s.jiffies env (s.onPort k skb))) : Mirrors cfg s a e := by
  obtain ⟨vid, brought, registered⟩ := classifies
  have works : env.Works := order.works _ enters
  obtain ⟨vlan, copy, vec, done⟩ := inVlan_of_order ok inUse order enters brought registered
  obtain ⟨r, object⟩ := done.object
  have members := pictures.members r vlan object
  have learning : copy.cb.saLearning = true := done.same.saLearning.trans (ok.learning k inUse)
  have through : copy.cb.pidx = k := done.same.pidx.trans ((ok.slots k).pidx (ok.ports.served k inUse))
  have plain := ok.plain r vlan object
  have named : LearningSwitch.vlanOf (design cfg) a.pvid k ((some vid).filter fun vid => vid ≠ 0) = vlan.vid :=
    (vlanOf_frame vid (pictures.pvid k inUse)).trans done.named.symm
  have seen : s.meaning cfg e = .frame k ((some vid).filter fun vid => vid ≠ 0) skb.frame.hSource skb.frame.hDest := by
    rw [means, Sys.frame, brought]
  refine ⟨?_, { s with ubr := { s.ubr with fdb := s.learned env vlan copy } },
    { log := (ubrForward cfg s.ubr s.jiffies env (s.onPort k skb)).log }, ?_, ?_, ?_⟩
  · rw [seen]
    exact ⟨(pictures.ports k).mpr inUse, by rw [named, members]; rfl⟩
  · simp only [runs, Sys.forwarded, done.run]
  · rw [seen]
    refine ⟨vec, ?_, done.delivered⟩
    rw [named]
    exact ports_inVlan pictures stations done works learning plain through named wide half inUse
  · rw [seen]
    have known := known_learned pictures stations done works learning plain through named
    exact pictures.restation rfl rfl LearningSwitch.members_frame learned_timeout known

end Frames

section Refinement

variable (wide : 0 < w) (half : 300 * cfg.hz < 2 ^ (w - 1))
include wide half

theorem mirrors {e : Event} (ok : Tidy cfg s) (pictures : Pictures cfg s.ubr s.jiffies a)
    (stations : StationsOnly s.ubr.fdb) (enabled : s.Enabled e) (order : s.InOrder cfg e) : Mirrors cfg s a e := by
  cases e with
  | rx dev skb env =>
      obtain ⟨k, slave⟩ := Option.isSome_iff_exists.mp enabled
      have inUse := (ok.slaves.slaves dev k slave).1
      have owned : ubrFromPort s.ubr k = .ok () := ubrFromPort_ok.mpr ((ok.slots k).pidx (ok.ports.served k inUse))
      have means : s.meaning cfg (.rx dev skb env) = s.frame cfg k skb env := by
        unfold Sys.meaning
        simp only [slave]
      have enters : s.entry (.rx dev skb env) = some (k, skb, env) := by simp only [Sys.entry, slave, Option.map_some]
      refine mirrors_frame wide half ok pictures stations inUse (order.names k slave) order enters means ?_
      simp only [Sys.exec, slave, ubrPortRxHandler, owned]
      rfl
  | xmit skb env => exact mirrors_frame wide half ok pictures stations ok.slaves.host order.names order rfl rfl rfl
  | age walk =>
      refine mirrors_of_idle rfl ⟨_, _, rfl, rfl, rfl⟩
        (pictures.restation rfl rfl rfl (age_timeout walk) fun vid m => ?_)
      have known := pictures.stations vid m
      rcases lookup_age s.ubr.fdb s.jiffies walk (macKey vid m) with kept | ⟨node, found, old, gone⟩
      · rw [kept]
        exact known
      · rw [gone]
        apply known.age wide half
        intro n inside
        cases found.symm.trans inside
        exact pictures.timeout ▸ isOld_iff_lapsed.mp old
  | tick n =>
      refine ⟨trivial, { s with jiffies := Jiffies.later s.jiffies n }, {}, rfl, rfl, ?_⟩
      refine pictures.restation rfl rfl rfl rfl fun vid m => ?_
      refine (pictures.stations vid m).tick wide half order.clock fun node found lapsed => ?_
      rw [← pictures.timeout, ← isOld_iff_lapsed] at lapsed ⊢
      exact order.entries node (Table.mem_of_lookup found) lapsed
  | portAdd dev env => exact mirrors_portAdd ok pictures order
  | portDel dev => exact mirrors_portDel ok pictures wide half enabled order
  | portCleanup k => exact mirrors_portCleanup ok pictures enabled
  | vlanAdd vid zallocFails => exact mirrors_vlanAdd ok pictures vid zallocFails
  | vlanDel vid => exact mirrors_vlanDel ok pictures order
  | vlanFree r =>
      have queued : r ∈ s.ubr.vlanRcu := enabled
      rw [ok.deleted.empty] at queued
      cases queued
  | vlanAttach vid port tagged => exact mirrors_vlanAttach ok pictures order
  | vlanDetach vid port => exact mirrors_vlanDetach ok pictures order
  | portSet port pvid => exact mirrors_portSet ok pictures port pvid
  | devChange dev nd => exact mirrors_of_idle rfl ⟨_, _, rfl, rfl, rfl⟩ pictures

theorem refines_switch : Refines (bridge (BitVec w) cfg) (Sys.InOrder cfg) (LearningSwitch.switch (design cfg))
    (asSwitch cfg) where
  start s init := by
    obtain ⟨dev, devAddr, same⟩ := init_ubr init
    refine ⟨_, rfl, ?_⟩
    change Pictures cfg s.ubr s.jiffies _
    rw [same]
    exact .fresh dev devAddr
  step tr s a e run pictures enabled order := by
    have stations := stationsOnly_of_reachable (database_of_bridge run.reachable)
    obtain ⟨allowed, s', o, done, answers, pictures'⟩ :=
      mirrors wide half (.of_run run) pictures stations enabled order
    exact ⟨allowed, s', o, _, _, done, rfl, answers, pictures'⟩

end Refinement

/-- Two ports in VLAN 7, one of them tagged, and a third one that comes and goes. -/
def orderlyDay : List Event :=
  [.portAdd 1 {}, .portAdd 2 {}, .portAdd 3 {}, .vlanAdd 7 false, .vlanAttach 7 1 0, .vlanAttach 7 2 1,
    .portSet (some 1) 7,
    .rx 3 stationFrame {}, .rx 1 stationFrame {}, .tick 75001, .age [.node (macKey 0 stationFrame.frame.hSource)],
    .vlanDetach 0 3, .portDel 3, .portCleanup 3, .xmit broadcastFrame {}]

/-- The day is in order to its end, and so is a frame of the second slave after it. The
    clock of 32 bits wraps in its course. -/
theorem orderlyDay_inOrder : ∃ (tr : History (BitVec 32)) (s : Sys (BitVec 32)),
    Run (bridge (BitVec 32) x86) (Sys.InOrder x86) tr s ∧ tr.length = 15 ∧ s.jiffies = 1#32 ∧
    s.Enabled (.rx 2 broadcastFrame {}) ∧ s.InOrder x86 (.rx 2 broadcastFrame {}) := by
  obtain ⟨tr, s, run, test⟩ := run_bootedAt x86 (0 - 75000#32) (Sys.InOrder x86) orderlyDay
    (fun tr s => decide (tr.length = 15 ∧ s.jiffies = 1#32 ∧ s.Enabled (.rx 2 broadcastFrame {}) ∧
      s.InOrder x86 (.rx 2 broadcastFrame {})))
    (by decide +kernel)
  exact ⟨tr, s, run, of_decide_eq_true test⟩

section Runs

variable (wide : 0 < w) (half : 300 * cfg.hz < 2 ^ (w - 1)) {tr : History (BitVec w)}
  (run : Run (bridge (BitVec w) cfg) (Sys.InOrder cfg) tr s)
include wide half run

/-- A run of a bridge in order is a run of the learning switch: each event is the switch's
    event, and what comes out is what the switch answers. -/
theorem orderly_bridge_is_a_switch :
    ∃ tr' a, Run (LearningSwitch.switch (design cfg)) (fun _ _ => True) tr' a ∧ Pictures cfg s.ubr s.jiffies a ∧
      List.Forall₂ (asSwitch cfg).Matches tr tr' :=
  (refines_switch wide half).run run

/-- A bridge that has been used in order goes on when it is. -/
theorem orderly_bridge_never_crashes {e : Event} (enabled : s.Enabled e) (order : s.InOrder cfg e) :
    ∃ s' o, s.exec cfg e = .ok (s', o) :=
  (refines_switch wide half).never_stuck run enabled order

end Runs

theorem orderly_bridge_is_a_switch_x86 : ∃ (tr : History (BitVec 32)) (s : Sys (BitVec 32)),
    Run (bridge (BitVec 32) x86) (Sys.InOrder x86) tr s ∧ tr.length = 15 ∧ s.jiffies = 1#32 ∧
    ∃ tr' a, Run (LearningSwitch.switch (design x86)) (fun _ _ => True) tr' a ∧ Pictures x86 s.ubr s.jiffies a ∧
      List.Forall₂ (asSwitch x86).Matches tr tr' := by
  obtain ⟨tr, s, run, events, wrapped, _⟩ := orderlyDay_inOrder
  exact ⟨tr, s, run, events, wrapped, orderly_bridge_is_a_switch (by decide) (by decide) run⟩

theorem orderly_bridge_never_crashes_x86 : ∃ (tr : History (BitVec 32)) (s : Sys (BitVec 32)),
    Run (bridge (BitVec 32) x86) (Sys.InOrder x86) tr s ∧
    ∃ s' o, s.exec x86 (.rx 2 broadcastFrame {}) = .ok (s', o) := by
  obtain ⟨tr, s, run, _, _, enabled, order⟩ := orderlyDay_inOrder
  exact ⟨tr, s, run, orderly_bridge_never_crashes (by decide) (by decide) run enabled order⟩

end UnassumingBridge
