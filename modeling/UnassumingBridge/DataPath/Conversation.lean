import UnassumingBridge.DataPath.Switch

/-! # What a VLAN gets to see of a bridge

A VLAN takes notice of its frames, of the changes to its members, of the clock and of the
ports that go. Its frames are delivered by nothing but that, and a station that has sent a
frame is then answered at its port.
-/

namespace UnassumingBridge

open Support

variable {w : Nat} {cfg : Config}

/-- How many copies a port is sent; port 0 is the host. -/
def copies (log : List SkbEvent) (q : Pidx) : Nat :=
  if q = 0 then log.countP SkbEvent.isUp else log.countP (SkbEvent.isDown q)

/-- The VLANs of untagged frames on the ports. -/
def Ubr.pvids {τ : Type} (u : Ubr τ) (k : Pidx) : Option Vid := pvidOf (u.ports k).pvid

/-- The VLAN has the port. -/
def Ubr.HasMember {τ : Type} (u : Ubr τ) (vid : Vid) (q : Pidx) : Prop :=
  ∃ r v, u.heap r = some v ∧ v.vid = vid ∧ q ∈ v.members

/-- What an event is to a VLAN; `none` when it does not concern the VLAN. -/
def Sys.sight {τ : Type} (cfg : Config) (s : Sys τ) (vid : Vid) (e : Event) : Option (LearningSwitch.Sight Pidx Mac) :=
  LearningSwitch.sight (design cfg) vid s.ubr.pvids (s.meaning cfg e)

/-- Everything that a VLAN takes notice of, newest first. -/
def sightings {τ : Type} (cfg : Config) (vid : Vid) (tr : History τ) : List (LearningSwitch.Sight Pidx Mac) :=
  tr.filterMap fun t => t.pre.sight cfg vid t.event

/-- What the ports get of the frames of a VLAN, newest first. -/
def deliveries {τ : Type} (cfg : Config) (vid : Vid) (tr : History τ) : List (Pidx → Nat) :=
  tr.filterMap fun t =>
    if LearningSwitch.ofVlan (design cfg) vid t.pre.ubr.pvids (t.pre.meaning cfg t.event)
      then some (copies t.ret.log) else none

open Classical in
/-- One copy each. -/
noncomputable def oneEach (out : Set Pidx) (q : Pidx) : Nat := if q ∈ out then 1 else 0

theorem copies_deliveredTo {vec : UbrVec} {log : List SkbEvent} (delivered : DeliveredTo vec log) :
    copies log = oneEach (UbrVec.ports vec) := by
  funext q
  have same : q ∈ UbrVec.ports vec ↔ q ∈ vec := Iff.rfl
  unfold copies oneEach
  by_cases host : q = 0
  · subst host
    rw [if_pos rfl, delivered.up]
    simp only [same]
  · rw [if_neg host, delivered.down]
    simp only [same, host, ne_eq, not_false_eq_true, and_true]

section Matches

variable {t : Transition (Sys (BitVec w)) Event Outcome}
  {u : Transition (LearningSwitch.State Vid Pidx Mac) (LearningSwitch.Event Vid Pidx Mac) (Option (Set Pidx))}

theorem vlanOf_pvids (pictures : Pictures cfg t.pre.ubr t.pre.jiffies u.pre) {k : Pidx} (plugged : k ∈ u.pre.ports)
    (tag : Option Vid) :
    LearningSwitch.vlanOf (design cfg) t.pre.ubr.pvids k tag = LearningSwitch.vlanOf (design cfg) u.pre.pvid k tag := by
  have same : u.pre.pvid k = t.pre.ubr.pvids k := pictures.pvid k ((pictures.ports k).mp plugged)
  simp only [LearningSwitch.vlanOf, same]

variable (alike : (asSwitch cfg).Matches t u) (enabled : u.pre.Enabled (design cfg) u.event)
include alike enabled

theorem sight_matches (vid : Vid) :
    t.pre.sight cfg vid t.event = LearningSwitch.sight (design cfg) vid u.pre.pvid u.event := by
  have pictures : Pictures cfg t.pre.ubr t.pre.jiffies u.pre := alike.pre
  have event : t.pre.meaning cfg t.event = u.event := alike.event.symm
  rw [Sys.sight, event]
  cases means : u.event with
  | frame k tag src dst =>
      rw [means] at enabled
      have same : u.pre.pvid k = t.pre.ubr.pvids k := pictures.pvid k ((pictures.ports k).mp enabled.1)
      simp only [LearningSwitch.sight, vlanOf_pvids pictures enabled.1, same]
  | _ => rfl

theorem ofVlan_matches (vid : Vid) :
    LearningSwitch.ofVlan (design cfg) vid t.pre.ubr.pvids (t.pre.meaning cfg t.event) =
    LearningSwitch.ofVlan (design cfg) vid u.pre.pvid u.event := by
  have event : t.pre.meaning cfg t.event = u.event := alike.event.symm
  rw [event]
  cases means : u.event with
  | frame k tag src dst =>
      rw [means] at enabled
      simp only [LearningSwitch.ofVlan, vlanOf_pvids alike.pre enabled.1]
  | _ => rfl

end Matches

theorem vlan_matches {tr : History (BitVec w)} {tr' a}
    (run' : Run (LearningSwitch.switch (design cfg)) (fun _ _ => True) tr' a)
    (alike : List.Forall₂ (asSwitch cfg).Matches tr tr') (vid : Vid) :
    sightings cfg vid tr = LearningSwitch.sights (design cfg) vid tr' ∧
      deliveries cfg vid tr = (LearningSwitch.served (design cfg) vid tr').map oneEach := by
  induction alike generalizing a with
  | nil => exact ⟨rfl, rfl⟩
  | @cons t u tr tr' here _ ih =>
      obtain ⟨before, enabled, _, executed, _⟩ := run'.uncons
      obtain ⟨sights, served⟩ := ih before
      have returned : u.ret = u.pre.answer (design cfg) u.event := congrArg Prod.snd (Except.ok.inj executed).symm
      constructor
      · simp only [sightings, LearningSwitch.sights, List.filterMap_cons] at sights ⊢
        rw [sight_matches here enabled vid, sights]
      · simp only [deliveries, LearningSwitch.served, List.filterMap_cons] at served ⊢
        rw [ofVlan_matches here enabled vid]
        cases frame : LearningSwitch.ofVlan (design cfg) vid u.pre.pvid u.event with
        | false => exact served
        | true =>
            obtain ⟨out, answered⟩ : ∃ out, u.ret = some out := by
              rw [returned]
              cases means : u.event with
              | frame k tag src dst => exact ⟨_, rfl⟩
              | _ =>
                  rw [means] at frame
                  cases frame
            obtain ⟨vec, rfl, delivered⟩ : ∃ vec, UbrVec.ports vec = out ∧ DeliveredTo vec t.ret.log := by
              have answers : Answers t.ret u.ret := here.answer
              rwa [answered] at answers
            simp only [if_true, answered, List.map_cons, copies_deliveredTo delivered]
            rw [served]

theorem hasMember_iff {u : Ubr (BitVec w)} {now : BitVec w} {a : LearningSwitch.State Vid Pidx Mac}
    (pictures : Pictures cfg u now a) {vid : Vid} {q : Pidx} :
    u.HasMember vid q ↔ ∃ all, a.members vid = some all ∧ q ∈ all := by
  constructor
  · rintro ⟨r, v, object, rfl, inside⟩
    exact ⟨_, pictures.members r v object, inside⟩
  · rintro ⟨all, known, inside⟩
    by_contra missing
    have absent : a.members vid = none := by
      apply pictures.absent vid
      rintro r v object rfl
      cases known.symm.trans (pictures.members r v object)
      exact missing ⟨r, v, object, rfl, inside⟩
    rw [known] at absent
    cases absent

/-- What happens in the other VLANs makes no difference to a VLAN: its frames are delivered
    alike in two runs that look alike to it, and its members are the same. -/
theorem vlans_do_not_interfere (wide : 0 < w) (half : 300 * cfg.hz < 2 ^ (w - 1)) {tr tr' : History (BitVec w)}
    {s s' : Sys (BitVec w)} (run : Run (bridge (BitVec w) cfg) (Sys.InOrder cfg) tr s)
    (run' : Run (bridge (BitVec w) cfg) (Sys.InOrder cfg) tr' s') {vid : Vid}
    (same : sightings cfg vid tr = sightings cfg vid tr') :
    deliveries cfg vid tr = deliveries cfg vid tr' ∧ ∀ q, s.ubr.HasMember vid q ↔ s'.ubr.HasMember vid q := by
  obtain ⟨ur, a, switched, pictures, alike⟩ := (refines_switch wide half).run run
  obtain ⟨ur', a', switched', pictures', alike'⟩ := (refines_switch wide half).run run'
  obtain ⟨sights, delivered⟩ := vlan_matches switched alike vid
  obtain ⟨sights', delivered'⟩ := vlan_matches switched' alike' vid
  obtain ⟨served, view⟩ := LearningSwitch.served_congr switched switched' (sights.symm.trans (same.trans sights'))
  constructor
  · rw [delivered, delivered', served]
  · intro q
    have members : a.members vid = a'.members vid := congrArg LearningSwitch.View.members view
    rw [hasMember_iff pictures, hasMember_iff pictures', members]

/-- Port 2 joins VLAN 7, and a frame comes in on port 1. -/
def seenBySeven : List (LearningSwitch.Sight Pidx Mac) :=
  [.frame 1 false 0x020000000099 0x020000000098, .attach 2, .attach 1, .add]

/-- In the second run another port comes, is filtered, and its station talks. -/
theorem vlans_do_not_interfere_x86 : ∃ (tr tr' : History (BitVec 32)) (s s' : Sys (BitVec 32)),
    Run (bridge (BitVec 32) x86) (Sys.InOrder x86) tr s ∧ Run (bridge (BitVec 32) x86) (Sys.InOrder x86) tr' s' ∧
      tr.length = 7 ∧ tr'.length = 11 ∧ deliveries x86 7 tr = deliveries x86 7 tr' ∧
      ∀ q, s.ubr.HasMember 7 q ↔ s'.ubr.HasMember 7 q := by
  obtain ⟨tr, s, run, test⟩ := run_bootedAt x86 (0#32) (Sys.InOrder x86)
    [.portAdd 1 {}, .portAdd 2 {}, .vlanAdd 7 false, .vlanAttach 7 1 0, .vlanAttach 7 2 1, .portSet (some 1) 7,
      .rx 1 stationFrame {}]
    (fun tr _ => decide (tr.length = 7 ∧ sightings x86 7 tr = seenBySeven)) (by decide +kernel)
  obtain ⟨tr', s', run', test'⟩ := run_bootedAt x86 (0#32) (Sys.InOrder x86)
    [.portAdd 1 {}, .portAdd 2 {}, .portAdd 3 {}, .vlanAdd 7 false, .vlanAdd 8 false, .vlanAttach 7 1 0,
      .vlanAttach 7 2 1, .portSet (some 1) 7, .portSet (some 3) 8, .rx 3 stationFrame {}, .rx 1 stationFrame {}]
    (fun tr _ => decide (tr.length = 11 ∧ sightings x86 7 tr = seenBySeven)) (by decide +kernel)
  obtain ⟨length, seen⟩ := of_decide_eq_true test
  obtain ⟨length', seen'⟩ := of_decide_eq_true test'
  exact ⟨tr, tr', s, s', run, run', length, length', vlans_do_not_interfere (by decide) (by decide) run run'
    (seen.trans seen'.symm)⟩

/-- A frame to a station that was seen lately goes to its port and nowhere else. -/
theorem station_is_answered_at_its_port (wide : 0 < w) (half : 300 * cfg.hz < 2 ^ (w - 1))
    {before later : History (BitVec w)} {first t : Transition (Sys (BitVec w)) Event Outcome} {s : Sys (BitVec w)}
    (run : Run (bridge (BitVec w) cfg) (Sys.InOrder cfg) (t :: (later ++ first :: before)) s) {vid : Vid}
    {m dst src : Mac} {k p : Pidx} {hub hub' : Bool} (station : isValidEtherAddr m = true)
    (heard : first.pre.sight cfg vid first.event = some (.frame k hub m dst))
    (stays : ∀ x ∈ sightings cfg vid later, x.resets m k = false)
    (lately : ((sightings cfg vid later).map LearningSwitch.Sight.ticks).sum ≤ 300 * cfg.hz)
    (sent : t.pre.sight cfg vid t.event = some (.frame p hub' src m)) (other : src ≠ m) (q : Pidx) :
    copies t.ret.log q ≤ 1 ∧ (copies t.ret.log q = 1 ↔
      (hub' = true ∨ t.pre.ubr.HasMember vid p) ∧ q = k ∧ q ≠ p ∧ t.pre.ubr.HasMember vid q) := by
  obtain ⟨earlier, enabled, order, executed, _⟩ := run.uncons
  obtain ⟨ur, a, switched, pictures, alike⟩ := (refines_switch wide half).run earlier
  obtain ⟨allowed, s', o, a', c, done, answered, answers, pictures'⟩ :=
    (refines_switch wide half).step _ _ a _ earlier pictures enabled order
  cases executed.symm.trans done
  have here : (asSwitch cfg).Matches t ⟨a, t.pre.meaning cfg t.event, c, a'⟩ := ⟨pictures, rfl, answers, pictures'⟩
  obtain ⟨tag, means, named, flag⟩ := LearningSwitch.sight_frame ((sight_matches here allowed vid).symm.trans sent)
  -- what the VLAN has seen before the frame puts the station on its port
  have known : (a.view vid).stations m = some (k, ((sightings cfg vid later).map LearningSwitch.Sight.ticks).sum) := by
    have history : sightings cfg vid (later ++ first :: before) =
        sightings cfg vid later ++ .frame k hub m dst :: sightings cfg vid before := by
      simp only [sightings, List.filterMap_append, List.filterMap_cons, heard]
    rw [(LearningSwitch.replay_of_run switched vid).1, ← (vlan_matches switched alike vid).1, history]
    exact LearningSwitch.stations_replay station stays
  have goes : q ∈ (a.view vid).serve (design cfg) p hub' src m ↔ _ := LearningSwitch.serve_known known lately other q
  have reply : c = some ((a.view vid).serve (design cfg) p hub' src m) := by
    have returned : c = a.answer (design cfg) (t.pre.meaning cfg t.event) :=
      congrArg Prod.snd (Except.ok.inj answered).symm
    have means : t.pre.meaning cfg t.event = .frame p tag src m := means
    rw [returned, means, LearningSwitch.State.answer, named, flag]
  obtain ⟨vec, out, delivered⟩ : ∃ vec, UbrVec.ports vec = (a.view vid).serve (design cfg) p hub' src m ∧
      DeliveredTo vec t.ret.log := by
    have answers : Answers t.ret c := answers
    rwa [reply] at answers
  have members (j : Pidx) : t.pre.ubr.HasMember vid j ↔ ∃ all, (a.view vid).members = some all ∧ j ∈ all :=
    hasMember_iff pictures
  have admits : (hub' = true ∨ t.pre.ubr.HasMember vid p) ↔ (a.view vid).admits p hub' := or_congr_right (members p)
  rw [copies_deliveredTo delivered, out, admits, members q, ← goes]
  unfold oneEach
  split
  · exact ⟨le_refl _, fun _ => ‹_›, fun _ => rfl⟩
  · exact ⟨Nat.zero_le _, fun one => absurd one Nat.zero_ne_one, fun inside => absurd inside ‹_›⟩

/-- The host answers a station of a hub port in time. -/
theorem station_is_answered_at_its_port_x86 : ∃ (log : List SkbEvent) (s : Sys (BitVec 32)),
    Reachable (bridge (BitVec 32) x86) s ∧
      ∀ q, copies log q ≤ 1 ∧ (copies log q = 1 ↔ q = 1 ∧ q ≠ 0 ∧ s.ubr.HasMember 0 q) := by
  obtain ⟨tr, s, run, test⟩ := run_bootedAt x86 (0 - 4#32) (Sys.InOrder x86)
    [.portAdd 1 {}, .portAdd 2 {}, .rx 1 stationFrame {}, .tick 75000,
      .xmit { stationFrame with frame.hSource := 0x020000000097, frame.hDest := 0x020000000099 } {}]
    (fun tr _ => tr[0]?.any fun (t : Transition (Sys (BitVec 32)) Event Outcome) =>
      tr[1]?.any fun (later : Transition (Sys (BitVec 32)) Event Outcome) =>
      tr[2]?.any fun (first : Transition (Sys (BitVec 32)) Event Outcome) => decide (
      first.pre.sight x86 0 first.event = some (.frame 1 true 0x020000000099 0x020000000098) ∧
      sightings x86 0 [later] = [.tick 75000] ∧
      t.pre.sight x86 0 t.event = some (.frame 0 true 0x020000000097 0x020000000099))) (by decide +kernel)
  obtain ⟨t, last, test⟩ := (Option.any_eq_true ..).mp test
  obtain ⟨later, second, test⟩ := (Option.any_eq_true ..).mp test
  obtain ⟨first, third, test⟩ := (Option.any_eq_true ..).mp test
  obtain ⟨heard, between, sent⟩ := of_decide_eq_true test
  obtain ⟨before, rfl⟩ : ∃ before, tr = t :: later :: first :: before := by
    rcases tr with _ | ⟨a, _ | ⟨b, _ | ⟨c, before⟩⟩⟩
    · cases last
    · cases second
    · cases third
    · cases last
      cases second
      cases third
      exact ⟨before, rfl⟩
  refine ⟨t.ret.log, t.pre, run.uncons.1.reachable, fun q => ?_⟩
  have stays : ∀ x ∈ sightings x86 0 [later], x.resets 0x020000000099 (1 : Pidx) = false := by
    rw [between]
    simp [LearningSwitch.Sight.resets]
  have lately : ((sightings x86 0 [later]).map LearningSwitch.Sight.ticks).sum ≤ 300 * x86.hz := by
    rw [between]
    decide
  have answered := station_is_answered_at_its_port (by decide) (by decide) run (by decide) heard
    stays lately sent (by decide) q
  simpa only [true_or, true_and] using answered

end UnassumingBridge
