import UnassumingBridge.Invariants.Registry

/-! # Tagged, untagged or out

A port is in one of three modes in a VLAN, which two bit vectors encode. The commands
that attach and detach it each write a mode, and the last one should be what the bits
say.
-/

namespace UnassumingBridge

open Support

variable {τ : Type} {cfg : Config}

/-- How a port takes part in a VLAN. -/
inductive Mode where
  | out | untagged | tagged
  deriving DecidableEq, Repr

/-- The mode that an executed event gives the port in the slot; `ubr_port_init` is one in
    VLAN 0, and a new VLAN has no ports. -/
def commanded (vid : Vid) (q : Pidx) (t : Transition (Sys τ) Event Outcome) : Option Mode :=
  match t.event with
  | .vlanAttach v port tagged =>
      if v = vid ∧ (ubrPortFind t.pre.ubr (some port)).toOption = some q then
        some (if tagged ≠ 0 then .tagged else .untagged)
      else none
  | .vlanDetach v port =>
      if v = vid ∧ (ubrPortFind t.pre.ubr (some port)).toOption = some q then some .out else none
  | .portAdd dev _ => if vid = 0 ∧ t.pre.initSlot dev = some q then some .untagged else none
  | .vlanAdd v _ => if v = vid ∧ t.ret.ret.toBool then some .out else none
  | _ => none

/-- The mode that the last command gave; the host is in VLAN 0 from the start. -/
def lastMode (vid : Vid) (q : Pidx) : History τ → Mode
  | [] => if vid = 0 ∧ q = 0 then .untagged else .out
  | t :: tr => (commanded vid q t).getD (lastMode vid q tr)

/-- The bits of the port say that it is in this mode. -/
def UbrVlan.InMode (v : UbrVlan) (q : Pidx) (mode : Mode) : Prop :=
  (q ∈ v.members ↔ mode ≠ .out) ∧ (q ∈ v.tagged ↔ mode = .tagged)

/-- In every registered VLAN every port is in the mode that it was given last. -/
def LastWins (tr : History τ) (s : Ubr τ) : Prop := ∀ r v, s.Live r v → ∀ q, v.InMode q (lastMode v.vid q tr)

/-- The bits of the port are the same in both. -/
def SameBits (v w : UbrVlan) (q : Pidx) : Prop := (q ∈ w.members ↔ q ∈ v.members) ∧ (q ∈ w.tagged ↔ q ∈ v.tagged)

/-- What a command writes; an untagged attachment does not look at the tagged bit. -/
def Writes (v w : UbrVlan) (q : Pidx) : Option Mode → Prop
  | none => SameBits v w q
  | some .out => q ∉ w.members ∧ q ∉ w.tagged
  | some .untagged => q ∈ w.members ∧ (q ∈ w.tagged ↔ q ∈ v.tagged)
  | some .tagged => q ∈ w.members ∧ q ∈ w.tagged

/-- The VLAN is registered, and the port is tagged in it. -/
def Ubr.isTagged (cfg : Config) (s : Ubr τ) (vid : Vid) (q : Pidx) : Bool :=
  match ubrVlanFind cfg s vid with
  | .ok (some r) => decide (r ∉ s.vlanRcu) && (s.heap r).any fun v : UbrVlan => decide (q ∈ v.tagged)
  | _ => false

/-- An untagged attachment of a port that is tagged in the VLAN. -/
def Sys.untags (cfg : Config) (s : Sys τ) : Event → Prop
  | .vlanAttach vid port tagged =>
      tagged = 0 ∧ ∃ q ∈ (ubrPortFind s.ubr (some port)).toOption, s.ubr.isTagged cfg vid q = true
  | .portAdd dev _ => ∃ q ∈ s.initSlot dev, s.ubr.isTagged cfg 0 q = true
  | _ => False

instance (s : Sys τ) : (e : Event) → Decidable (s.untags cfg e)
  | .vlanAttach vid port tagged => inferInstanceAs (Decidable (tagged = 0 ∧
      ∃ q ∈ (ubrPortFind s.ubr (some port)).toOption, s.ubr.isTagged cfg vid q = true))
  | .portAdd dev _ => inferInstanceAs (Decidable (∃ q ∈ s.initSlot dev, s.ubr.isTagged cfg 0 q = true))
  | .rx .. | .xmit .. | .age .. | .tick .. | .portDel .. | .portCleanup .. | .vlanAdd .. | .vlanDel ..
  | .vlanFree .. | .vlanDetach .. | .portSet .. | .devChange .. => .isFalse id

theorem isTagged_iff {s : Ubr τ} {vid : Vid} {q : Pidx} :
    s.isTagged cfg vid q = true ↔ ∃ r v, ubrVlanFind cfg s vid = .ok (some r) ∧ s.Live r v ∧ q ∈ v.tagged := by
  unfold Ubr.isTagged
  cases ubrVlanFind cfg s vid with
  | error f => simp
  | ok found =>
      cases found with
      | none => simp
      | some r => simp [Ubr.Live, Option.any_eq_true, and_left_comm, and_assoc]

section Writes

variable {v : UbrVlan} {k q : Pidx}

theorem SameBits.refl (v : UbrVlan) (q : Pidx) : SameBits v v q := ⟨Iff.rfl, Iff.rfl⟩

theorem attach_writes (tagged : Bool) :
    Writes v (v.attach k tagged) q (if q = k then some (if tagged then .tagged else .untagged) else none) := by
  by_cases here : q = k
  · subst here
    cases tagged with
    | true => simp [Writes, UbrVlan.attach]
    | false => simp [Writes, UbrVlan.attach]
  · cases tagged with
    | true => simp [Writes, UbrVlan.attach, SameBits, here]
    | false => simp [Writes, UbrVlan.attach, SameBits, here]

theorem detach_writes : Writes v (v.detach k) q (if q = k then some .out else none) := by
  by_cases here : q = k
  · subst here
    simp [Writes, UbrVlan.detach]
  · simp [Writes, UbrVlan.detach, SameBits, here]

end Writes

section Step

variable {s s' : Sys τ} {e : Event} {o : Outcome} {q : Pidx}

theorem portAdd_begun [Jiffies τ] {dev : Dev} {env : PortAddEnv} (done : s.exec cfg (.portAdd dev env) = .ok (s', o)) :
    (s.initSlot dev = none ∧ s'.ubr = s.ubr) ∨
    ∃ k r v, s.initSlot dev = some k ∧ ubrVlanFind cfg s.ubr 0 = .ok (some r) ∧ s.ubr.heap r = some v ∧
      ∀ x u, s'.ubr.Live x u ↔ (s.ubr.putVlan r (v.attach k false)).Live x u := by
  obtain ⟨⟨u, nd, ret⟩, added, done⟩ := except_bind_eq_ok done
  cases done
  rcases ubrPortAdd_cases added with
    ⟨rfl, _, refused, _⟩ | ⟨k, r, v, allowed, zero, found, live, rfl, _⟩ | ⟨k, r, v, _, allowed, zero, found, live, _,
      rfl, _⟩
  · refine .inl ⟨Option.eq_none_iff_forall_ne_some.mpr fun k begun => ?_, rfl⟩
    obtain ⟨allowed, zero⟩ := initSlot_some.mp begun
    rw [refused allowed] at zero
    cases zero
  · exact .inr ⟨k, r, v, initSlot_some.mpr ⟨allowed, zero⟩, found, live, fun x u => Iff.rfl⟩
  · exact .inr ⟨k, r, v, initSlot_some.mpr ⟨allowed, zero⟩, found, live, fun x u => Iff.rfl⟩

theorem writes_put {r x : VlanRef} {v w u : UbrVlan} {cmd : Pidx → Option Mode} (vlans : VlansOk cfg s.ubr)
    (live : s.ubr.heap r = some v) (vid : w.vid = v.vid) (here : ∀ q, Writes v w q (cmd q))
    (mine : u.vid = v.vid → ∀ q, commanded u.vid q ⟨s, e, o, s'⟩ = cmd q)
    (others : u.vid ≠ v.vid → ∀ q, commanded u.vid q ⟨s, e, o, s'⟩ = none) (left : (s.ubr.putVlan r w).Live x u) :
    ∃ v', s.ubr.Live x v' ∧ v'.vid = u.vid ∧ ∀ q, Writes v' u q (commanded u.vid q ⟨s, e, o, s'⟩) := by
  rcases live_putVlan live left with ⟨rfl, rfl, before⟩ | ⟨other, before⟩
  · refine ⟨v, before, vid.symm, fun q => ?_⟩
    rw [mine vid]
    exact here q
  · have apart : u.vid ≠ v.vid := fun same => other (vlans.unique x r u v before.1 live same)
    refine ⟨u, before, rfl, fun q => ?_⟩
    rw [others apart]
    exact .refl u q

/-- The events that write to the bits of a VLAN that stays. -/
def Event.OnModes : Event → Prop
  | .vlanAttach .. | .vlanDetach .. | .portAdd .. | .vlanAdd .. => True
  | _ => False

theorem Effect.live_before {u : Ubr τ} (effect : Effect cfg s e u) (other : ¬ e.OnModes) {x : VlanRef} {v : UbrVlan}
    (left : u.Live x v) : s.ubr.Live x v := by
  cases effect with
  | quiet | pvidSet | portDeleted | portCleaned => exact left
  | vlanDeleted => exact (live_dropVlan.mp left).2
  | vlanFreed queued => exact (live_freed queued).mp left
  | vlanAdded | attached | detached | portAdded | portAddFailed => exact absurd trivial other

variable [Jiffies τ]

/-- What a step does to the bits of the registered VLANs is what it commands. -/
theorem step_writes (vlans : VlansOk cfg s.ubr) (enabled : s.Enabled e) (done : s.exec cfg e = .ok (s', o))
    {x : VlanRef}
    {u : UbrVlan} (left : s'.ubr.Live x u) :
    ((∃ vid zallocFails, e = .vlanAdd vid zallocFails) ∧ u = newVlan u.vid ∧
        ∀ q, commanded u.vid q ⟨s, e, o, s'⟩ = some .out) ∨
      ∃ v, s.ubr.Live x v ∧ v.vid = u.vid ∧ ∀ q, Writes v u q (commanded u.vid q ⟨s, e, o, s'⟩) := by
  have still (none : ∀ q, commanded u.vid q ⟨s, e, o, s'⟩ = none) (before : s.ubr.Live x u) :
      ∃ v, s.ubr.Live x v ∧ v.vid = u.vid ∧ ∀ q, Writes v u q (commanded u.vid q ⟨s, e, o, s'⟩) := by
    refine ⟨u, before, rfl, fun q => ?_⟩
    rw [none]
    exact .refl u q
  cases e with
  | vlanAttach vid port tagged =>
      right
      obtain ⟨ubr, result, rfl, _⟩ := configured_ok done
      rcases ubrVlanNlAttach_cases result with ⟨rfl, _, err, nobody⟩ | ⟨r, v, k, found, live, same, slot, rfl, _⟩
      · exact still (by simp [commanded, nobody, Except.toOption]) left
      · refine writes_put (w := v.attach k (tagged != 0)) vlans live rfl
          (fun q => attach_writes (tagged != 0)) ?_ ?_ left
        · intro vid' q
          simp [commanded, slot, Except.toOption, same, vid', @eq_comm _ k q]
        · intro vid' q
          rw [same] at vid'
          simp [commanded, Ne.symm vid']
  | vlanDetach vid port =>
      right
      obtain ⟨ubr, result, rfl, _⟩ := configured_ok done
      rcases ubrVlanNlDetach_cases result with ⟨rfl, _, err, nobody⟩ | ⟨r, v, k, found, live, same, slot, rfl, _⟩
      · exact still (by simp [commanded, nobody, Except.toOption]) left
      · refine writes_put (w := v.detach k) vlans live rfl (fun q => detach_writes) ?_ ?_ left
        · intro vid' q
          simp [commanded, slot, Except.toOption, same, vid', @eq_comm _ k q]
        · intro vid' q
          rw [same] at vid'
          simp [commanded, Ne.symm vid']
  | portAdd dev env =>
      right
      rcases portAdd_begun done with ⟨unbegun, same⟩ | ⟨k, r, v, begun, found, live, stays⟩
      · exact still (by simp [commanded, unbegun]) (same ▸ left)
      · obtain ⟨_, w, read, zero⟩ := findInBucket_some found
        cases live.symm.trans read
        refine writes_put (w := v.attach k false) vlans live rfl (fun q => attach_writes false) ?_ ?_
          ((stays x u).mp left)
        · intro vid' q
          simp [commanded, begun, vid', zero, @eq_comm _ k q]
        · intro vid' q
          rw [zero] at vid'
          exact if_neg fun both => vid' both.1
  | vlanAdd vid zallocFails =>
      obtain ⟨ubr, result, rfl, _⟩ := configured_ok done
      rcases ubrVlanNlAdd_cases result with ⟨_, _, rfl, ret⟩ | ⟨_, _, rfl, ret⟩ | ⟨missing, _, rfl, ret⟩
      · exact .inr (still (by simp [commanded, ret, Except.toBool]) left)
      · exact .inr (still (by simp [commanded, ret, Except.toBool]) left)
      · have added : (s.ubr.addVlan cfg vid).Live x u := left
        rcases live_addVlan added with ⟨rfl, rfl⟩ | before
        · refine .inl ⟨⟨_, _, rfl⟩, rfl, fun q => ?_⟩
          simp [commanded, ret, Except.toBool, newVlan]
        · have other := not_live_of_find_none vlans missing before.1
          exact .inr (still (by simp [commanded, Ne.symm other]) before)
  | _ => exact .inr (still (fun _ => rfl) ((exec_effect enabled done).live_before id left))

omit [Jiffies τ] in
theorem InMode.writes {v w : UbrVlan} {cmd : Option Mode} {mode : Mode} (before : v.InMode q mode)
    (written : Writes v w q cmd)
    (clean : cmd = some .untagged → q ∉ v.tagged) : w.InMode q (cmd.getD mode) := by
  unfold UbrVlan.InMode at before ⊢
  cases cmd with
  | none => exact ⟨written.1.trans before.1, written.2.trans before.2⟩
  | some command =>
      cases command with
      | out => simpa [Writes] using written
      | untagged => simpa [Writes, clean rfl] using written
      | tagged => simpa [Writes] using written

theorem untags_of_tagged (vlans : VlansOk cfg s.ubr) (done : s.exec cfg e = .ok (s', o)) {r : VlanRef} {v : UbrVlan}
    (live : s.ubr.Live r v) (command : commanded v.vid q ⟨s, e, o, s'⟩ = some .untagged) (tagged : q ∈ v.tagged) :
    s.untags cfg e := by
  cases e with
  | vlanAttach vid port tag =>
      simp only [commanded] at command
      split at command
      · rename_i named
        obtain ⟨same, slot⟩ := named
        have slot := ok_of_toOption slot
        obtain ⟨ubr, result, rfl, _⟩ := configured_ok done
        rcases ubrVlanNlAttach_cases result with ⟨_, _, _, nobody⟩ | ⟨r', v', k, found, live', same', _, rfl, _⟩
        · cases slot.symm.trans nobody
        · cases vlans.unique r r' v v' live.1 live' (same.symm.trans same'.symm)
          have zero : tag = 0 := by simpa using command
          refine ⟨zero, q, ?_, isTagged_iff.mpr ⟨r, v, found, live, tagged⟩⟩
          rw [slot]
          rfl
      · cases command
  | portAdd dev env =>
      simp only [commanded] at command
      split at command
      · rename_i named
        obtain ⟨zero, begun⟩ := named
        rcases portAdd_begun done with ⟨unbegun, _⟩ | ⟨k, r', v', _, found, live', _⟩
        · cases unbegun.symm.trans begun
        · obtain ⟨_, w, read, zero'⟩ := findInBucket_some found
          cases live'.symm.trans read
          cases vlans.unique r r' v v' live.1 live' (zero.trans zero'.symm)
          exact ⟨q, begun, isTagged_iff.mpr ⟨r, v, found, live, tagged⟩⟩
      · cases command
  | vlanDetach vid port =>
      simp only [commanded] at command
      split at command <;> cases command
  | vlanAdd vid zallocFails =>
      simp only [commanded] at command
      split at command <;> cases command
  | _ => cases command

theorem tagged_of_untags (done : s.exec cfg e = .ok (s', o)) (untags : s.untags cfg e) :
    ∃ r w q, s'.ubr.Live r w ∧ commanded w.vid q ⟨s, e, o, s'⟩ = some .untagged ∧ q ∈ w.tagged := by
  cases e with
  | vlanAttach vid port tagged =>
      obtain ⟨rfl, q, slot, isTagged⟩ := untags
      have slot := ok_of_toOption slot
      obtain ⟨r, v, found, live, isTagged⟩ := isTagged_iff.mp isTagged
      obtain ⟨ubr, result, rfl, _⟩ := configured_ok done
      rcases ubrVlanNlAttach_cases result with ⟨_, _, _, nobody⟩ | ⟨r', v', k, found', live', same, slot', rfl, _⟩
      · cases slot.symm.trans nobody
      · cases found.symm.trans found'
        cases slot.symm.trans slot'
        cases live.1.symm.trans live'
        refine ⟨r, v.attach q false, q, live_putVlan_self live, ?_, isTagged⟩
        simp [commanded, slot, same, Except.toOption, UbrVlan.attach]
  | portAdd dev env =>
      obtain ⟨q, begun, isTagged⟩ := untags
      obtain ⟨r, v, found, live, isTagged⟩ := isTagged_iff.mp isTagged
      rcases portAdd_begun done with ⟨unbegun, _⟩ | ⟨k, r', v', begun', found', live', stays⟩
      · cases unbegun.symm.trans begun
      · cases found.symm.trans found'
        cases begun.symm.trans begun'
        cases live.1.symm.trans live'
        obtain ⟨_, w, read, zero⟩ := findInBucket_some found
        cases live'.symm.trans read
        refine ⟨r, v.attach q false, q, (stays _ _).mpr (live_putVlan_self live), ?_, isTagged⟩
        simp [commanded, begun', zero, UbrVlan.attach]
  | _ => exact untags.elim

end Step

section Runs

variable [Jiffies τ] {tr : History τ} {s : Sys τ}

omit [Jiffies τ] in
theorem fresh_lastWins (dev : Dev) (devAddr : Mac) : LastWins ([] : History τ) (freshUbr cfg dev devAddr : Ubr τ) := by
  intro r v live q
  have joined : ((linkedUbr cfg dev devAddr : Ubr τ).putVlan 0 ((newVlan 0).attach 0 false)).Live r v := live
  rcases live_putVlan (linked_heap dev devAddr) joined with ⟨_, rfl, _⟩ | ⟨other, before⟩
  · by_cases host : q = 0
    · simp [UbrVlan.InMode, UbrVlan.attach, lastMode, newVlan, host]
    · simp [UbrVlan.InMode, UbrVlan.attach, lastMode, newVlan, host]
  · have added : ((zeroedUbr dev devAddr : Ubr τ).addVlan cfg 0).Live r v := before
    rcases live_addVlan added with ⟨here, _⟩ | empty
    · exact absurd here other
    · cases empty.1

/-- As long as no tagged port is attached untagged, the bits are the last command. -/
theorem lastWins_of_run (run : Run (bridge τ cfg) (fun s e => ¬ s.untags cfg e) tr s) : LastWins tr s.ubr := by
  refine run.invariant (I := fun tr s => LastWins tr s.ubr) ?_ ?_
  · intro s init
    obtain ⟨dev, devAddr, same⟩ := init_ubr init
    rw [same]
    exact fresh_lastWins dev devAddr
  · intro tr s e s' o before wins enabled clean done r w left q
    have vlans := vlansOk_of_reachable before.reachable
    rcases step_writes vlans enabled done left with ⟨_, new, command⟩ | ⟨v, live, same, written⟩
    · rw [lastMode, command q, new]
      simp [UbrVlan.InMode, newVlan]
    · have inMode := wins r v live q
      rw [same] at inMode
      refine InMode.writes inMode (written q) fun command tagged => clean ?_
      rw [← same] at command
      exact untags_of_tagged vlans done live command tagged

/-- The bits of the ports that a command does not name stay. -/
def KeepsOthers (t : Transition (Sys τ) Event Outcome) : Prop :=
  ∀ r v, t.pre.ubr.Live r v → ∃ w, t.post.ubr.Live r w ∧ w.vid = v.vid ∧
    ∀ q, commanded v.vid q t = none → SameBits v w q

/-- The commands that attach and detach ports. -/
def Event.attaches : Event → Prop
  | .vlanAttach .. | .vlanDetach .. => True
  | _ => False

theorem keepsOthers {s s' : Sys τ} {e : Event} {o : Outcome} (vlans : VlansOk cfg s.ubr) (enabled : s.Enabled e)
    (done : s.exec cfg e = .ok (s', o)) (command : e.attaches) : KeepsOthers ⟨s, e, o, s'⟩ := by
  intro r v live
  have rewritten (x : VlanRef) (u w : UbrVlan) (there : s.ubr.heap x = some u) :
      ∃ w', (s.ubr.putVlan x w).Live r w' := by
    by_cases here : r = x
    · subst here
      exact ⟨w, live_putVlan_self live⟩
    · exact ⟨v, live_putVlan_other here live⟩
  have stays : ∃ w, s'.ubr.Live r w := by
    cases e with
    | vlanAttach vid port tagged =>
        obtain ⟨ubr, result, rfl, _⟩ := configured_ok done
        rcases ubrVlanNlAttach_cases result with ⟨rfl, _⟩ | ⟨x, u, k, _, there, _, _, rfl, _⟩
        · exact ⟨v, live⟩
        · exact rewritten x u _ there
    | vlanDetach vid port =>
        obtain ⟨ubr, result, rfl, _⟩ := configured_ok done
        rcases ubrVlanNlDetach_cases result with ⟨rfl, _⟩ | ⟨x, u, k, _, there, _, _, rfl, _⟩
        · exact ⟨v, live⟩
        · exact rewritten x u _ there
    | _ => exact command.elim
  obtain ⟨w, left⟩ := stays
  rcases step_writes vlans enabled done left with ⟨⟨vid, z, rfl⟩, _⟩ | ⟨v', live', same, written⟩
  · exact command.elim
  · cases live.1.symm.trans live'.1
    refine ⟨w, left, same.symm, fun q others => ?_⟩
    have kept := written q
    rw [← same, others] at kept
    exact kept

/-- In every state of a run the bits are the last command, and no command touches other ports,
    if and only if no port is attached untagged to a VLAN in which it is tagged. -/
theorem last_command_wins_iff (run : Run (bridge τ cfg) (fun _ _ => True) tr s) :
    (∀ t before, (t :: before) <:+ tr →
        LastWins (t :: before) t.post.ubr ∧ (t.event.attaches → KeepsOthers t)) ↔
      ∀ t ∈ tr, ¬ t.pre.untags cfg t.event := by
  constructor
  · intro wins t inside untags
    obtain ⟨later, before, rfl⟩ := List.append_of_mem inside
    have part : (t :: before) <:+ later ++ t :: before := List.suffix_append _ _
    obtain ⟨_, _, _, done, _⟩ := (run.upTo part).uncons
    obtain ⟨r, w, q, live, command, tagged⟩ := tagged_of_untags done untags
    have mode := ((wins t before part).1 r w live q).2.mp tagged
    rw [lastMode, command] at mode
    cases mode
  · intro clean t before part
    have whole := (run.guarded (D := fun s e => ¬ s.untags cfg e) clean).upTo part
    obtain ⟨earlier, enabled, _, done, _⟩ := whole.uncons
    exact ⟨lastWins_of_run whole, keepsOthers (vlansOk_of_reachable earlier.reachable) enabled done⟩

end Runs

/-- A port is attached tagged, detached and attached untagged. -/
theorem last_command_wins_x86 : ∃ tr s, Run (bridge Nat x86) (fun _ _ => True) tr s ∧ tr.length = 5 ∧
    ∀ t before, (t :: before) <:+ tr → LastWins (t :: before) t.post.ubr ∧ (t.event.attaches → KeepsOthers t) := by
  obtain ⟨tr, s, run, test⟩ := run_booted x86 (fun _ _ => True)
    [.portAdd 1 {}, .vlanAdd 5 false, .vlanAttach 5 1 1, .vlanDetach 5 1, .vlanAttach 5 1 0]
    (fun tr _ => tr.length == 5 && tr.all fun t => decide (¬ t.pre.untags x86 t.event)) (by decide +kernel)
  simp only [Bool.and_eq_true, beq_iff_eq, List.all_eq_true, decide_eq_true_eq] at test
  exact ⟨tr, s, run, test.1, (last_command_wins_iff run).mpr test.2⟩

/-- The same without the detachment. -/
theorem retagging_is_lost : ¬ ∀ tr s, Run (bridge Nat x86) (fun _ _ => True) tr s →
    ∀ t before, (t :: before) <:+ tr → LastWins (t :: before) t.post.ubr ∧ (t.event.attaches → KeepsOthers t) := by
  intro claim
  obtain ⟨tr, s, run, test⟩ := run_booted x86 (fun _ _ => True)
    [.portAdd 1 {}, .vlanAdd 5 false, .vlanAttach 5 1 1, .vlanAttach 5 1 0]
    (fun tr s => lastMode 5 1 tr == .untagged && decide (1 ∉ s.ubr.vlanRcu) &&
      (s.ubr.heap 1).any fun v : UbrVlan => v.vid == 5 && decide (1 ∈ v.tagged)) (by decide +kernel)
  simp only [Bool.and_eq_true, beq_iff_eq, decide_eq_true_eq, Option.any_eq_true] at test
  obtain ⟨⟨mode, alive⟩, v, read, vid, tagged⟩ := test
  cases tr with
  | nil => exact absurd mode (by decide)
  | cons t before =>
      obtain ⟨_, _, _, _, rfl⟩ := run.uncons
      have wins := ((claim _ _ run t before List.suffix_rfl).1 1 v ⟨read, alive⟩ 1).2.mp tagged
      rw [vid, mode] at wins
      cases wins

end UnassumingBridge
