import UnassumingBridge.DataPath.Switch
import UnassumingBridge.Network.Separation

/-! # Bridges that are all used in order

Each of them is a learning switch, whatever happens to the others, and none of them brings
the kernel down.
-/

namespace UnassumingBridge

open Support

variable {w : Nat} {cfg : Config} {tr : List (Transition (Net (BitVec w)) NetEvent Outcome)} {net : Net (BitVec w)}
    {b : Dev}

theorem local_inOrder (cfg : Config) : Local (Sys.InOrder cfg : Sys (BitVec w) → Event → Prop) where
  alike s t e alike order := by
    have slots := alike.slotOf
    have begins := alike.initSlot
    have whole := alike.completes
    have enters : s.entry e = t.entry e := by
      cases e with
      | rx dev skb env => simp only [Sys.entry, slots]
      | _ => rfl
    have frames := frames_alike cfg alike.ubr enters
    have works := frames.1.mpr order.works
    have tags := frames.2.1.mpr order.tags
    have protocols := frames.2.2.mpr order.protocols
    clear frames enters
    obtain ⟨ubr, clock, _⟩ := alike
    obtain ⟨u, d, j⟩ := s
    obtain ⟨u', d', j'⟩ := t
    cases ubr
    cases clock
    cases e with
    | rx dev skb env =>
        refine ⟨trivial, trivial, trivial, trivial, fun k slave => ?_, works, tags, protocols, trivial⟩
        rw [slots] at slave
        exact order.names k slave
    | portAdd dev env =>
        refine ⟨trivial, fun k begun => ?_, fun k begun => ?_, trivial, trivial, works, tags, protocols, trivial⟩
        · rw [begins] at begun
          rw [whole]
          exact order.members k begun
        · rw [begins] at begun
          exact order.slots k begun
    | portDel dev =>
        refine ⟨trivial, fun k slave => ?_, trivial, fun k slave => ?_, trivial, works, tags, protocols, trivial⟩
        · rw [slots] at slave
          exact order.members k slave
        · rw [slots] at slave
          exact order.entries k slave
    | xmit | age | tick | portCleanup | vlanAdd | vlanDel | vlanFree | vlanAttach | vlanDetach | portSet | devChange =>
        exact ⟨order.vlans, order.members, order.slots, order.entries, order.names, works, tags, protocols, order.clock⟩
  portDel s t dev ubr clock slot order := by
    have frames := frames_of_none cfg (s := s) (e := .portDel dev) rfl
    obtain ⟨u, d, j⟩ := s
    obtain ⟨u', d', j'⟩ := t
    cases ubr
    cases clock
    refine ⟨trivial, fun k slave => ?_, trivial, fun k slave => ?_, trivial, frames.1, frames.2.1, frames.2.2, trivial⟩
    · rw [slot] at slave
      exact order.members k slave
    · rw [slot] at slave
      exact order.entries k slave
  slots _ _ order := order.slots
  devChange s dev nd :=
    have frames := frames_of_none cfg (s := s) (e := .devChange dev nd) rfl
    ⟨trivial, trivial, trivial, trivial, trivial, frames.1, frames.2.1, frames.2.2, trivial⟩

/-- What one of many bridges in order has done is what a bridge of its own does in order. -/
theorem orderly_part (run : Run (bridges (BitVec w) cfg) (Net.Each (Sys.InOrder cfg)) tr net) {ubr : Ubr (BitVec w)}
    (here : net.ubrs b = some ubr) :
    ∃ tr' s, Run (bridge (BitVec w) cfg) (Sys.InOrder cfg) tr' s ∧ Alike s (net.sys ubr) ∧
      (asPart b).story tr' = tr.filterMap (asPart b).does := by
  obtain ⟨tr', s, run', ⟨u, found, alike⟩, same⟩ :=
    (separates (local_inOrder cfg) b).run run (Option.isSome_iff_exists.mpr ⟨ubr, here⟩)
  cases here.symm.trans found
  exact ⟨tr', s, run', alike, same⟩

section Progress

variable (wide : 0 < w) (half : 300 * cfg.hz < 2 ^ (w - 1)) {m : Dev} {ubr : Ubr (BitVec w)} {e : Event}

include wide half in
theorem exec_of_alike {tr' : History (BitVec w)} {s t : Sys (BitVec w)}
    (run : Run (bridge (BitVec w) cfg) (Sys.InOrder cfg) tr' s)
    (alike : Alike s t) (enabled : t.Enabled e) (order : t.InOrder cfg e) : ∃ t' o, t.exec cfg e = .ok (t', o) := by
  have order' := (local_inOrder cfg).alike _ _ _ alike order
  obtain ⟨s', o, done⟩ := (refines_switch wide half).never_stuck run (alike.enabled enabled) order'
  obtain ⟨t', done', _⟩ := alike.symm.exec done
  exact ⟨t', o, done'⟩

include wide half in
theorem onBridge_of_alike {tr' : History (BitVec w)} {s : Sys (BitVec w)}
    (run : Run (bridge (BitVec w) cfg) (Sys.InOrder cfg) tr' s)
    (here : net.ubrs m = some ubr) (alike : Alike s (net.sys ubr)) (enabled : (net.sys ubr).Enabled e)
    (order : (net.sys ubr).InOrder cfg e) : ∃ net' o, net.onBridge cfg m e = .ok (net', o) := by
  obtain ⟨s', o, done⟩ := exec_of_alike wide half run alike enabled order
  refine ⟨net.withSys m s', o, ?_⟩
  simp only [Net.onBridge, here, done]
  rfl

include wide half in
/-- The notifier gets by when the bridge of a slave has got by so far. -/
theorem unregister_of_alike (ok : Bookkept net) {dev : Dev} (slave : ∀ m ubr, (net.devs dev).bridge = some m →
      net.ubrs m = some ubr → ∃ (tr' : History (BitVec w)) (s : Sys (BitVec w)),
        Run (bridge (BitVec w) cfg) (Sys.InOrder cfg) tr' s ∧
        Alike s (net.sys ubr) ∧ (net.sys ubr).InOrder cfg (.portDel dev)) :
    ∃ net' o, net.unregister cfg dev = .ok (net', o) := by
  suffices noticed : ∃ net' o, ubrDeviceEvent cfg net dev = .ok (net', o) by
    obtain ⟨net', o, done⟩ := noticed
    exact ⟨net'.delist dev, o, by simp only [Net.unregister, done]; rfl⟩
  unfold ubrDeviceEvent
  rcases ok.device dev with loose | ⟨m, k, linked⟩
  · have outside := loose.outside
    simp only [NetDev.outside, Bool.and_eq_true, Bool.not_eq_true'] at outside
    rw [outside.1]
    exact ⟨net, {}, rfl⟩
  · rw [linked.flag, linked.handler]
    obtain ⟨ubr, here, _⟩ := linked.slot
    obtain ⟨tr', s, run, alike, order⟩ := slave m ubr linked.bridge here
    have enabled : (net.sys ubr).Enabled (.portDel dev) :=
      Option.isSome_iff_exists.mpr ⟨k, slotOf_some.mpr ((ok.self m ubr here).symm ▸ linked.handler)⟩
    exact onBridge_of_alike wide half run here alike enabled order

/-- The indexes in the slots in use are the slots' own. -/
def Ubr.Wired (ubr : Ubr (BitVec w)) : Prop := ∀ k ∈ ubr.busy, (ubr.ports k).ingressCb.pidx = k

theorem dellinkPorts_total (ports : List Pidx) {s : Sys (BitVec w)} (ok : Bookkept (net.withSys m s))
    (wired : s.ubr.Wired) : ∃ s', dellinkPorts s ports = .ok s' := by
  induction ports generalizing s with
  | nil => exact ⟨s, rfl⟩
  | cons pidx rest ih =>
      simp only [dellinkPorts]
      split
      · exact ih ok wired
      · rename_i chosen
        obtain ⟨busy, notHost⟩ := not_or.mp chosen
        have inUse := not_not.mp busy
        have here : (net.withSys m s).ubrs m = some s.ubr := Function.update_self _ _ _
        obtain ⟨dev, linked⟩ := ok.owner m s.ubr pidx here inUse notHost
        have idle : pidx ∉ s.ubr.portRcu := fun queued => ok.pending m s.ubr here pidx queued inUse
        have handler : (s.devs dev).rxHandler = some (.ubrPort m pidx) := linked.handler
        have cleaned := ubrPortCleanup_ok.mpr ⟨wired pidx inUse, idle, rfl⟩
        have deleted : ubrPortDel s.ubr (s.devs dev) = .ok (s.ubr.vacate pidx, (s.devs dev).released) := by
          simp only [ubrPortDel, handler, cleaned]
          rfl
        simp only [(linked.plugged here).2, deleted]
        have again : (net.withSys m s).relink m dev (s.ubr.vacate pidx) (s.devs dev).released =
            net.withSys m ({ s with ubr := s.ubr.vacate pidx }.setDev dev (s.devs dev).released) := by
          simp [Net.relink, Net.withSys, Sys.setDev]
        have next := ok.deleted here linked deleted
        rw [again] at next
        exact ih next fun k left => wired k (Bitmap.mem_clear.mp left).2

theorem command_answered {info : GenlInfo} {run : Dev → Ubr (BitVec w) → Except Fault (Ubr (BitVec w) × Ret)}
    (answers : ∀ dev ubr, net.bridgeOf info = some (dev, ubr) → ∃ ubr' ret, run dev ubr = .ok (ubr', ret)) :
    ∃ net' ret, net.command info run = .ok (net', ret) := by
  unfold Net.command
  cases named : net.bridgeOf info with
  | none => exact ⟨_, _, rfl⟩
  | some found =>
      obtain ⟨dev, ubr⟩ := found
      obtain ⟨ubr', ret, ran⟩ := answers dev ubr named
      simp only [ran]
      exact ⟨_, _, rfl⟩

/-- A request that turns into no command of a bridge is answered, if it names a bridge
    where the handler follows the pointer to it. -/
theorem request_answered {admin : Bool} {req : Request}
    (names : req.cmd = .fdbFlush ∨ req.cmd = .vlanSet → (net.bridgeOf req.info).isSome)
    (idle : net.bridgeOf req.info = none ∨ net.order req = none) :
    ∃ net' ret, genlRcvMsg cfg net admin req = .ok (net', ret) := by
  obtain ⟨cmd, info, zallocFails⟩ := req
  have absent {dev : Dev} {ubr : Ubr (BitVec w)} {P : Prop} (named : net.bridgeOf info = some (dev, ubr))
      (ordered : net.order ⟨cmd, info, zallocFails⟩ ≠ none) : P := by
    rcases idle with nobody | nothing
    · cases nobody.symm.trans named
    · exact absurd nothing ordered
  rw [genlRcvMsg_eq]
  cases cmd with
  | fdbFlush =>
      simp only [ubrFdbNlFlushCmd_eq, if_pos (names (.inl rfl))]
      exact ⟨_, _, rfl⟩
  | vlanSet =>
      simp only [ubrVlanNlSetCmd_eq, if_pos (names (.inr rfl))]
      cases info.vid with
      | error e => exact ⟨_, _, rfl⟩
      | ok vid => exact ⟨_, _, rfl⟩
  | vlanAdd | vlanDel =>
      simp only [ubrVlanNlAddCmd_eq, ubrVlanNlDelCmd_eq]
      cases wanted : info.vid with
      | error e => exact ⟨_, _, rfl⟩
      | ok vid =>
          exact command_answered fun dev ubr named =>
            absent named (by simp [Net.order, wanted, Except.toOption])
  | vlanAttach | vlanDetach =>
      simp only [ubrVlanNlAttachCmd_eq, ubrVlanNlDetachCmd_eq]
      refine command_answered fun dev ubr named => ?_
      cases wanted : info.membership with
      | error e => exact ⟨_, _, rfl⟩
      | ok place =>
          obtain ⟨vid, ifindex, tagged⟩ := place
          cases looked : net.byIndex ifindex with
          | none => exact ⟨ubr, _, by simp only [looked]; rfl⟩
          | some port => exact absent named (by simp [Net.order, wanted, looked, Except.toOption])
  | portSet =>
      simp only [ubrPortNlSetCmd_eq]
      cases wanted : info.portSettings with
      | error e => exact ⟨_, _, rfl⟩
      | ok settings =>
          refine command_answered fun dev ubr named => ?_
          exact absent ((held_bridgeOf net _ info).symm.trans named) (by simp [Net.order, wanted, Except.toOption])

/-- The two handlers that follow the pointer to a bridge without a look are called on bridges. -/
def Net.NamesBridge (net : Net (BitVec w)) : NetEvent → Prop
  | .request _ req => req.cmd = .fdbFlush ∨ req.cmd = .vlanSet → (net.bridgeOf req.info).isSome
  | _ => True

section Step

variable (run : Run (bridges (BitVec w) cfg) (Net.Each (Sys.InOrder cfg)) tr net) {e : NetEvent} {e' : Event}
include wide half run

theorem owner_runs (order : net.Each (Sys.InOrder cfg) e) (owner : net.owner e = some (m, e'))
    (alive : (net.ubrs m).isSome) (enabled : ∀ ubr, net.ubrs m = some ubr → (net.sys ubr).Enabled e') :
    ∃ net' o, net.onBridge cfg m e' = .ok (net', o) := by
  obtain ⟨ubr, here⟩ := Option.isSome_iff_exists.mp alive
  obtain ⟨tr', s, run', alike, _⟩ := orderly_part run here
  exact onBridge_of_alike wide half run' here alike (enabled ubr here) (order.own _ owner ubr here)

theorem dellink_runs (alive : (net.ubrs m).isSome) (order : net.Each (Sys.InOrder cfg) (.dellink m)) :
    ∃ net' o, net.exec cfg (.dellink m) = .ok (net', o) := by
  have fine : Local (Sys.InOrder cfg : Sys (BitVec w) → Event → Prop) := local_inOrder cfg
  have ok := bookkept_of_each fine run
  obtain ⟨ubr, here⟩ := Option.isSome_iff_exists.mp alive
  have wired : ubr.Wired := by
    obtain ⟨tr', s, run', alike, _⟩ := orderly_part run here
    have orderly : Tidy cfg s := .of_run run'
    have same : s.ubr = ubr := alike.ubr
    intro k inUse
    rw [← same] at inUse ⊢
    exact (orderly.slots k).pidx (orderly.ports.served k inUse)
  have whole : net.withSys m (net.sys ubr) = net := (Bookkept.withSys_still rfl).trans (setUbr_same here)
  obtain ⟨s, emptied⟩ := dellinkPorts_total (List.finRange 256) (whole.symm ▸ ok) wired
  obtain ⟨mid, linked⟩ : ∃ mid, ubrDevDellink net m = .ok mid := by
    simp only [ubrDevDellink, here, emptied]
    exact ⟨_, rfl⟩
  have ⟨kept, slaveless⟩ := ok.dellinked linked
  -- the bridge may be a slave of another one, which has only seen devices change so far
  obtain ⟨net', o, done⟩ : ∃ net' o, mid.unregister cfg m = .ok (net', o) := by
    refine unregister_of_alike wide half kept fun b ubr' slave there => ?_
    have other : m ≠ b := by
      intro same
      subst same
      obtain ⟨k, handler⟩ := NetDev.bridge_some.mp slave
      exact (slaveless m).2 k handler
    obtain ⟨follows, ubrs, clock, stays, came⟩ := follows_ubrDevDellink cfg b fine ok other linked
    have before := came slave
    have alive := ubrs.symm.trans there
    obtain ⟨tr', s', run', alike, _⟩ := orderly_part run alive
    obtain ⟨more, s'', run'', ⟨u, found, alike'⟩, _⟩ := follows tr' s' run' ⟨ubr', alive, alike⟩
    cases there.symm.trans found
    refine ⟨_, s'', run'', alike', fine.portDel _ (net.sys ubr') m rfl clock ?_ ?_⟩
    · have untouched : (mid.sys ubr').devs m = (net.sys ubr').devs m := stays before
      unfold Sys.slotOf
      rw [untouched]
      rfl
    · exact order.own (b, .portDel m) (by simp [Net.owner, before]) ubr' alive
  exact ⟨net', o, by simp only [Net.exec, linked]; exact done⟩

theorem request_runs {admin : Bool} {req : Request} (order : net.Each (Sys.InOrder cfg) (.request admin req))
    (names : net.NamesBridge (.request admin req)) : ∃ net' ret, genlRcvMsg cfg net admin req = .ok (net', ret) := by
  cases named : net.bridgeOf req.info with
  | none => exact request_answered names (.inl named)
  | some found =>
      obtain ⟨m, ubr⟩ := found
      cases turns : net.order req with
      | none => exact request_answered names (.inr turns)
      | some e =>
          have here := bridgeOf_eq named
          obtain ⟨tr', s, run', alike, _⟩ := orderly_part run here
          have owner : net.owner (.request admin req) = some (m, e) := by simp [Net.owner, named, turns]
          have enabled := (command_free (s := net.sys ubr) (order_command turns)).1
          obtain ⟨s', o, done⟩ := exec_of_alike wide half run' alike enabled (order.own _ owner ubr here)
          rw [genlRcvMsg_order named turns, done]
          exact ⟨_, _, rfl⟩

end Step
end Progress

/-- What happens to a bridge among others that are used in order, and what comes out of it,
    is what happens to a learning switch and what the switch answers. -/
theorem bridge_among_others_is_a_switch (wide : 0 < w) (half : 300 * cfg.hz < 2 ^ (w - 1))
    (run : Run (bridges (BitVec w) cfg) (Net.Each (Sys.InOrder cfg)) tr net) {ubr : Ubr (BitVec w)}
    (here : net.ubrs b = some ubr) :
    ∃ tr' a, ∃ tr'' : History (BitVec w),
      Run (LearningSwitch.switch (design cfg)) (fun _ _ => True) tr' a ∧ Pictures cfg ubr net.jiffies a ∧
      List.Forall₂ (asSwitch cfg).Matches tr'' tr' ∧ (asPart b).story tr'' = tr.filterMap (asPart b).does := by
  obtain ⟨tr'', s, run', alike, same⟩ := orderly_part run here
  obtain ⟨tr', a, switch, pictures, alikes⟩ := (refines_switch wide half).run run'
  have pictures : Pictures cfg s.ubr s.jiffies a := pictures
  rw [alike.ubr, alike.clock] at pictures
  exact ⟨tr', a, tr'', switch, pictures, alikes, same⟩

/-- Two bridges in order: a port of the first one gets a VLAN of its own, the second one takes
    up a device that the first one has released, and the first one goes away. -/
def orderlyNetwork : List NetEvent :=
  [.newlink 1000 0x02ed00000001 {}, .newlink 1001 0x02ed00000002 {}, .addSlave 1000 1 {}, .addSlave 1000 2 {},
    .request false { cmd := .vlanAdd, info := { ifindex := some 1001, vlan := some (.ok { vid := some 7 }) } },
    .addSlave 1001 3 {}, .rx 1 stationFrame {}, .rx 3 stationFrame {},
    .request false
      { cmd := .portSet, info := { ifindex := some 1001, port := some (.ok { ifindex := some 3, pvid := some 7 }) } },
    .rx 3 stationFrame {}, .tick 80000,
    .request false
      { cmd := .vlanDetach, info := { ifindex := some 1000, vlan := some (.ok { vid := some 0, port := some 1 }) } },
    .delSlave 1000 1, .addSlave 1001 1 {}, .xmit 1001 broadcastFrame {}, .dellink 1000]

/-- The second bridge is there at the end of it, and deleting it is in order. The clock of
    32 bits has wrapped. -/
theorem orderlyNetwork_inOrder : ∃ tr net ubr,
    Run (bridges (BitVec 32) x86) (Net.Each (Sys.InOrder x86)) tr net ∧ tr.length = 16 ∧ net.jiffies = 79999#32 ∧
    net.ubrs 1001 = some ubr ∧ net.Enabled (.dellink 1001) ∧ net.Each (Sys.InOrder x86) (.dellink 1001) := by
  obtain ⟨tr, net, run, test⟩ := run_loadedAt x86 (0 - 1#32) (Net.Each (Sys.InOrder x86)) orderlyNetwork
    (fun tr net => decide (tr.length = 16 ∧ net.jiffies = 79999#32 ∧ (net.ubrs 1001).isSome ∧
      net.Enabled (.dellink 1001) ∧ net.Each (Sys.InOrder x86) (.dellink 1001))) (by decide +kernel)
  obtain ⟨events, wrapped, present, enabled, order⟩ := of_decide_eq_true test
  obtain ⟨ubr, here⟩ := Option.isSome_iff_exists.mp present
  exact ⟨tr, net, ubr, run, events, wrapped, here, enabled, order⟩

theorem bridge_among_others_is_a_switch_x86 : ∃ tr net ubr,
    Run (bridges (BitVec 32) x86) (Net.Each (Sys.InOrder x86)) tr net ∧ tr.length = 16 ∧ net.jiffies = 79999#32 ∧
    net.ubrs 1001 = some ubr ∧ ∃ tr' a, ∃ tr'' : History (BitVec 32),
      Run (LearningSwitch.switch (design x86)) (fun _ _ => True) tr' a ∧ Pictures x86 ubr net.jiffies a ∧
      List.Forall₂ (asSwitch x86).Matches tr'' tr' ∧ (asPart 1001).story tr'' = tr.filterMap (asPart 1001).does := by
  obtain ⟨tr, net, ubr, run, events, wrapped, here, _⟩ := orderlyNetwork_inOrder
  exact ⟨tr, net, ubr, run, events, wrapped, here, bridge_among_others_is_a_switch (by decide) (by decide) run here⟩

/-- Bridges that are used in order never bring the kernel down, whatever is done with the
    devices around them. -/
theorem orderly_network_never_crashes (wide : 0 < w) (half : 300 * cfg.hz < 2 ^ (w - 1))
    (run : Run (bridges (BitVec w) cfg) (Net.Each (Sys.InOrder cfg)) tr net) {e : NetEvent}
    (enabled : net.Enabled e) (order : net.Each (Sys.InOrder cfg) e) (names : net.NamesBridge e) :
    ∃ net' o, net.exec cfg e = .ok (net', o) := by
  have ok := bookkept_of_each (local_inOrder cfg) run
  have slave {dev m : Dev} {k : Pidx} (linked : Linked net dev m k) (ubr : Ubr (BitVec w))
    (here : net.ubrs m = some ubr) : ((net.sys ubr).slotOf dev).isSome :=
    Option.isSome_iff_exists.mpr ⟨k, slotOf_some.mpr ((ok.self m ubr here).symm ▸ linked.handler)⟩
  cases e with
  | newlink ifindex devAddr env =>
      obtain ⟨made, linked⟩ :
          ∃ made, (ubrDevNewlink cfg net.nextDev devAddr env : Except Fault (Except Errno (Ubr (BitVec w)))) =
            .ok made :=
        ⟨_, ubrDevNewlink_eq net.nextDev devAddr env⟩
      simp only [Net.exec, linked]
      cases made with
      | error e => exact ⟨_, _, rfl⟩
      | ok fresh => exact ⟨_, _, rfl⟩
  | appear | tick | devChange | counted => exact ⟨_, _, rfl⟩
  | addSlave bridge dev env => exact owner_runs wide half run order rfl enabled.1 fun _ _ => trivial
  | delSlave bridge dev =>
      refine owner_runs wide half run order rfl enabled.1 fun ubr here => ?_
      obtain ⟨alive, master⟩ := enabled
      rcases ok.device dev with loose | ⟨m, k, linked⟩
      · have free := (foreignMaster_iff.mp loose.master bridge master).2
        rw [free] at alive
        cases alive
      · cases linked.master.symm.trans master
        exact slave linked ubr here
  | unregister dev =>
      refine unregister_of_alike wide half ok fun m ubr mine here => ?_
      obtain ⟨tr', s, run', alike, _⟩ := orderly_part run here
      exact ⟨tr', s, run', alike, order.own (m, .portDel dev) (by simp [Net.owner, mine]) ubr here⟩
  | dellink bridge => exact dellink_runs wide half run enabled order
  | request admin req =>
      obtain ⟨net', ret, done⟩ := request_runs wide half run order names
      exact ⟨net', { ret }, by simp only [Net.exec, done]; rfl⟩
  | rx dev skb env =>
      rcases ok.device dev with loose | ⟨m, k, linked⟩
      · cases loose.outside.symm.trans enabled
      · have owner : net.owner (.rx dev skb env) = some (m, .rx dev skb env) := by simp [Net.owner, linked.bridge]
        obtain ⟨ubr, here, _⟩ := linked.slot
        simp only [Net.exec, linked.handler]
        exact owner_runs wide half run order owner (Option.isSome_iff_exists.mpr ⟨ubr, here⟩) (slave linked)
  | xmit bridge skb env => exact owner_runs wide half run order rfl enabled fun _ _ => trivial
  | age bridge walk => exact owner_runs wide half run order rfl enabled fun _ _ => trivial
  | portCleanup bridge slot =>
      obtain ⟨ubr, here, queued⟩ := enabled
      refine owner_runs wide half run order rfl (Option.isSome_iff_exists.mpr ⟨ubr, here⟩) fun u found => ?_
      cases here.symm.trans found
      exact queued
  | vlanFree bridge vlan =>
      obtain ⟨ubr, here, queued⟩ := enabled
      refine owner_runs wide half run order rfl (Option.isSome_iff_exists.mpr ⟨ubr, here⟩) fun u found => ?_
      cases here.symm.trans found
      exact queued

theorem orderly_network_never_crashes_x86 : ∃ tr net,
    Run (bridges (BitVec 32) x86) (Net.Each (Sys.InOrder x86)) tr net ∧
    ∃ net' o, net.exec x86 (.dellink 1001) = .ok (net', o) := by
  obtain ⟨tr, net, ubr, run, _, _, _, enabled, order⟩ := orderlyNetwork_inOrder
  exact ⟨tr, net, run, orderly_network_never_crashes (by decide) (by decide) run enabled order trivial⟩

end UnassumingBridge
