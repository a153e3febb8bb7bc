import UnassumingBridge.Effects.Counts
import UnassumingBridge.DataPath.Delivery
import UnassumingBridge.Network.Enslavement
import UnassumingBridge.Support.Parts

/-! # Bridges beside each other

All bridges share the devices, the clock, the notifiers and the netlink family. To one
of them the others are the rest of the kernel: what it does among them it could have done
alone.
-/

namespace UnassumingBridge

open Support

variable {τ : Type} {cfg : Config}

/-- The bridge that a device is a slave of. -/
def NetDev.bridge (nd : NetDev) : Option Dev :=
  match nd.rxHandler with
  | some (.ubrPort bridge _) => some bridge
  | _ => none

theorem NetDev.bridge_some {nd : NetDev} {b : Dev} : nd.bridge = some b ↔ ∃ k, nd.rxHandler = some (.ubrPort b k) := by
  unfold NetDev.bridge
  split
  · rename_i m k handler
    rw [handler]
    constructor
    · intro same
      cases same
      exact ⟨k, rfl⟩
    · rintro ⟨_, same⟩
      cases same
      rfl
  · rename_i foreign
    exact ⟨nofun, fun ⟨k, handler⟩ => absurd handler (foreign b k)⟩

/-- The bridge that an event happens to, and what happens to it. -/
def Net.owner (net : Net τ) : NetEvent → Option (Dev × Event)
  | .addSlave bridge dev env => some (bridge, .portAdd dev env)
  | .delSlave bridge dev => some (bridge, .portDel dev)
  | .unregister dev | .dellink dev => (net.devs dev).bridge.map fun bridge => (bridge, .portDel dev)
  | .request _ req => (net.bridgeOf req.info).bind fun found => (net.order req).map fun e => (found.1, e)
  | .rx dev skb env => (net.devs dev).bridge.map fun bridge => (bridge, .rx dev skb env)
  | .xmit bridge skb env => some (bridge, .xmit skb env)
  | .age bridge walk => some (bridge, .age walk)
  | .portCleanup bridge slot => some (bridge, .portCleanup slot)
  | .vlanFree bridge vlan => some (bridge, .vlanFree vlan)
  | .newlink .. | .appear .. | .tick .. | .devChange .. | .counted .. => none

/-- What happens to one bridge. Time passes for all of them. -/
def Net.fate (net : Net τ) (b : Dev) : NetEvent → Option Event
  | .tick n => (net.ubrs b).map fun _ => .tick n
  | e => ((net.owner e).filter fun owned => owned.1 = b).map Prod.snd

/-- The bridges that an event happens to meet a condition. -/
structure Net.Each (C : Sys τ → Event → Prop) (net : Net τ) (e : NetEvent) : Prop where
  own : ∀ owned ∈ net.owner e, ∀ ubr ∈ net.ubrs owned.1, C (net.sys ubr) owned.2
  tick n : e = .tick n → ∀ b < net.nextDev, ∀ ubr ∈ net.ubrs b, C (net.sys ubr) (.tick n)

/-- Time passes by that much. -/
def NetEvent.ticks : NetEvent → Option Nat
  | .tick n => some n
  | _ => none

theorem ticks_some {e : NetEvent} {n : Nat} : e.ticks = some n ↔ e = .tick n := by
  cases e with
  | tick m => simp [NetEvent.ticks]
  | _ => simp [NetEvent.ticks]

instance (C : Sys τ → Event → Prop) [∀ s e, Decidable (C s e)] (net : Net τ) (e : NetEvent) :
    Decidable (net.Each C e) :=
  decidable_of_iff ((∀ owned ∈ net.owner e, ∀ ubr ∈ net.ubrs owned.1, C (net.sys ubr) owned.2) ∧
      ∀ n ∈ e.ticks, ∀ b < net.nextDev, ∀ ubr ∈ net.ubrs b, C (net.sys ubr) (.tick n))
    ⟨fun ⟨own, tick⟩ => ⟨own, fun n ticks => tick n (ticks_some.mpr ticks)⟩,
      fun each => ⟨each.own, fun n ticks => each.tick n (ticks_some.mp ticks)⟩⟩

/-- The step that the environment takes. -/
def Event.around : Event → Bool
  | .devChange .. => true
  | _ => false

/-- One bridge as a part of all bridges. -/
def asPart (b : Dev) : Part (Net τ) NetEvent Outcome (Sys τ) Event Outcome where
  present net := (net.ubrs b).isSome
  shows net s := ∃ ubr, net.ubrs b = some ubr ∧ Alike s (net.sys ubr)
  does t := (t.pre.fate b t.event).map fun e => (e, t.ret)
  own e := !e.around

/-- A condition on the events of a bridge that does not depend on other devices. -/
structure Local (C : Sys τ → Event → Prop) : Prop where
  alike : ∀ s t e, Alike s t → C t e → C s e
  portDel : ∀ s t dev, s.ubr = t.ubr → s.jiffies = t.jiffies → s.slotOf dev = t.slotOf dev → C t (.portDel dev) →
    C s (.portDel dev)
  slots : ∀ s e, C s e → s.AddsOntoIdle e
  devChange : ∀ s dev nd, C s (.devChange dev nd)

variable [Jiffies τ]

section Follow

variable {C : Sys τ → Event → Prop} {net net' : Net τ} {b m : Dev} {o : Outcome}

/-- How one bridge goes on while something happens in the network. -/
abbrev Follows (cfg : Config) (C : Sys τ → Event → Prop) (b : Dev) (net net' : Net τ) (deeds : List (Event × Outcome)) :
    Prop :=
  (asPart b).Follows (bridge τ cfg) C net net' deeds

theorem follows_still (ubrs : net'.ubrs b = net.ubrs b) (clock : net'.jiffies = net.jiffies)
    (devs : ∀ dev, ∃ p q, net.devs dev = (net'.devs dev).recount p q) : Follows cfg C b net net' [] := by
  refine .still fun s shown => ?_
  obtain ⟨ubr, here, same, now, alike⟩ := shown
  refine ⟨ubr, ubrs.trans here, same, now.trans clock.symm, fun dev => ?_⟩
  obtain ⟨p, q, before⟩ := alike dev
  obtain ⟨p', q', after⟩ := devs dev
  exact ⟨p, q, before.trans (congrArg (fun nd => nd.recount p q) after)⟩

theorem follows_same (ubrs : net'.ubrs b = net.ubrs b) (clock : net'.jiffies = net.jiffies)
    (devs : net'.devs = net.devs) : Follows cfg C b net net' [] :=
  follows_still ubrs clock fun dev => ⟨_, _, by rw [devs]; rfl⟩

theorem follows_change (fine : Local C) (ok : Bookkept net) (ubrs : net'.ubrs b = net.ubrs b)
    (clock : net'.jiffies = net.jiffies) {dev : Dev} (around : ∀ d, d ≠ dev → net'.devs d = net.devs d)
    (before : (net.devs dev).bridge ≠ some b) (after : (net'.devs dev).bridge ≠ some b) :
    Follows cfg C b net net' [] := by
  refine .step (e := .devChange dev (net'.devs dev)) fun s shown => ?_
  obtain ⟨ubr, here, alike⟩ := shown
  have self : s.ubr.dev = b := (congrArg Ubr.dev alike.ubr).trans (ok.self b ubr here)
  refine ⟨⟨?_, ?_⟩, fine.devChange _ _ _, _, _, rfl, ⟨ubr, ubrs.trans here, alike.ubr, ?_, ?_⟩, rfl⟩
  · cases slot : s.slotOf dev with
    | none => rfl
    | some k =>
        have handler := slotOf_some.mp ((alike.slotOf dev).symm.trans slot)
        rw [show ((net.sys ubr).ubr).dev = b from ok.self b ubr here] at handler
        exact absurd (NetDev.bridge_some.mpr ⟨k, handler⟩) before
  · unfold NetDev.onBridge
    split
    · rename_i m k handler
      rw [self]
      refine decide_eq_false fun same => ?_
      subst same
      exact after (NetDev.bridge_some.mpr ⟨k, handler⟩)
    · rfl
  · exact alike.clock.trans clock.symm
  · intro d
    by_cases changed : d = dev
    · refine ⟨(net'.devs dev).promiscuity, (net'.devs dev).allmulti, ?_⟩
      rw [changed]
      exact Function.update_self _ _ _
    · obtain ⟨p, q, same⟩ := alike.devs d
      refine ⟨p, q, ?_⟩
      have kept : (s.setDev dev (net'.devs dev)).devs d = s.devs d := Function.update_of_ne changed _ _
      rw [kept, same]
      exact congrArg (fun nd => nd.recount p q) (around d changed).symm

theorem follows_own (fine : Local C) {ubr : Ubr τ} {s' : Sys τ} {e : Event} (here : net.ubrs b = some ubr)
    (enabled : (net.sys ubr).Enabled e) (guard : C (net.sys ubr) e) (ran : (net.sys ubr).exec cfg e = .ok (s', o))
    (own : e.around = false) (ubrs : net'.ubrs b = some s'.ubr) (clock : net'.jiffies = s'.jiffies)
    (devs : net'.devs = s'.devs) : Follows cfg C b net net' [(e, o)] := by
  refine .step (e := e) fun s shown => ?_
  obtain ⟨u, found, alike⟩ := shown
  cases here.symm.trans found
  obtain ⟨t, ran', alike'⟩ := alike.exec ran
  refine ⟨alike.enabled enabled, fine.alike _ _ _ alike guard, t, o, ran', ⟨s'.ubr, ubrs, alike'.ubr, ?_, ?_⟩, ?_⟩
  · exact alike'.clock.trans clock.symm
  · intro dev
    rw [Net.sys, devs]
    exact alike'.devs dev
  · simp [asPart, own]

/-- The events that `Net.onBridge` is used for. -/
def Event.happens : Event → Bool
  | .tick .. | .devChange .. => false
  | _ => true

theorem onBridge_ok {e : Event} (happens : e.happens = true) (done : net.onBridge cfg m e = .ok (net', o)) :
    ∃ ubr s', net.ubrs m = some ubr ∧ (net.sys ubr).exec cfg e = .ok (s', o) ∧ net' = net.withSys m s' ∧
      s'.jiffies = net.jiffies := by
  unfold Net.onBridge at done
  split at done
  · cases done
  · rename_i ubr here
    obtain ⟨⟨s', _⟩, ran, done⟩ := except_bind_eq_ok done
    cases done
    refine ⟨ubr, s', here, ran, rfl, ?_⟩
    cases exec_around ran with
    | still _ clock | device _ clock => exact clock
    | ticked => cases happens

theorem follows_onBridge (fine : Local C) {e : Event} (happens : e.happens = true)
    (done : net.onBridge cfg b e = .ok (net', o))
    (enabled : ∀ ubr, net.ubrs b = some ubr → (net.sys ubr).Enabled e)
    (guard : ∀ ubr ∈ net.ubrs b, C (net.sys ubr) e) : Follows cfg C b net net' [(e, o)] := by
  obtain ⟨ubr, s', here, ran, rfl, clock⟩ := onBridge_ok happens done
  refine follows_own fine here (enabled ubr here) (guard ubr here) ran ?_ (Function.update_self _ _ _) clock.symm rfl
  cases e with
  | devChange => cases happens
  | _ => rfl

theorem follows_other (fine : Local C) (ok : Bookkept net) (other : m ≠ b) {e : Event} (happens : e.happens = true)
    (done : net.onBridge cfg m e = .ok (net', o)) (enabled : ∀ ubr, net.ubrs m = some ubr → (net.sys ubr).Enabled e) :
    Follows cfg C b net net' [] := by
  obtain ⟨ubr, s', here, ran, rfl, clock⟩ := onBridge_ok happens done
  have ubrs : (net.withSys m s').ubrs b = net.ubrs b := Function.update_of_ne other.symm _ _
  cases exec_around ran with
  | still devs _ _ => exact follows_same ubrs rfl devs
  | ticked => cases happens
  | @device _ dev onDevice _ =>
      cases e with
      | devChange => cases happens
      | portDel d =>
          cases onDevice
          obtain ⟨⟨u, nd⟩, deleted, ran⟩ := except_bind_eq_ok ran
          cases ran
          obtain ⟨_, k, handler, _, _, _, gone⟩ := ubrPortDel_ok deleted
          obtain ⟨slot, slave⟩ := Option.isSome_iff_exists.mp (enabled ubr here)
          have mine := slotOf_some.mp slave
          rw [show ((net.sys ubr).ubr).dev = m from ok.self m ubr here] at mine
          refine follows_change fine ok ubrs rfl (fun d apart => Function.update_of_ne apart _ _) ?_ ?_
          · intro slave
            obtain ⟨j, theirs⟩ := NetDev.bridge_some.mp slave
            cases mine.symm.trans theirs
            exact other rfl
          · intro slave
            obtain ⟨j, theirs⟩ := NetDev.bridge_some.mp slave
            have released : (net.withSys m ({ net.sys ubr with ubr := u }.setDev dev nd)).devs dev = nd :=
              Function.update_self _ _ _
            rw [released, gone] at theirs
            cases theirs
      | portAdd d env =>
          cases onDevice
          obtain ⟨⟨u, nd, ret⟩, added, ran⟩ := except_bind_eq_ok ran
          cases ran
          have written :
              (net.withSys m ({ net.sys ubr with ubr := u }.setDev dev nd)).devs =
                Function.update net.devs dev nd := rfl
          have unchanged (same : nd = net.devs dev) : Function.update net.devs dev nd = net.devs := by
            rw [same, Function.update_eq_self]
          rcases ubrPortAdd_cases added with ⟨_, same, _⟩ | ⟨k, r, v, allowed, _, _, _, _, enslaved, _⟩ |
            ⟨k, r, v, _, _, _, _, _, _, _, _, same, _⟩
          · exact follows_same ubrs rfl (written.trans (unchanged same))
          · obtain ⟨free, made⟩ := ubrPortEnslave_ok enslaved
            refine follows_change fine ok ubrs rfl (fun d apart => Function.update_of_ne apart _ _) ?_ ?_
            · intro slave
              obtain ⟨j, theirs⟩ := NetDev.bridge_some.mp slave
              cases free.symm.trans theirs
            · intro slave
              obtain ⟨j, theirs⟩ := NetDev.bridge_some.mp slave
              rw [written, Function.update_self, made] at theirs
              cases theirs
              exact other (ok.self m ubr here).symm
          · exact follows_same ubrs rfl (written.trans (unchanged same))
      | _ => exact onDevice.elim

omit [Jiffies τ] in
theorem linked_of_bridge (ok : Bookkept net) {dev : Dev} (slave : (net.devs dev).bridge = some m) :
    ∃ k, Linked net dev m k := by
  obtain ⟨k, handler⟩ := NetDev.bridge_some.mp slave
  rcases ok.device dev with loose | ⟨b, j, linked⟩
  · have outside := loose.outside
    simp [NetDev.outside, handler] at outside
  · cases linked.handler.symm.trans handler
    exact ⟨k, linked⟩

omit [Jiffies τ] in
theorem Linked.bridge {dev : Dev} {k : Pidx} (linked : Linked net dev m k) : (net.devs dev).bridge = some m :=
  NetDev.bridge_some.mpr ⟨k, linked.handler⟩

/-- The bridge's part in the unregistration of a device. -/
def Net.released (net : Net τ) (b dev : Dev) (o : Outcome) : List (Event × Outcome) :=
  if (net.devs dev).bridge = some b then [(.portDel dev, o)] else []

theorem follows_deviceEvent (fine : Local C) (ok : Bookkept net) {dev : Dev}
    (done : ubrDeviceEvent cfg net dev = .ok (net', o))
    (guard : (net.devs dev).bridge = some b → ∀ ubr ∈ net.ubrs b, C (net.sys ubr) (.portDel dev)) :
    Follows cfg C b net net' (net.released b dev o) := by
  unfold ubrDeviceEvent at done
  unfold Net.released
  rcases ok.device dev with loose | ⟨m, k, linked⟩
  · have outside := loose.outside
    simp only [NetDev.outside, Bool.and_eq_true, Bool.not_eq_true'] at outside
    rw [outside.1] at done
    cases done
    have apart : (net.devs dev).bridge ≠ some b := by
      intro slave
      obtain ⟨k, linked⟩ := linked_of_bridge ok slave
      exact linked.not_unlinked loose
    rw [if_neg apart]
    exact follows_same rfl rfl rfl
  · rw [linked.flag, linked.handler] at done
    have slave : ∀ ubr, net.ubrs m = some ubr → (net.sys ubr).Enabled (.portDel dev) := by
      intro ubr here
      exact Option.isSome_iff_exists.mpr ⟨k, slotOf_some.mpr ((ok.self m ubr here).symm ▸ linked.handler)⟩
    rw [linked.bridge]
    by_cases mine : m = b
    · subst mine
      rw [if_pos rfl]
      exact follows_onBridge fine rfl done slave (guard linked.bridge)
    · rw [if_neg (fun same => mine (Option.some.inj same))]
      exact follows_other fine ok mine rfl done slave

theorem follows_unregister (fine : Local C) (ok : Bookkept net) {dev : Dev}
    (done : net.unregister cfg dev = .ok (net', o))
    (guard : (net.devs dev).bridge = some b → ∀ ubr ∈ net.ubrs b, C (net.sys ubr) (.portDel dev)) :
    Follows cfg C b net net' (net.released b dev o) := by
  obtain ⟨⟨mid, _⟩, noticed, done⟩ := except_bind_eq_ok done
  cases done
  have delisted : Follows cfg C b mid (mid.delist dev) [] := follows_same rfl rfl rfl
  exact (follows_deviceEvent fine ok noticed guard).trans delisted

/-- Which bridges there are stays as it is, and no identity is used. -/
structure SameBridges (net net' : Net τ) : Prop where
  next : net'.nextDev = net.nextDev
  gone : ∀ b, net.ubrs b = none → net'.ubrs b = none

theorem sameBridges_onBridge {e : Event} (happens : e.happens = true) (done : net.onBridge cfg m e = .ok (net', o)) :
    SameBridges net net' := by
  obtain ⟨ubr, s', here, _, rfl, _⟩ := onBridge_ok happens done
  refine ⟨rfl, fun b gone => (Function.update_of_ne ?_ _ _).trans gone⟩
  intro same
  rw [same, here] at gone
  cases gone

theorem sameBridges_unregister {dev : Dev} (done : net.unregister cfg dev = .ok (net', o)) : SameBridges net net' := by
  obtain ⟨⟨mid, _⟩, noticed, done⟩ := except_bind_eq_ok done
  cases done
  unfold ubrDeviceEvent at noticed
  split at noticed
  · cases noticed
    exact ⟨rfl, fun _ gone => gone⟩
  · split at noticed
    · obtain ⟨next, gone⟩ := sameBridges_onBridge rfl noticed
      exact ⟨next, gone⟩
    · cases noticed

omit [Jiffies τ] in
theorem dellink_gone (linked : ubrDevDellink net m = .ok net') :
    net'.ubrs = Function.update net.ubrs m none ∧ net'.nextDev = net.nextDev := by
  unfold ubrDevDellink at linked
  split at linked
  · cases linked
  · obtain ⟨_, _, linked⟩ := except_bind_eq_ok linked
    cases linked
    exact ⟨rfl, rfl⟩

theorem follows_dellinkPorts (cfg : Config) (b : Dev) (fine : Local C) (other : m ≠ b) {ports : List Pidx}
    {s s' : Sys τ}
    (ok : Bookkept (net.withSys m s)) (done : dellinkPorts s ports = .ok s') :
    Follows cfg C b (net.withSys m s) (net.withSys m s') [] ∧
      ∀ d, s'.devs d = s.devs d ∨ ((s.devs d).bridge = some m ∧ s'.devs d = (s.devs d).released) := by
  induction ports generalizing s with
  | nil =>
      cases done
      exact ⟨follows_same rfl rfl rfl, fun d => .inl rfl⟩
  | cons pidx rest ih =>
      simp only [dellinkPorts] at done
      split at done
      · exact ih ok done
      · rename_i chosen
        obtain ⟨busy, notHost⟩ := not_or.mp chosen
        have here : (net.withSys m s).ubrs m = some s.ubr := Function.update_self _ _ _
        obtain ⟨dev, linked⟩ := ok.owner m s.ubr pidx here (not_not.mp busy) notHost
        simp only [(linked.plugged here).2] at done
        obtain ⟨⟨ubr', nd⟩, deleted, done⟩ := except_bind_eq_ok done
        have again : (net.withSys m s).relink m dev ubr' nd = net.withSys m ({ s with ubr := ubr' }.setDev dev nd) := by
          simp [Net.relink, Net.withSys, Sys.setDev]
        have next := ok.deleted here linked deleted
        rw [again] at next
        obtain ⟨follows, kept⟩ := ih next done
        have gone : nd = (s.devs dev).released := ubrPortDel_released deleted
        have elsewhere {u : Ubr τ} :
            (net.withSys m ({ s with ubr := u }.setDev dev nd)).ubrs b = (net.withSys m s).ubrs b :=
          (Function.update_of_ne other.symm _ _).trans (Function.update_of_ne other.symm _ _).symm
        have first : Follows cfg C b (net.withSys m s) (net.withSys m ({ s with ubr := ubr' }.setDev dev nd)) [] := by
          refine follows_change fine ok elsewhere rfl (fun d apart => Function.update_of_ne apart _ _) ?_ ?_
          · rw [linked.bridge]
            exact fun same => other (Option.some.inj same)
          · have released : (net.withSys m ({ s with ubr := ubr' }.setDev dev nd)).devs dev = (s.devs dev).released :=
              (Function.update_self _ _ _).trans gone
            rw [released]
            intro linked
            cases linked
        refine ⟨first.trans follows, fun d => ?_⟩
        by_cases same : d = dev
        · subst same
          have slave : (s.devs d).bridge = some m := linked.bridge
          have released : ({ s with ubr := ubr' }.setDev d nd).devs d = (s.devs d).released :=
            (Function.update_self _ _ _).trans gone
          rcases kept d with untouched | ⟨again, _⟩
          · exact .inr ⟨slave, untouched.trans released⟩
          · rw [released] at again
            cases again
        · have untouched : ({ s with ubr := ubr' }.setDev dev nd).devs d = s.devs d := Function.update_of_ne same _ _
          rw [← untouched]
          exact kept d

/-- A bridge has released its slaves. What it is a slave of stays. -/
theorem follows_ubrDevDellink (cfg : Config) (b : Dev) (fine : Local C) (ok : Bookkept net) (other : m ≠ b)
    (done : ubrDevDellink net m = .ok net') :
    Follows cfg C b net net' [] ∧ net'.ubrs b = net.ubrs b ∧ net'.jiffies = net.jiffies ∧
      ((net.devs m).bridge = some b → net'.devs m = net.devs m) ∧
      ((net'.devs m).bridge = some b → (net.devs m).bridge = some b) := by
  unfold ubrDevDellink at done
  split at done
  · cases done
  · rename_i ubr here
    obtain ⟨s, emptied, done⟩ := except_bind_eq_ok done
    have whole : net.withSys m (net.sys ubr) = net := (Bookkept.withSys_still rfl).trans (setUbr_same here)
    obtain ⟨loop, devs⟩ := follows_dellinkPorts cfg b fine other (whole.symm ▸ ok) emptied
    rw [whole] at loop
    cases done
    have elsewhere : Function.update net.ubrs m none b = net.ubrs b := Function.update_of_ne other.symm _ _
    have there : (net.withSys m s).ubrs b = net.ubrs b := Function.update_of_ne other.symm _ _
    have away :
        Follows cfg C b (net.withSys m s) { net with devs := s.devs, ubrs := Function.update net.ubrs m none } [] :=
      follows_same (elsewhere.trans there.symm) rfl rfl
    refine ⟨loop.trans away, elsewhere, rfl, fun slave => ?_, fun slave => ?_⟩
    · rcases devs m with untouched | ⟨mine, _⟩
      · exact untouched
      · cases slave.symm.trans mine
        exact absurd rfl other
    · change (s.devs m).bridge = some b at slave
      rcases devs m with untouched | ⟨_, released⟩
      · rw [untouched] at slave
        exact slave
      · rw [released] at slave
        cases slave

/-- A bridge goes away, which may itself be a slave of another one. -/
theorem follows_dellink (fine : Local C) (ok : Bookkept net) (other : m ≠ b)
    (done : net.exec cfg (.dellink m) = .ok (net', o))
    (guard : (net.devs m).bridge = some b → ∀ ubr ∈ net.ubrs b, C (net.sys ubr) (.portDel m)) :
    Follows cfg C b net net' (net.released b m o) := by
  obtain ⟨mid, linked, done⟩ := except_bind_eq_ok done
  have kept := (ok.dellinked linked).1
  obtain ⟨first, ubrs, clock, stays, came⟩ := follows_ubrDevDellink cfg b fine ok other linked
  have told : mid.released b m o = net.released b m o := by
    unfold Net.released
    refine if_congr ⟨came, fun slave => ?_⟩ rfl rfl
    rw [stays slave, slave]
  have guard' : (mid.devs m).bridge = some b → ∀ ubr ∈ mid.ubrs b, C (mid.sys ubr) (.portDel m) := by
    intro slave ubr alive
    have before := came slave
    refine fine.portDel _ (net.sys ubr) m rfl clock ?_ (guard before ubr (ubrs.symm.trans alive))
    have untouched : (mid.sys ubr).devs m = (net.sys ubr).devs m := stays before
    unfold Sys.slotOf
    rw [untouched]
    rfl
  have rests := first.trans (follows_unregister fine kept done guard')
  rwa [told, List.append_nil] at rests

theorem command_configures {s s' : Sys τ} {e : Event} (command : e.command = true) (done : s.exec cfg e = .ok (s', o)) :
    s' = { s with ubr := s'.ubr } ∧ o = { ret := o.ret } := by
  cases e with
  | vlanAdd | vlanDel | vlanAttach | vlanDetach | portSet =>
      obtain ⟨_, _, rfl, same⟩ := configured_ok done
      exact ⟨rfl, same⟩
  | _ => cases command

omit [Jiffies τ] in
theorem command_free {s : Sys τ} {e : Event} (command : e.command = true) : s.Enabled e ∧ e.around = false := by
  cases e with
  | vlanAdd | vlanDel | vlanAttach | vlanDetach | portSet => exact ⟨trivial, rfl⟩
  | _ => cases command

omit [Jiffies τ] in
theorem held_around (net : Net τ) (leak : Option Dev) :
    (net.held leak).devs = net.devs ∧ (net.held leak).jiffies = net.jiffies := by
  cases leak with
  | none => exact ⟨rfl, rfl⟩
  | some dev => exact ⟨rfl, rfl⟩

section Fate

omit [Jiffies τ]

variable {e : NetEvent} {e' : Event}

theorem fate_eq (notTick : ∀ n, e ≠ .tick n) :
    net.fate b e = ((net.owner e).filter fun owned => owned.1 = b).map Prod.snd := by
  cases e with
  | tick n => exact absurd rfl (notTick n)
  | _ => rfl

theorem fate_of_owner (notTick : ∀ n, e ≠ .tick n) (owner : net.owner e = some (m, e')) :
    net.fate b e = if m = b then some e' else none := by
  rw [fate_eq notTick, owner]
  by_cases mine : m = b
  · simp [mine]
  · simp [mine]

theorem fate_of_nobody (notTick : ∀ n, e ≠ .tick n) (owner : net.owner e = none) : net.fate b e = none := by
  rw [fate_eq notTick, owner]
  rfl

end Fate

/-- What one bridge does in an event of the network. -/
def Net.deeds (net : Net τ) (b : Dev) (e : NetEvent) (o : Outcome) : List (Event × Outcome) :=
  ((net.fate b e).map fun e' => (e', o)).toList

theorem follows_request (fine : Local C) {admin : Bool} {req : Request} {ret : Ret}
    (done : genlRcvMsg cfg net admin req = .ok (net', ret)) (guard : net.Each C (.request admin req)) :
    Follows cfg C b net net' (net.deeds b (.request admin req) { ret }) := by
  have idle (owner : net.owner (.request admin req) = none) (same : net' = net.held (net.leak req)) :
      Follows cfg C b net net' (net.deeds b (.request admin req) { ret }) := by
    unfold Net.deeds
    rw [fate_of_nobody (e := .request admin req) nofun owner, same]
    obtain ⟨devs, clock⟩ := held_around net (net.leak req)
    exact follows_same (congrFun (held_ubrs net _) b) clock devs
  cases named : net.bridgeOf req.info with
  | none =>
      have owner : net.owner (.request admin req) = none := by simp [Net.owner, named]
      rcases genlRcvMsg_ok done with ⟨same, _⟩ | ⟨_, _, _, _, other, _⟩
      · exact idle owner same
      · cases named.symm.trans other
  | some found =>
      obtain ⟨m, ubr⟩ := found
      cases order : net.order req with
      | none =>
          have owner : net.owner (.request admin req) = none := by simp [Net.owner, named, order]
          rcases genlRcvMsg_ok done with ⟨same, _⟩ | ⟨_, _, _, _, _, other, _⟩
          · exact idle owner same
          · cases order.symm.trans other
      | some e =>
          have owner : net.owner (.request admin req) = some (m, e) := by simp [Net.owner, named, order]
          have here := bridgeOf_eq named
          have command := order_command order
          rw [genlRcvMsg_order named order] at done
          cases ran : (net.sys ubr).exec cfg e with
          | error f =>
              rw [ran] at done
              cases done
          | ok out =>
              obtain ⟨s', o'⟩ := out
              rw [ran] at done
              cases done
              obtain ⟨same, ret⟩ := command_configures command ran
              obtain ⟨devs, clock⟩ := held_around net (net.leak req)
              unfold Net.deeds
              rw [fate_of_owner (e := .request admin req) nofun owner, ← ret]
              by_cases mine : m = b
              · subst mine
                rw [if_pos rfl]
                obtain ⟨enabled, own⟩ := command_free (s := net.sys ubr) command
                refine follows_own fine here enabled (guard.own _ owner ubr here) ran own
                  (Function.update_self _ _ _) ?_ ?_
                · rw [same]
                  exact clock
                · rw [same]
                  exact devs
              · rw [if_neg mine]
                have elsewhere : ((net.held (net.leak req)).setUbr m s'.ubr).ubrs b = net.ubrs b :=
                  (Function.update_of_ne (Ne.symm mine) _ _).trans (congrFun (held_ubrs net _) b)
                exact follows_same elsewhere clock devs

theorem follows_owner (fine : Local C) (ok : Bookkept net) {e : NetEvent} {e' : Event} (happens : e'.happens = true)
    (owner : net.owner e = some (m, e')) (done : net.onBridge cfg m e' = .ok (net', o))
    (enabled : ∀ ubr, net.ubrs m = some ubr → (net.sys ubr).Enabled e') (guard : net.Each C e) :
    Follows cfg C b net net' (net.deeds b e o) := by
  have notTick (n : Nat) : e ≠ .tick n := by
    intro ticks
    subst ticks
    cases owner
  unfold Net.deeds
  rw [fate_of_owner notTick owner]
  by_cases mine : m = b
  · subst mine
    rw [if_pos rfl]
    exact follows_onBridge fine happens done enabled (guard.own _ owner)
  · rw [if_neg mine]
    exact follows_other fine ok mine happens done enabled

omit [Jiffies τ] in
theorem deeds_released (dev : Dev) (o : Outcome) {e : NetEvent} (notTick : ∀ n, e ≠ .tick n)
    (owner : net.owner e = (net.devs dev).bridge.map fun bridge => (bridge, .portDel dev)) :
    net.deeds b e o = net.released b dev o := by
  unfold Net.deeds Net.released
  cases slave : (net.devs dev).bridge with
  | none =>
      rw [slave] at owner
      rw [fate_of_nobody notTick owner, if_neg nofun]
      rfl
  | some m =>
      rw [slave] at owner
      rw [fate_of_owner notTick owner]
      by_cases mine : m = b
      · rw [if_pos mine, if_pos (congrArg some mine)]
        rfl
      · rw [if_neg mine, if_neg fun same => mine (Option.some.inj same)]
        rfl

theorem follows_outside (fine : Local C) (ok : Bookkept net) (dev : Dev) (ubrs : net'.ubrs b = net.ubrs b)
    (clock : net'.jiffies = net.jiffies) (around : ∀ d, d ≠ dev → net'.devs d = net.devs d)
    (before : (net.devs dev).outside = true) (after : (net'.devs dev).outside = true) :
    Follows cfg C b net net' [] := by
  have loose {nd : NetDev} (outside : nd.outside = true) : nd.bridge ≠ some b := by
    intro slave
    obtain ⟨k, handler⟩ := NetDev.bridge_some.mp slave
    simp [NetDev.outside, handler] at outside
  exact follows_change fine ok ubrs clock around (loose before) (loose after)

/-- Whatever happens in the network, a bridge that stays goes on as its own machine could. -/
theorem follows_step (fine : Local C) (ok : Bookkept net) {e : NetEvent} (enabled : net.Enabled e)
    (guard : net.Each C e)
    (done : net.exec cfg e = .ok (net', o)) (alive : (net.ubrs b).isSome) (stays : (net'.ubrs b).isSome) :
    Follows cfg C b net net' (net.deeds b e o) := by
  have below : b < net.nextDev := ok.bridges b alive
  have fresh := ok.fresh_unlinked.outside
  cases e with
  | newlink ifindex devAddr env =>
      obtain ⟨made, _, done⟩ := except_bind_eq_ok done
      cases made with
      | error e =>
          cases done
          exact follows_same rfl rfl rfl
      | ok ubr =>
          cases done
          have elsewhere : b ≠ net.nextDev := Nat.ne_of_lt below
          refine follows_outside fine ok net.nextDev (Function.update_of_ne elsewhere _ _) rfl ?_ fresh ?_
          · exact fun d other => Function.update_of_ne other _ _
          · have here : ((net.enlist ifindex { devAddr }).setUbr net.nextDev ubr).devs net.nextDev = { devAddr } :=
              Function.update_self _ _ _
            rw [here]
            rfl
  | appear ifindex nd =>
      cases done
      refine follows_outside fine ok net.nextDev rfl rfl (fun d other => Function.update_of_ne other _ _) fresh ?_
      have here : (net.enlist ifindex nd).devs net.nextDev = nd := Function.update_self _ _ _
      rw [here]
      exact enabled.2.1
  | addSlave bridge dev env => exact follows_owner fine ok rfl rfl done (fun _ _ => trivial) guard
  | delSlave bridge dev =>
      refine follows_owner fine ok rfl rfl done (fun ubr here => ?_) guard
      obtain ⟨alive, master⟩ := enabled
      rcases ok.device dev with loose | ⟨m, k, linked⟩
      · have free := (foreignMaster_iff.mp loose.master bridge master).2
        rw [free] at alive
        cases alive
      · cases linked.master.symm.trans master
        exact Option.isSome_iff_exists.mpr ⟨k, slotOf_some.mpr ((ok.self bridge ubr here).symm ▸ linked.handler)⟩
  | unregister dev =>
      rw [deeds_released (e := .unregister dev) dev o nofun rfl]
      refine follows_unregister fine ok done fun slave ubr here => ?_
      exact guard.own (b, .portDel dev) (by simp [Net.owner, slave]) ubr here
  | dellink bridge =>
      rw [deeds_released (e := .dellink bridge) bridge o nofun rfl]
      have other : bridge ≠ b := by
        intro same
        subst same
        obtain ⟨mid, linked, left⟩ := except_bind_eq_ok done
        have gone : mid.ubrs bridge = none := by rw [(dellink_gone linked).1, Function.update_self]
        rw [(sameBridges_unregister left).gone bridge gone] at stays
        cases stays
      refine follows_dellink fine ok other done fun slave ubr here => ?_
      exact guard.own (b, .portDel bridge) (by simp [Net.owner, slave]) ubr here
  | request admin req =>
      obtain ⟨⟨_, ret⟩, handled, done⟩ := except_bind_eq_ok done
      cases done
      exact follows_request fine handled guard
  | rx dev skb env =>
      rcases ok.device dev with loose | ⟨m, k, linked⟩
      · cases loose.outside.symm.trans enabled
      · simp only [Net.exec, linked.handler] at done
        have owner : net.owner (.rx dev skb env) = some (m, .rx dev skb env) := by simp [Net.owner, linked.bridge]
        refine follows_owner fine ok rfl owner done (fun ubr here => ?_) guard
        exact Option.isSome_iff_exists.mpr ⟨k, slotOf_some.mpr ((ok.self m ubr here).symm ▸ linked.handler)⟩
  | xmit bridge skb env => exact follows_owner fine ok rfl rfl done (fun _ _ => trivial) guard
  | age bridge walk => exact follows_owner fine ok rfl rfl done (fun _ _ => trivial) guard
  | portCleanup bridge slot =>
      refine follows_owner fine ok rfl rfl done (fun ubr here => ?_) guard
      obtain ⟨u, found, queued⟩ := enabled
      cases here.symm.trans found
      exact queued
  | vlanFree bridge vlan =>
      refine follows_owner fine ok rfl rfl done (fun ubr here => ?_) guard
      obtain ⟨u, found, queued⟩ := enabled
      cases here.symm.trans found
      exact queued
  | tick n =>
      cases done
      obtain ⟨ubr, here⟩ := Option.isSome_iff_exists.mp alive
      have told : net.deeds b (.tick n) {} = [(.tick n, {})] := by simp [Net.deeds, Net.fate, here]
      rw [told]
      have ran : (net.sys ubr).exec cfg (.tick n) = .ok (⟨ubr, net.devs, Jiffies.later net.jiffies n⟩, {}) := rfl
      exact follows_own fine here trivial (guard.tick n rfl b below ubr here) ran rfl here rfl rfl
  | devChange dev nd =>
      cases done
      obtain ⟨_, before, _, outside, _⟩ := enabled
      refine follows_outside fine ok dev rfl rfl (fun d other => Function.update_of_ne other _ _) before ?_
      have here : (net.setDev dev nd).devs dev = nd := Function.update_self _ _ _
      rw [here]
      exact outside
  | counted dev promisc allmulti =>
      cases done
      refine follows_still rfl rfl fun d => ?_
      by_cases same : d = dev
      · refine ⟨(net.devs dev).promiscuity, (net.devs dev).allmulti, ?_⟩
        have here : (net.counted dev promisc allmulti).devs d = { net.devs dev with
            promiscuity := (net.devs dev).promiscuity + promisc
            allmulti := (net.devs dev).allmulti + allmulti } := same ▸ Function.update_self _ _ _
        rw [here, same]
        rfl
      · refine ⟨(net.devs d).promiscuity, (net.devs d).allmulti, ?_⟩
        have here : (net.counted dev promisc allmulti).devs d = net.devs d := Function.update_of_ne same _ _
        rw [here]
        rfl

/-- Bridges appear by `ubr_dev_newlink` only, under an identity that was never used. -/
theorem newlink_or_same {e : NetEvent} (done : net.exec cfg e = .ok (net', o)) :
    SameBridges net net' ∨
    (net'.nextDev = net.nextDev + 1 ∧ net.owner e = none ∧ ∀ b, net.ubrs b = none → ∀ ubr, net'.ubrs b = some ubr →
      b = net.nextDev ∧ ∃ devAddr env, ubrDevNewlink cfg b devAddr env = .ok (.ok ubr)) := by
  cases e with
  | newlink ifindex devAddr env =>
      obtain ⟨made, linked, done⟩ := except_bind_eq_ok done
      cases made with
      | error e =>
          cases done
          exact .inr ⟨rfl, rfl, fun b gone ubr here => by cases gone.symm.trans here⟩
      | ok fresh =>
          cases done
          refine .inr ⟨rfl, rfl, fun b gone ubr here => ?_⟩
          by_cases new : b = net.nextDev
          · subst new
            have made : ((net.enlist ifindex { devAddr }).setUbr net.nextDev fresh).ubrs net.nextDev = some fresh :=
              Function.update_self _ _ _
            cases made.symm.trans here
            exact ⟨rfl, devAddr, env, linked⟩
          · have old : net.ubrs b = some ubr := (Function.update_of_ne new _ _).symm.trans here
            cases gone.symm.trans old
  | appear ifindex nd =>
      cases done
      exact .inr ⟨rfl, rfl, fun b gone ubr here => by cases gone.symm.trans here⟩
  | addSlave | delSlave | xmit | age | portCleanup | vlanFree => exact .inl (sameBridges_onBridge rfl done)
  | unregister dev => exact .inl (sameBridges_unregister done)
  | dellink bridge =>
      obtain ⟨mid, linked, done⟩ := except_bind_eq_ok done
      obtain ⟨ubrs, next⟩ := dellink_gone linked
      obtain ⟨next', gone⟩ := sameBridges_unregister done
      refine .inl ⟨next'.trans next, fun b none => gone b ?_⟩
      rw [ubrs]
      by_cases same : b = bridge
      · rw [same, Function.update_self]
      · rw [Function.update_of_ne same, none]
  | request admin req =>
      obtain ⟨⟨_, ret⟩, handled, done⟩ := except_bind_eq_ok done
      cases done
      have next (leak : Option Dev) : (net.held leak).nextDev = net.nextDev := by cases leak <;> rfl
      rcases genlRcvMsg_ok handled with ⟨rfl, _⟩ | ⟨dev, ubr, _, s', named, _, _, rfl⟩
      · exact .inl ⟨next _, fun b gone => (congrFun (held_ubrs net _) b).trans gone⟩
      · refine .inl ⟨next _, fun b gone => ?_⟩
        refine (Function.update_of_ne ?_ _ _).trans ((congrFun (held_ubrs net _) b).trans gone)
        intro same
        rw [same, bridgeOf_eq named] at gone
        cases gone
  | rx dev skb env =>
      simp only [Net.exec] at done
      split at done
      · exact .inl (sameBridges_onBridge rfl done)
      · cases done
        exact .inl ⟨rfl, fun _ gone => gone⟩
  | tick | devChange | counted =>
      cases done
      exact .inl ⟨rfl, fun _ gone => gone⟩

omit [Jiffies τ] in
theorem fate_present (ok : Bookkept net) {e : NetEvent} {e' : Event} (enabled : net.Enabled e)
    (fate : net.fate b e = some e') : (net.ubrs b).isSome := by
  have linked {dev : Dev} (slave : (net.devs dev).bridge = some b) : (net.ubrs b).isSome := by
    obtain ⟨k, linked⟩ := linked_of_bridge ok slave
    obtain ⟨ubr, here, _⟩ := linked.slot
    exact Option.isSome_iff_exists.mpr ⟨ubr, here⟩
  cases e with
  | tick n =>
      obtain ⟨ubr, here, _⟩ := Option.map_eq_some_iff.mp fate
      exact Option.isSome_iff_exists.mpr ⟨ubr, here⟩
  | newlink | appear | devChange | counted => cases fate
  | addSlave | delSlave | xmit | age | portCleanup | vlanFree =>
      obtain ⟨owned, kept, _⟩ := Option.map_eq_some_iff.mp fate
      obtain ⟨same, mine⟩ := Option.filter_eq_some_iff.mp kept
      cases same
      have mine := of_decide_eq_true mine
      subst mine
      first
        | exact enabled
        | exact enabled.1
        | exact Option.isSome_iff_exists.mpr (enabled.imp fun _ found => found.1)
  | unregister | dellink | rx =>
      obtain ⟨owned, kept, _⟩ := Option.map_eq_some_iff.mp fate
      obtain ⟨owner, mine⟩ := Option.filter_eq_some_iff.mp kept
      obtain ⟨bridge, slave, same⟩ := Option.map_eq_some_iff.mp owner
      cases same
      exact linked (slave.trans (congrArg some (of_decide_eq_true mine)))
  | request admin req =>
      obtain ⟨owned, kept, _⟩ := Option.map_eq_some_iff.mp fate
      obtain ⟨owner, mine⟩ := Option.filter_eq_some_iff.mp kept
      obtain ⟨⟨dev, ubr⟩, named, order⟩ := Option.bind_eq_some_iff.mp owner
      obtain ⟨_, _, same⟩ := Option.map_eq_some_iff.mp order
      cases same
      have mine := of_decide_eq_true mine
      subst mine
      exact Option.isSome_iff_exists.mpr ⟨ubr, bridgeOf_eq named⟩

omit [Jiffies τ] in
theorem cleansFirst_of_each (fine : Local C) {e : NetEvent} (guard : net.Each C e) : net.CleansFirst e := by
  cases e with
  | addSlave bridge dev env => exact fun ubr here => fine.slots _ _ (guard.own (bridge, .portAdd dev env) rfl ubr here)
  | _ => trivial

end Follow

section Runs

variable {C : Sys τ → Event → Prop} {tr : List (Transition (Net τ) NetEvent Outcome)} {net : Net τ} {b : Dev}

theorem bookkept_of_each (fine : Local C) (run : Run (bridges τ cfg) (Net.Each C) tr net) : Bookkept net :=
  (bookkept_of_run (run.mono fun _ _ => cleansFirst_of_each fine)).1

theorem fate_below (fine : Local C) (run : Run (bridges τ cfg) (Net.Each C) tr net) :
    ∀ t ∈ tr, ∀ b, (t.pre.fate b t.event).isSome → b < net.nextDev := by
  refine run.invariant (I := fun tr net => ∀ t ∈ tr, ∀ b, (t.pre.fate b t.event).isSome → b < net.nextDev) ?_ ?_
  · exact fun _ _ _ inside => absurd inside List.not_mem_nil
  · intro tr net e net' o run before enabled guard done t inside b happened
    have later : net.nextDev ≤ net'.nextDev := by
      rcases newlink_or_same done with ⟨next, _⟩ | ⟨next, _⟩
      · rw [next]
      · rw [next]
        exact Nat.le_succ _
    rcases List.mem_cons.mp inside with rfl | earlier
    · obtain ⟨e', fate⟩ := Option.isSome_iff_exists.mp happened
      have ok := bookkept_of_each fine run
      exact Nat.lt_of_lt_of_le (ok.bridges b (fate_present ok enabled fate)) later
    · exact Nat.lt_of_lt_of_le (before t earlier b happened) later

/-- Each bridge is a machine of its own among all bridges. -/
theorem separates (fine : Local C) (b : Dev) :
    (asPart b).Separates (bridges τ cfg) (Net.Each C) (bridge τ cfg) C where
  start net init := by
    have nobody : net.ubrs b = none := congrFun init.ubrs b
    simp [asPart, nobody]
  born t tr run absent here := by
    have ok := bookkept_of_each fine run
    obtain ⟨before, enabled, guard, done, _⟩ := run.uncons
    obtain ⟨ubr, here⟩ := Option.isSome_iff_exists.mp here
    have gone : t.pre.ubrs b = none := by simpa [asPart] using absent
    rcases newlink_or_same done with ⟨_, same⟩ | ⟨_, nobody, born⟩
    · cases (same b gone).symm.trans here
    · obtain ⟨rfl, devAddr, env, made⟩ := born b gone ubr here
      refine ⟨⟨t.post.sys ubr, ⟨⟨_, devAddr, env, made⟩, fun dev => ?_⟩, ubr, here, .refl _⟩, ?_⟩
      · cases slot : (t.post.sys ubr).slotOf dev with
        | none => rfl
        | some k =>
            have handler := slotOf_some.mp slot
            rw [show (t.post.sys ubr).ubr.dev = t.pre.nextDev from ok.self _ ubr here] at handler
            obtain ⟨j, linked⟩ := linked_of_bridge ok (NetDev.bridge_some.mpr ⟨k, handler⟩)
            have inUse := (linked.plugged here).1
            rw [ubrDevNewlink_made made, fresh_busy] at inUse
            exact absurd inUse linked.notHost
      · intro u inside
        have nothing : u.pre.fate t.pre.nextDev u.event = none := by
          rcases List.mem_cons.mp inside with rfl | earlier
          · cases event : u.event with
            | tick n => simp [Net.fate, gone]
            | _ => exact fate_of_nobody nofun (event ▸ nobody)
          · by_contra happened
            have below := fate_below fine before u earlier _ (Option.isSome_iff_ne_none.mpr happened)
            exact absurd below (Nat.lt_irrefl _)
        change (u.pre.fate t.pre.nextDev u.event).map _ = none
        rw [nothing]
        rfl
  goes t tr run alive stays := by
    obtain ⟨before, enabled, guard, done, _⟩ := run.uncons
    have follows := follows_step fine (bookkept_of_each fine before) enabled guard done alive stays
    exact follows

omit [Jiffies τ] in
theorem local_addsOntoIdle : Local (Sys.AddsOntoIdle : Sys τ → Event → Prop) where
  alike s t e alike idle := by
    cases e with
    | portAdd dev env =>
        intro k begun
        rw [alike.initSlot] at begun
        rw [alike.ubr]
        exact idle k begun
    | _ => trivial
  portDel _ _ _ _ _ _ _ := trivial
  slots _ _ idle := idle
  devChange _ _ _ := trivial

/-- What happens to a bridge among others, what it answers and which frames come out could
    all have been without the others: the rest of the kernel would have changed the devices. -/
theorem bridge_among_others (run : Run (bridges τ cfg) (Net.Each Sys.AddsOntoIdle) tr net) {ubr : Ubr τ}
    (here : net.ubrs b = some ubr) :
    ∃ tr' s, Run (bridge τ cfg) Sys.AddsOntoIdle tr' s ∧ Alike s (net.sys ubr) ∧
      (asPart b).story tr' = tr.filterMap (asPart b).does := by
  obtain ⟨tr', s, run', ⟨u, found, alike⟩, same⟩ :=
    (separates local_addsOntoIdle b).run run (Option.isSome_iff_exists.mpr ⟨ubr, here⟩)
  cases here.symm.trans found
  exact ⟨tr', s, run', alike, same⟩

end Runs

/-- Two bridges take turns with device 1, one is a slave of the other for a while, and both
    see frames; then the second one goes away. -/
def sharedDay : List NetEvent :=
  [.newlink 1000 0x02ed00000001 {}, .newlink 1001 0x02ed00000002 {}, .addSlave 1000 1 {}, .addSlave 1000 2 {},
    .addSlave 1001 1 {}, .rx 1 stationFrame {}, .delSlave 1000 1, .portCleanup 1000 1, .addSlave 1001 1 {},
    .request false { cmd := .vlanAdd, info := { ifindex := some 1000, vlan := some (.ok { vid := some 7 }) } },
    .rx 1 stationFrame {}, .addSlave 1000 1001 {}, .counted 2 1 0, .tick 5, .xmit 1000 broadcastFrame {}, .dellink 1001]

theorem bridge_among_others_x86 :
    ∃ tr net ubr, Run (bridges Nat x86) (Net.Each Sys.AddsOntoIdle) tr net ∧ tr.length = 16 ∧
    net.ubrs 1000 = some ubr ∧ ∃ tr' s, Run (bridge Nat x86) Sys.AddsOntoIdle tr' s ∧ Alike s (net.sys ubr) ∧
      (asPart 1000).story tr' = tr.filterMap (asPart 1000).does := by
  obtain ⟨tr, net, run, test⟩ := run_loaded x86 (Net.Each Sys.AddsOntoIdle) sharedDay
    (fun tr net => tr.length == 16 && (net.ubrs 1000).isSome) (by decide +kernel)
  rw [Bool.and_eq_true] at test
  obtain ⟨ubr, here⟩ := Option.isSome_iff_exists.mp test.2
  exact ⟨tr, net, ubr, run, eq_of_beq test.1, here, bridge_among_others run here⟩

end UnassumingBridge
