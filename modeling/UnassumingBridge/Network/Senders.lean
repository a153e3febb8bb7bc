import UnassumingBridge.Effects.Genl
import UnassumingBridge.Effects.Network
import UnassumingBridge.Support.Purge

/-! # Who sends the requests

No operation of the family asks for a privileged sender, so the bridges do for every
sender what they do for a privileged one. What an unprivileged sender cannot do is
influence them by requests that are refused or only print something.
-/

namespace UnassumingBridge

open Support

variable {τ : Type} {cfg : Config}

def Net.withRefs (net : Net τ) (refs : Dev → Int) : Net τ := { net with refs }

/-- The same result with other references. -/
def carryRefs {α : Type} (refs : Dev → Int) : Except Fault (Net τ × α) → Except Fault (Net τ × α)
  | .ok (net, a) => .ok (net.withRefs refs, a)
  | .error f => .error f

section Requests

variable (net : Net τ) (refs : Dev → Int)

theorem commanded_withRefs (dev : Dev) (result : Except Fault (Ubr τ × Ret)) :
    (net.withRefs refs).commanded dev result = carryRefs refs (net.commanded dev result) := by
  cases result with
  | error f => rfl
  | ok out => rfl

theorem bridgeOf_withRefs (info : GenlInfo) : (net.withRefs refs).bridgeOf info = net.bridgeOf info := rfl

theorem command_withRefs (info : GenlInfo) (run : Dev → Ubr τ → Except Fault (Ubr τ × Ret)) :
    (net.withRefs refs).command info run = carryRefs refs (net.command info run) := by
  unfold Net.command
  rw [bridgeOf_withRefs]
  cases net.bridgeOf info with
  | none => rfl
  | some found => exact commanded_withRefs net refs found.1 _

theorem commandOn_withRefs (info : GenlInfo) (run : Ubr τ → Vid → Dev → BitVec 32 → Except Fault (Ubr τ × Ret)) :
    (net.withRefs refs).commandOn info run = carryRefs refs (net.commandOn info run) :=
  command_withRefs net refs info _

theorem held_withRefs (leak : Option Dev) :
    (net.withRefs refs).held leak = (net.held leak).withRefs ((net.withRefs refs).held leak).refs := by
  cases leak with
  | none => rfl
  | some dev => rfl

theorem genlRcvMsg_withRefs (cfg : Config) (net : Net τ) (refs : Dev → Int) (admin admin' : Bool) (req : Request) :
    ∃ refs', genlRcvMsg cfg (net.withRefs refs) admin' req = carryRefs refs' (genlRcvMsg cfg net admin req) := by
  obtain ⟨cmd, info, zallocFails⟩ := req
  rw [genlRcvMsg_eq, genlRcvMsg_eq]
  cases cmd with
  | fdbFlush =>
      refine ⟨refs, ?_⟩
      cases named : net.bridgeOf info with
      | none => simp [ubrFdbNlFlushCmd_eq, bridgeOf_withRefs, named, carryRefs]
      | some found => simp [ubrFdbNlFlushCmd_eq, bridgeOf_withRefs, named, carryRefs]
  | vlanSet =>
      refine ⟨refs, ?_⟩
      cases parsed : info.vid with
      | error e => simp [ubrVlanNlSetCmd_eq, parsed, carryRefs]
      | ok vid =>
          cases named : net.bridgeOf info with
          | none => simp [ubrVlanNlSetCmd_eq, parsed, bridgeOf_withRefs, named, carryRefs]
          | some found => simp [ubrVlanNlSetCmd_eq, parsed, bridgeOf_withRefs, named, carryRefs]
  | vlanAdd =>
      refine ⟨refs, ?_⟩
      simp only [ubrVlanNlAddCmd_eq]
      cases info.vid with
      | error e => rfl
      | ok vid => exact command_withRefs net refs info _
  | vlanDel =>
      refine ⟨refs, ?_⟩
      simp only [ubrVlanNlDelCmd_eq]
      cases info.vid with
      | error e => rfl
      | ok vid => exact command_withRefs net refs info _
  | vlanAttach =>
      refine ⟨refs, ?_⟩
      simp only [ubrVlanNlAttachCmd_eq]
      exact commandOn_withRefs net refs info _
  | vlanDetach =>
      refine ⟨refs, ?_⟩
      simp only [ubrVlanNlDetachCmd_eq]
      exact commandOn_withRefs net refs info _
  | portSet =>
      simp only [ubrPortNlSetCmd_eq]
      cases info.portSettings with
      | error e => exact ⟨refs, rfl⟩
      | ok wanted =>
          have leak : (net.withRefs refs).leaked info = net.leaked info := rfl
          simp only [leak]
          rw [held_withRefs]
          exact ⟨_, command_withRefs (net.held (net.leaked info)) _ info _⟩

end Requests

section Events

variable [Jiffies τ] (net : Net τ) (refs : Dev → Int)

theorem onBridge_withRefs (bridge : Dev) (e : Event) :
    (net.withRefs refs).onBridge cfg bridge e = carryRefs refs (net.onBridge cfg bridge e) := by
  have ubrs : (net.withRefs refs).ubrs = net.ubrs := rfl
  unfold Net.onBridge
  rw [ubrs]
  cases net.ubrs bridge with
  | none => rfl
  | some ubr =>
      change ((net.sys ubr).exec cfg e >>= _) = carryRefs refs ((net.sys ubr).exec cfg e >>= _)
      cases (net.sys ubr).exec cfg e with
      | error f => rfl
      | ok out => rfl

theorem unregister_withRefs (dev : Dev) :
    (net.withRefs refs).unregister cfg dev = carryRefs refs (net.unregister cfg dev) := by
  have noticed : ubrDeviceEvent cfg (net.withRefs refs) dev = carryRefs refs (ubrDeviceEvent cfg net dev) := by
    unfold ubrDeviceEvent
    have devs : (net.withRefs refs).devs = net.devs := rfl
    rw [devs]
    split
    · rfl
    · split
      · exact onBridge_withRefs net refs _ _
      · rfl
  unfold Net.unregister
  rw [noticed]
  cases ubrDeviceEvent cfg net dev with
  | error f => rfl
  | ok out => rfl

omit [Jiffies τ] in
theorem ubrDevDellink_withRefs (bridge : Dev) :
    ubrDevDellink (net.withRefs refs) bridge = (ubrDevDellink net bridge).map (·.withRefs refs) := by
  have ubrs : (net.withRefs refs).ubrs = net.ubrs := rfl
  unfold ubrDevDellink
  rw [ubrs]
  cases net.ubrs bridge with
  | none => rfl
  | some ubr =>
      change (dellinkPorts (net.sys ubr) (List.finRange 256) >>= _) =
        Except.map _ (dellinkPorts (net.sys ubr) (List.finRange 256) >>= _)
      cases dellinkPorts (net.sys ubr) (List.finRange 256) with
      | error f => rfl
      | ok s => rfl

end Events

/-- The same event; a request may come from another sender. -/
def SentLike : NetEvent → NetEvent → Prop
  | .request _ req, e' => ∃ admin, e' = .request admin req
  | e, e' => e' = e

section Runs

variable [Jiffies τ] {net : Net τ}

/-- Nothing looks at the references, and the sender of a request makes no difference. -/
theorem exec_withRefs (cfg : Config) (net : Net τ) (refs : Dev → Int) {e e' : NetEvent} (alike : SentLike e e') :
    ∃ refs', (net.withRefs refs).exec cfg e' = carryRefs refs' (net.exec cfg e) := by
  cases e with
  | request admin req =>
      obtain ⟨admin', rfl⟩ := alike
      obtain ⟨refs', same⟩ := genlRcvMsg_withRefs cfg net refs admin admin' req
      refine ⟨refs', ?_⟩
      simp only [Net.exec, same]
      cases genlRcvMsg cfg net admin req with
      | error f => rfl
      | ok out => rfl
  | newlink ifindex devAddr env =>
      cases alike
      refine ⟨refs, ?_⟩
      change (ubrDevNewlink cfg net.nextDev devAddr env >>= _) =
        carryRefs refs (ubrDevNewlink cfg net.nextDev devAddr env >>= _)
      cases (ubrDevNewlink cfg net.nextDev devAddr env : Except Fault (Except Errno (Ubr τ))) with
      | error f => rfl
      | ok made =>
          cases made with
          | error e => rfl
          | ok ubr => rfl
  | appear | tick | devChange | counted =>
      cases alike
      exact ⟨refs, rfl⟩
  | addSlave | delSlave | xmit | age | portCleanup | vlanFree =>
      cases alike
      exact ⟨refs, onBridge_withRefs net refs _ _⟩
  | rx dev skb env =>
      cases alike
      refine ⟨refs, ?_⟩
      have devs : (net.withRefs refs).devs = net.devs := rfl
      simp only [Net.exec, devs]
      split
      · exact onBridge_withRefs net refs _ _
      · rfl
  | unregister dev =>
      cases alike
      exact ⟨refs, unregister_withRefs net refs dev⟩
  | dellink bridge =>
      cases alike
      refine ⟨refs, ?_⟩
      simp only [Net.exec, ubrDevDellink_withRefs]
      cases ubrDevDellink net bridge with
      | error f => rfl
      | ok mid => exact unregister_withRefs mid refs bridge

/-- The request is handled, and it is refused or of a kind that is only printed. -/
def Net.idle (cfg : Config) (net : Net τ) (req : Request) : Bool :=
  match genlRcvMsg cfg net false req with
  | .ok (_, .ok ()) => (net.order req).isNone
  | .ok (_, .error _) => true
  | .error _ => false

/-- An idle request of an unprivileged sender. -/
def Net.powerless (cfg : Config) (net : Net τ) : NetEvent → Bool
  | .request false req => net.idle cfg req
  | _ => false

theorem idle_ok {req : Request} (idle : net.idle cfg req = true) :
    ∃ refs ret, genlRcvMsg cfg net false req = .ok (net.withRefs refs, ret) := by
  unfold Net.idle at idle
  have held : net.held (net.leak req) = net.withRefs (net.held (net.leak req)).refs := by
    cases net.leak req with
    | none => rfl
    | some dev => rfl
  have quiet {net' : Net τ} {ret : Ret} (done : genlRcvMsg cfg net false req = .ok (net', ret))
      (refused : net.order req = none ∨ ∃ e, ret = .error e) :
      ∃ refs ret, genlRcvMsg cfg net false req = .ok (net.withRefs refs, ret) := by
    refine ⟨(net.held (net.leak req)).refs, ret, ?_⟩
    rw [done, ← held]
    rcases genlRcvMsg_ok done with ⟨rfl, _⟩ | ⟨dev, ubr, e, s', named, order, ran, rfl⟩
    · rfl
    · rcases refused with ignored | ⟨err, refused⟩
      · cases ignored.symm.trans order
      · have same : s'.ubr = ubr := refused_command (order_command order) ran refused
        rw [same, setUbr_same (by rw [held_ubrs]; exact bridgeOf_eq named)]
  split at idle
  · rename_i net' done
    exact quiet done (.inl (by simpa using idle))
  · rename_i net' e done
    exact quiet done (.inr ⟨e, rfl⟩)
  · cases idle

/-- Idle requests of unprivileged senders go unnoticed, and so do the senders of the others. -/
theorem senders_unwind (cfg : Config) :
    (bridges τ cfg).Unwinding (Net.powerless cfg) SentLike (fun _ _ => True)
      (fun net net' => ∃ refs, net' = net.withRefs refs) where
  dropped := by
    rintro net _ e ⟨refs, rfl⟩ powerless _
    cases e with
    | request admin req =>
        cases admin with
        | true => cases powerless
        | false =>
            obtain ⟨refs', ret, done⟩ := idle_ok powerless
            refine ⟨net.withRefs refs', { ret }, ?_, refs, rfl⟩
            change (genlRcvMsg cfg net false req >>= _) = _
            rw [done]
            rfl
    | _ => cases powerless
  same := by
    rintro net _ e e' ⟨refs, rfl⟩ _ alike
    obtain ⟨refs', same⟩ := exec_withRefs cfg net refs alike
    cases done : net.exec cfg e with
    | error f =>
        rw [done] at same
        exact .inr ⟨f, f, done, same⟩
    | ok out =>
        rw [done] at same
        exact .inl ⟨out.1, out.1.withRefs refs', out.2, done, same, refs', rfl⟩

/-- Whoever sends the requests, and without the idle ones of unprivileged senders, the
    bridges answer, forward and end up alike. -/
theorem senders_alike (net : Net τ) (es es' : List NetEvent)
    (purged : List.Forall₂ SentLike (pick ((bridges τ cfg).kept (Net.powerless cfg) net es) es) es') :
    (bridges τ cfg).outputs net es' =
        pick ((bridges τ cfg).kept (Net.powerless cfg) net es) ((bridges τ cfg).outputs net es) ∧
      ((bridges τ cfg).after net es').ubrs = ((bridges τ cfg).after net es).ubrs := by
  have along := (bridges τ cfg).along_trivial net es
  have start : ∃ refs, net = net.withRefs refs := ⟨net.refs, rfl⟩
  refine ⟨(senders_unwind cfg).outputs start along purged, ?_⟩
  obtain ⟨refs, same⟩ := (senders_unwind cfg).after start along purged
  rw [same]
  rfl

end Runs

/-- A VLAN is added. -/
def addsVlan (vid : Vid) : Request :=
  ⟨.vlanAdd, { ifindex := some 1000, vlan := some (.ok { vid := some vid }) }, false⟩

/-- An unprivileged sender asks for a VLAN that exists, then another one is added. -/
theorem senders_alike_x86 :
    (bridges Nat x86).outputs loaded [.newlink 1000 0x02ed00000001 {}, .request true (addsVlan 5)] =
        pick ((bridges Nat x86).kept (Net.powerless x86) loaded
            [.newlink 1000 0x02ed00000001 {}, .request false (addsVlan 0), .request false (addsVlan 5)])
          ((bridges Nat x86).outputs loaded
            [.newlink 1000 0x02ed00000001 {}, .request false (addsVlan 0), .request false (addsVlan 5)]) ∧
      ((bridges Nat x86).after loaded [.newlink 1000 0x02ed00000001 {}, .request true (addsVlan 5)]).ubrs =
        ((bridges Nat x86).after loaded
          [.newlink 1000 0x02ed00000001 {}, .request false (addsVlan 0), .request false (addsVlan 5)]).ubrs := by
  have mask : (bridges Nat x86).kept (Net.powerless x86) loaded
      [.newlink 1000 0x02ed00000001 {}, .request false (addsVlan 0), .request false (addsVlan 5)] =
        [true, false, true] := by decide +kernel
  apply senders_alike
  rw [mask]
  exact .cons rfl (.cons ⟨true, rfl⟩ .nil)

/-- The event is no request of an unprivileged sender. -/
def NetEvent.privileged : NetEvent → Bool
  | .request admin _ => admin
  | _ => true

/-- A bridge has a VLAN. -/
def Net.hasVlan (cfg : Config) (net : Net τ) (bridge : Dev) (vid : Vid) : Bool :=
  (net.ubrs bridge).any fun ubr => ((ubrVlanFind cfg ubr vid).toOption.bind id).isSome

/-- An unprivileged sender adds a VLAN. -/
theorem anybody_adds_vlans :
    ¬ ∀ net : Net Nat, Reachable (bridges Nat x86) net → ∀ es : List NetEvent,
      ((bridges Nat x86).after net (es.filter NetEvent.privileged)).ubrs = ((bridges Nat x86).after net es).ubrs := by
  intro claim
  have same := claim loaded ⟨[], .init loaded_init⟩
    [.newlink 1000 0x02ed00000001 {}, .request false (addsVlan 5)]
  have without : Net.hasVlan x86 ((bridges Nat x86).after loaded
      (List.filter NetEvent.privileged [.newlink 1000 0x02ed00000001 {}, .request false (addsVlan 5)])) 1000 5 =
        false := by decide +kernel
  have added : Net.hasVlan x86 ((bridges Nat x86).after loaded
      [.newlink 1000 0x02ed00000001 {}, .request false (addsVlan 5)]) 1000 5 = true := by decide +kernel
  unfold Net.hasVlan at without added
  rw [same, added] at without
  cases without

end UnassumingBridge
