import UnassumingBridge.Kernel.Network
import UnassumingBridge.Effects.Step

/-! # What requests do

The references that a handler takes and drops cancel out in all handlers but one, so
every handler is its command on the bridge that the request names.
-/

namespace UnassumingBridge

open Support

variable {τ : Type} {cfg : Config}

section References

variable (net : Net τ) (dev port : Dev)

theorem put_hold : (net.hold dev).put dev = net := by
  simp [Net.hold, Net.put]

theorem put_hold_hold : ((net.hold dev).hold port).put dev = net.hold port := by
  by_cases same : port = dev
  · subst same
    exact put_hold (net.hold port) port
  · have refs : Function.update (Function.update (Function.update net.refs dev (net.refs dev + 1)) port
        (net.refs port + 1)) dev (net.refs dev) = Function.update net.refs port (net.refs port + 1) := by
      funext d
      grind [Function.update_apply]
    simp [Net.hold, Net.put, Function.update_of_ne same, Function.update_of_ne (Ne.symm same), refs]

end References

/-- The bridge that a request names. -/
def Net.bridgeOf (net : Net τ) (info : GenlInfo) : Option (Dev × Ubr τ) :=
  (info.ifindex.bind net.byIndex).bind fun dev => (net.ubrs dev).map fun ubr => (dev, ubr)

section Bridge

variable {net : Net τ} {info : GenlInfo} {dev : Dev} {ubr : Ubr τ}

theorem setUbr_same (here : net.ubrs dev = some ubr) : net.setUbr dev ubr = net := by
  have same : Function.update net.ubrs dev (some ubr) = net.ubrs := by rw [← here, Function.update_eq_self]
  simp only [Net.setUbr, same]

theorem bridgeOf_eq (named : net.bridgeOf info = some (dev, ubr)) : net.ubrs dev = some ubr := by
  obtain ⟨d, _, found⟩ := Option.bind_eq_some_iff.mp named
  obtain ⟨u, here, same⟩ := Option.map_eq_some_iff.mp found
  cases same
  exact here

theorem ubrNetlinkDev_none (named : net.bridgeOf info = none) : ubrNetlinkDev net info = (net, none) := by
  unfold Net.bridgeOf at named
  cases index : info.ifindex with
  | none => simp only [ubrNetlinkDev, index]
  | some ifindex =>
      cases found : net.byIndex ifindex with
      | none => simp only [ubrNetlinkDev, index, Net.devGetByIndex, found]
      | some d =>
          have other : net.ubrs d = none := by simpa [index, found] using named
          have held : (net.hold d).ubrs d = none := other
          simp only [ubrNetlinkDev, index, Net.devGetByIndex, found, held, put_hold]

theorem ubrNetlinkDev_some (named : net.bridgeOf info = some (dev, ubr)) :
    ubrNetlinkDev net info = (net.hold dev, some (dev, ubr)) := by
  obtain ⟨d, indexed, found⟩ := Option.bind_eq_some_iff.mp named
  obtain ⟨ifindex, index, looked⟩ := Option.bind_eq_some_iff.mp indexed
  obtain ⟨u, here, same⟩ := Option.map_eq_some_iff.mp found
  cases same
  have held : (net.hold dev).ubrs dev = some ubr := here
  simp only [ubrNetlinkDev, index, Net.devGetByIndex, looked, held]

end Bridge

/-- The VID in a request. -/
def GenlInfo.vid (info : GenlInfo) : Except Errno Vid := info.getVid.map Prod.snd

/-- The VID, the port's index and the tagging in a request to attach or detach a port. -/
def GenlInfo.membership (info : GenlInfo) : Except Errno (Vid × BitVec 32 × BitVec 32) :=
  info.getVid.bind fun (attrs, vid) => attrs.getPort.map fun port => (vid, port)

/-- The PVID and the port's index in a request to set up a port. -/
def GenlInfo.portSettings (info : GenlInfo) : Except Errno (Vid × BitVec 32) :=
  info.getPort.map fun (attrs, ifindex) => (attrs.pvid.getD 0, ifindex)

/-- A command on the bridge that the request names. -/
def Net.command (net : Net τ) (info : GenlInfo) (run : Dev → Ubr τ → Except Fault (Ubr τ × Ret)) :
    Except Fault (Net τ × Ret) :=
  match net.bridgeOf info with
  | none => .ok (net, .error .einval)
  | some (dev, ubr) => net.commanded dev (run dev ubr)

section Handlers

variable (net : Net τ) (info : GenlInfo)

theorem ubrFdbNlFlushCmd_eq :
    ubrFdbNlFlushCmd net info = if (net.bridgeOf info).isSome then .ok (net, .ok ()) else .error .nullDeref := by
  cases named : net.bridgeOf info with
  | none => simp [ubrFdbNlFlushCmd, ubrNetlinkDev_none named]
  | some found => simp [ubrFdbNlFlushCmd, ubrNetlinkDev_some named, put_hold]

theorem ubrVlanNlSetCmd_eq :
    ubrVlanNlSetCmd net info =
      match info.vid with
      | .error e => .ok (net, .error e)
      | .ok _ => if (net.bridgeOf info).isSome then .ok (net, .ok ()) else .error .nullDeref := by
  unfold ubrVlanNlSetCmd GenlInfo.vid
  cases info.getVid with
  | error e => rfl
  | ok parsed =>
      cases named : net.bridgeOf info with
      | none => simp [ubrNetlinkDev_none named, Except.map]
      | some found => simp [ubrNetlinkDev_some named, put_hold, Except.map]

theorem ubrVlanNlAddCmd_eq (zallocFails : Bool) :
    ubrVlanNlAddCmd cfg net info zallocFails =
      match info.vid with
      | .error e => .ok (net, .error e)
      | .ok vid => net.command info fun _ ubr => ubrVlanNlAdd cfg ubr vid zallocFails := by
  unfold ubrVlanNlAddCmd GenlInfo.vid Net.command
  cases info.getVid with
  | error e => rfl
  | ok parsed =>
      cases named : net.bridgeOf info with
      | none => simp [ubrNetlinkDev_none named, Except.map]
      | some found => simp [ubrNetlinkDev_some named, put_hold, Except.map]

theorem ubrVlanNlDelCmd_eq :
    ubrVlanNlDelCmd cfg net info =
      match info.vid with
      | .error e => .ok (net, .error e)
      | .ok vid => net.command info fun _ ubr => ubrVlanNlDel cfg ubr vid := by
  unfold ubrVlanNlDelCmd GenlInfo.vid Net.command
  cases info.getVid with
  | error e => rfl
  | ok parsed =>
      cases named : net.bridgeOf info with
      | none => simp [ubrNetlinkDev_none named, Except.map]
      | some found => simp [ubrNetlinkDev_some named, put_hold, Except.map]

/-- `__get_bridge_vlan_port` keeps the reference on the port only. -/
theorem getBridgeVlanPort_eq :
    getBridgeVlanPort net info =
      match net.bridgeOf info with
      | none => (net, .error .einval)
      | some (dev, ubr) =>
          match info.membership with
          | .error e => (net, .error e)
          | .ok (vid, ifindex, tagged) =>
              match net.byIndex ifindex with
              | none => (net, .error .einval)
              | some port => (net.hold port, .ok ⟨dev, ubr, vid, port, tagged⟩) := by
  unfold getBridgeVlanPort GenlInfo.membership
  cases named : net.bridgeOf info with
  | none => simp [ubrNetlinkDev_none named]
  | some found =>
      obtain ⟨dev, ubr⟩ := found
      simp only [ubrNetlinkDev_some named]
      cases info.getVid with
      | error e => simp [put_hold, Except.bind]
      | ok parsed =>
          obtain ⟨attrs, vid⟩ := parsed
          cases ported : attrs.getPort with
          | error e => simp [ported, put_hold, Except.bind, Except.map]
          | ok port =>
              obtain ⟨ifindex, tagged⟩ := port
              cases found : net.byIndex ifindex with
              | none =>
                  have missing : (net.hold dev).byIndex ifindex = none := found
                  simp [ported, found, missing, Net.devGetByIndex, put_hold, Except.bind, Except.map]
              | some p =>
                  have there : (net.hold dev).byIndex ifindex = some p := found
                  simp [ported, found, there, Net.devGetByIndex, put_hold_hold, Except.bind, Except.map]

/-- A command on the bridge and the port that a request names. -/
def Net.commandOn (run : Ubr τ → Vid → Dev → BitVec 32 → Except Fault (Ubr τ × Ret)) :
    Except Fault (Net τ × Ret) :=
  net.command info fun _ ubr =>
    match info.membership with
    | .error e => .ok (ubr, .error e)
    | .ok (vid, ifindex, tagged) =>
        match net.byIndex ifindex with
        | none => .ok (ubr, .error .einval)
        | some port => run ubr vid port tagged

theorem commanded_same {net : Net τ} {dev : Dev} {ubr : Ubr τ} (here : net.ubrs dev = some ubr) (ret : Ret) :
    net.commanded dev (.ok (ubr, ret)) = .ok (net, ret) := by
  simp only [Net.commanded, setUbr_same here]

private theorem commandOn_eq (run : Ubr τ → Vid → Dev → BitVec 32 → Except Fault (Ubr τ × Ret)) :
    (match getBridgeVlanPort net info with
      | (net, .error e) => .ok (net, .error e)
      | (net, .ok found) =>
          (net.put found.port).commanded found.bridge (run found.ubr found.vid found.port found.tagged)) =
      net.commandOn info run := by
  rw [getBridgeVlanPort_eq]
  unfold Net.commandOn Net.command
  cases named : net.bridgeOf info with
  | none => rfl
  | some found =>
      obtain ⟨dev, ubr⟩ := found
      have here := bridgeOf_eq named
      cases info.membership with
      | error e => exact (commanded_same here _).symm
      | ok wanted =>
          obtain ⟨vid, ifindex, tagged⟩ := wanted
          cases looked : net.byIndex ifindex with
          | none => simp only [looked, commanded_same here]
          | some port => simp only [looked, put_hold]

theorem ubrVlanNlAttachCmd_eq :
    ubrVlanNlAttachCmd cfg net info = net.commandOn info (ubrVlanNlAttach cfg) :=
  commandOn_eq net info (ubrVlanNlAttach cfg)

theorem ubrVlanNlDetachCmd_eq :
    ubrVlanNlDetachCmd cfg net info = net.commandOn info fun ubr vid port _ => ubrVlanNlDetach cfg ubr vid port :=
  commandOn_eq net info fun ubr vid port _ => ubrVlanNlDetach cfg ubr vid port

/-- The device that a request to set up a port names, on which the handler keeps a reference. -/
def Net.leaked (net : Net τ) (info : GenlInfo) : Option Dev :=
  info.portSettings.toOption.bind fun wanted => net.byIndex wanted.2

def Net.held (net : Net τ) : Option Dev → Net τ
  | none => net
  | some dev => net.hold dev

theorem ubrPortNlSetCmd_eq :
    ubrPortNlSetCmd cfg net info =
      match info.portSettings with
      | .error e => .ok (net, .error e)
      | .ok (pvid, _) =>
          (net.held (net.leaked info)).command info fun _ ubr => ubrPortNlSet cfg ubr (net.leaked info) pvid := by
  unfold ubrPortNlSetCmd Net.leaked GenlInfo.portSettings Net.command
  cases info.getPort with
  | error e => rfl
  | ok parsed =>
      obtain ⟨attrs, ifindex⟩ := parsed
      cases looked : net.byIndex ifindex with
      | none =>
          cases named : net.bridgeOf info with
          | none =>
            simp [Net.devGetByIndex, looked, ubrNetlinkDev_none named, Except.map, Except.toOption, Net.held, named]
          | some found =>
              simp [Net.devGetByIndex, looked, ubrNetlinkDev_some named, put_hold, Except.map, Except.toOption,
                Net.held, named]
      | some port =>
          cases named : net.bridgeOf info with
          | none =>
              have still : (net.hold port).bridgeOf info = none := named
              simp [Net.devGetByIndex, looked, ubrNetlinkDev_none still, Except.map, Except.toOption, Net.held, still]
          | some found =>
              have still : (net.hold port).bridgeOf info = some found := named
              simp [Net.devGetByIndex, looked, ubrNetlinkDev_some still, put_hold, Except.map, Except.toOption,
                Net.held, still]

end Handlers

/-- No operation is reserved for privileged senders. -/
theorem genlRcvMsg_eq (net : Net τ) (admin : Bool) (req : Request) :
    genlRcvMsg cfg net admin req =
      match req.cmd with
      | .fdbFlush => ubrFdbNlFlushCmd net req.info
      | .vlanAdd => ubrVlanNlAddCmd cfg net req.info req.zallocFails
      | .vlanDel => ubrVlanNlDelCmd cfg net req.info
      | .vlanSet => ubrVlanNlSetCmd net req.info
      | .vlanAttach => ubrVlanNlAttachCmd cfg net req.info
      | .vlanDetach => ubrVlanNlDetachCmd cfg net req.info
      | .portSet => ubrPortNlSetCmd cfg net req.info := by
  obtain ⟨cmd, info, zallocFails⟩ := req
  cases cmd <;> rfl

/-- The device on which a request leaves a reference behind. -/
def Net.leak (net : Net τ) (req : Request) : Option Dev :=
  match req.cmd with
  | .portSet => net.leaked req.info
  | _ => none

/-- The commands of `UnassumingBridge.Kernel.Netlink`. -/
def Event.command : Event → Bool
  | .vlanAdd .. | .vlanDel .. | .vlanAttach .. | .vlanDetach .. | .portSet .. => true
  | _ => false

/-- The event of the bridge machine that a request turns into. -/
def Net.order (net : Net τ) (req : Request) : Option Event :=
  match req.cmd with
  | .fdbFlush | .vlanSet => none
  | .vlanAdd => req.info.vid.toOption.map fun vid => .vlanAdd vid req.zallocFails
  | .vlanDel => req.info.vid.toOption.map fun vid => .vlanDel vid
  | .vlanAttach => req.info.membership.toOption.bind fun (vid, ifindex, tagged) =>
      (net.byIndex ifindex).map fun port => .vlanAttach vid port tagged
  | .vlanDetach => req.info.membership.toOption.bind fun (vid, ifindex, _) =>
      (net.byIndex ifindex).map fun port => .vlanDetach vid port
  | .portSet => req.info.portSettings.toOption.map fun (pvid, _) => .portSet (net.leaked req.info) pvid

section Order

variable {net net' : Net τ} {admin : Bool} {req : Request} {ret : Ret}

theorem held_ubrs (net : Net τ) (leak : Option Dev) : (net.held leak).ubrs = net.ubrs := by
  cases leak with
  | none => rfl
  | some dev => rfl

theorem held_bridgeOf (net : Net τ) (leak : Option Dev) (info : GenlInfo) :
    (net.held leak).bridgeOf info = net.bridgeOf info := by
  cases leak with
  | none => rfl
  | some dev => rfl

theorem command_ok {info : GenlInfo} {run : Dev → Ubr τ → Except Fault (Ubr τ × Ret)}
    (done : net.command info run = .ok (net', ret)) :
    (net.bridgeOf info = none ∧ net' = net ∧ ret = .error .einval) ∨
    ∃ dev ubr ubr', net.bridgeOf info = some (dev, ubr) ∧ run dev ubr = .ok (ubr', ret) ∧
      net' = net.setUbr dev ubr' := by
  unfold Net.command at done
  cases named : net.bridgeOf info with
  | none =>
      rw [named] at done
      cases done
      exact .inl ⟨rfl, rfl, rfl⟩
  | some found =>
      obtain ⟨dev, ubr⟩ := found
      rw [named] at done
      unfold Net.commanded at done
      cases ran : run dev ubr with
      | error f =>
          simp only [ran] at done
          cases done
      | ok out =>
          simp only [ran] at done
          cases done
          exact .inr ⟨dev, ubr, out.1, rfl, ran, rfl⟩

variable [Jiffies τ]

/-- How a request that is handled ends. -/
def Handled (cfg : Config) (net : Net τ) (req : Request) (net' : Net τ) (ret : Ret) : Prop :=
  (net' = net.held (net.leak req) ∧ (net.order req = none ∨ ∃ e, ret = .error e)) ∨
  ∃ dev ubr e s', net.bridgeOf req.info = some (dev, ubr) ∧ net.order req = some e ∧
    (net.sys ubr).exec cfg e = .ok (s', { ret }) ∧ net' = (net.held (net.leak req)).setUbr dev s'.ubr

private theorem handled_command {e : Event} {run : Ubr τ → Except Fault (Ubr τ × Ret)}
    (order : net.order req = some e) (leaks : net.leak req = none)
    (same : ∀ ubr, (net.sys ubr).exec cfg e = (net.sys ubr).configured (run ubr))
    (done : net.command req.info (fun _ ubr => run ubr) = .ok (net', ret)) : Handled cfg net req net' ret := by
  unfold Handled
  rw [leaks]
  rcases command_ok done with ⟨_, rfl, rfl⟩ | ⟨dev, ubr, ubr', named, ran, rfl⟩
  · exact .inl ⟨rfl, .inr ⟨_, rfl⟩⟩
  · refine .inr ⟨dev, ubr, e, { net.sys ubr with ubr := ubr' }, named, order, ?_, rfl⟩
    rw [same, ran]
    rfl

private theorem handled_commandOn {run : Ubr τ → Vid → Dev → BitVec 32 → Except Fault (Ubr τ × Ret)}
    {f : Vid → Dev → BitVec 32 → Event}
    (order : net.order req = req.info.membership.toOption.bind fun (vid, ifindex, tagged) =>
      (net.byIndex ifindex).map fun port => f vid port tagged)
    (leaks : net.leak req = none)
    (same : ∀ ubr vid port tagged, (net.sys ubr).exec cfg (f vid port tagged) =
      (net.sys ubr).configured (run ubr vid port tagged))
    (done : net.commandOn req.info run = .ok (net', ret)) : Handled cfg net req net' ret := by
  unfold Net.commandOn at done
  cases wanted : req.info.membership with
  | error e =>
      simp only [wanted] at done
      rcases command_ok done with ⟨_, rfl, rfl⟩ | ⟨dev, ubr, ubr', named, ran, rfl⟩
      · exact .inl ⟨by rw [leaks]; rfl, .inr ⟨_, rfl⟩⟩
      · cases ran
        exact .inl ⟨by rw [leaks]; exact setUbr_same (bridgeOf_eq named), .inr ⟨_, rfl⟩⟩
  | ok out =>
      obtain ⟨vid, ifindex, tagged⟩ := out
      cases looked : net.byIndex ifindex with
      | none =>
          simp only [wanted, looked] at done
          rcases command_ok done with ⟨_, rfl, rfl⟩ | ⟨dev, ubr, ubr', named, ran, rfl⟩
          · exact .inl ⟨by rw [leaks]; rfl, .inr ⟨_, rfl⟩⟩
          · cases ran
            exact .inl ⟨by rw [leaks]; exact setUbr_same (bridgeOf_eq named), .inr ⟨_, rfl⟩⟩
      | some port =>
          simp only [wanted, looked] at done
          have found : net.order req = some (f vid port tagged) := by
            rw [order, wanted]
            simp [Except.toOption, looked]
          exact handled_command found leaks (fun ubr => same ubr vid port tagged) done

/-- A request that is handled is the command that it turns into, on the bridge that it
    names, or it is refused or ignored and leaves the bridges alone. -/
theorem genlRcvMsg_ok (done : genlRcvMsg cfg net admin req = .ok (net', ret)) : Handled cfg net req net' ret := by
  obtain ⟨cmd, info, zallocFails⟩ := req
  rw [genlRcvMsg_eq] at done
  cases cmd with
  | fdbFlush =>
      simp only [ubrFdbNlFlushCmd_eq] at done
      split at done
      · cases done
        exact .inl ⟨rfl, .inl rfl⟩
      · cases done
  | vlanSet =>
      simp only [ubrVlanNlSetCmd_eq] at done
      split at done
      · cases done
        exact .inl ⟨rfl, .inl rfl⟩
      · split at done
        · cases done
          exact .inl ⟨rfl, .inl rfl⟩
        · cases done
  | vlanAdd =>
      simp only [ubrVlanNlAddCmd_eq] at done
      split at done
      · cases done
        exact .inl ⟨rfl, .inr ⟨_, rfl⟩⟩
      · rename_i vid parsed
        refine handled_command (e := .vlanAdd vid zallocFails) ?_ rfl (fun ubr => rfl) done
        simp [Net.order, parsed, Except.toOption]
  | vlanDel =>
      simp only [ubrVlanNlDelCmd_eq] at done
      split at done
      · cases done
        exact .inl ⟨rfl, .inr ⟨_, rfl⟩⟩
      · rename_i vid parsed
        refine handled_command (e := .vlanDel vid) ?_ rfl (fun ubr => rfl) done
        simp [Net.order, parsed, Except.toOption]
  | vlanAttach =>
      simp only [ubrVlanNlAttachCmd_eq] at done
      exact handled_commandOn rfl rfl (fun ubr vid port tagged => rfl) done
  | vlanDetach =>
      simp only [ubrVlanNlDetachCmd_eq] at done
      exact handled_commandOn (f := fun vid port _ => .vlanDetach vid port) rfl rfl
        (fun ubr vid port tagged => rfl) done
  | portSet =>
      simp only [ubrPortNlSetCmd_eq] at done
      split at done
      · rename_i e parsed
        cases done
        refine .inl ⟨?_, .inr ⟨_, rfl⟩⟩
        simp [Net.leak, Net.leaked, parsed, Except.toOption, Net.held]
      · rename_i pvid ifindex parsed
        rcases command_ok done with ⟨_, rfl, rfl⟩ | ⟨dev, ubr, ubr', named, ran, rfl⟩
        · exact .inl ⟨rfl, .inr ⟨_, rfl⟩⟩
        · refine .inr ⟨dev, ubr, .portSet (net.leaked info) pvid, { net.sys ubr with ubr := ubr' }, ?_, ?_, ?_, rfl⟩
          · rw [← named, held_bridgeOf]
          · simp [Net.order, parsed, Except.toOption]
          · change (net.sys ubr).configured (ubrPortNlSet cfg ubr (net.leaked info) pvid) = _
            rw [ran]
            rfl

omit [Jiffies τ] in
private theorem commanded_order (net : Net τ) (dev : Dev) (ubr : Ubr τ) (result : Except Fault (Ubr τ × Ret)) :
    net.commanded dev result =
      ((net.sys ubr).configured result).map fun out => (net.setUbr dev out.1.ubr, out.2.ret) := by
  cases result with
  | error f => rfl
  | ok out => rfl

/-- A request that turns into a command of a bridge does what the command does. -/
theorem genlRcvMsg_order {dev : Dev} {ubr : Ubr τ} {e : Event} (named : net.bridgeOf req.info = some (dev, ubr))
    (order : net.order req = some e) :
    genlRcvMsg cfg net admin req =
      ((net.sys ubr).exec cfg e).map fun out => ((net.held (net.leak req)).setUbr dev out.1.ubr, out.2.ret) := by
  obtain ⟨cmd, info, zallocFails⟩ := req
  rw [genlRcvMsg_eq]
  cases cmd with
  | fdbFlush | vlanSet => cases order
  | vlanAdd | vlanDel =>
      obtain ⟨vid, parsed, rfl⟩ := Option.map_eq_some_iff.mp order
      cases wanted : info.vid with
      | error e => simp [wanted, Except.toOption] at parsed
      | ok w =>
          have same : w = vid := by simpa [wanted, Except.toOption] using parsed
          subst same
          simp only [ubrVlanNlAddCmd_eq, ubrVlanNlDelCmd_eq, wanted, Net.command, named]
          exact commanded_order net dev ubr _
  | vlanAttach | vlanDetach =>
      obtain ⟨⟨vid, ifindex, tagged⟩, parsed, order⟩ := Option.bind_eq_some_iff.mp order
      obtain ⟨port, looked, rfl⟩ := Option.map_eq_some_iff.mp order
      cases wanted : info.membership with
      | error e => simp [wanted, Except.toOption] at parsed
      | ok w =>
          have same : w = (vid, ifindex, tagged) := by simpa [wanted, Except.toOption] using parsed
          subst same
          simp only [ubrVlanNlAttachCmd_eq, ubrVlanNlDetachCmd_eq, Net.commandOn, wanted, looked, Net.command, named]
          exact commanded_order net dev ubr _
  | portSet =>
      obtain ⟨⟨pvid, ifindex⟩, parsed, rfl⟩ := Option.map_eq_some_iff.mp order
      cases wanted : info.portSettings with
      | error e => simp [wanted, Except.toOption] at parsed
      | ok w =>
          have same : w = (pvid, ifindex) := by simpa [wanted, Except.toOption] using parsed
          subst same
          have still := (held_bridgeOf net (net.leaked info) info).trans named
          have leaks : net.leak ⟨.portSet, info, zallocFails⟩ = net.leaked info := rfl
          simp only [ubrPortNlSetCmd_eq, wanted, Net.command, still, leaks]
          cases net.leaked info with
          | none => exact commanded_order net dev ubr _
          | some port => exact commanded_order (net.hold port) dev ubr _

omit [Jiffies τ] in
theorem order_command {e : Event} (order : net.order req = some e) : e.command = true := by
  obtain ⟨cmd, info, zallocFails⟩ := req
  unfold Net.order at order
  cases cmd with
  | fdbFlush | vlanSet => cases order
  | vlanAdd | vlanDel | portSet =>
      obtain ⟨_, _, rfl⟩ := Option.map_eq_some_iff.mp order
      rfl
  | vlanAttach | vlanDetach =>
      obtain ⟨_, _, order⟩ := Option.bind_eq_some_iff.mp order
      obtain ⟨_, _, rfl⟩ := Option.map_eq_some_iff.mp order
      rfl

theorem refused_command {s s' : Sys τ} {e : Event} {o : Outcome} {err : Errno} (command : e.command = true)
    (done : s.exec cfg e = .ok (s', o)) (refused : o.ret = .error err) : s'.ubr = s.ubr := by
  cases e with
  | vlanAdd vid zallocFails =>
      obtain ⟨u, ran, rfl, _⟩ := configured_ok done
      rcases ubrVlanNlAdd_cases ran with ⟨_, _, rfl, _⟩ | ⟨_, _, rfl, _⟩ | ⟨_, _, _, success⟩
      · rfl
      · rfl
      · cases refused.symm.trans success
  | vlanDel vid =>
      obtain ⟨u, ran, rfl, _⟩ := configured_ok done
      rcases ubrVlanNlDel_cases ran with ⟨_, rfl, _⟩ | ⟨_, _, _, _, _, _, _, success⟩
      · rfl
      · cases refused.symm.trans success
  | vlanAttach vid port tagged =>
      obtain ⟨u, ran, rfl, _⟩ := configured_ok done
      rcases ubrVlanNlAttach_cases ran with ⟨rfl, _⟩ | ⟨_, _, _, _, _, _, _, _, success⟩
      · rfl
      · cases refused.symm.trans success
  | vlanDetach vid port =>
      obtain ⟨u, ran, rfl, _⟩ := configured_ok done
      rcases ubrVlanNlDetach_cases ran with ⟨rfl, _⟩ | ⟨_, _, _, _, _, _, _, _, success⟩
      · rfl
      · cases refused.symm.trans success
  | portSet port pvid =>
      obtain ⟨u, ran, rfl, _⟩ := configured_ok done
      rcases ubrPortNlSet_cases ran with ⟨rfl, _⟩ | ⟨_, _, _, _, _, success⟩
      · rfl
      · cases refused.symm.trans success
  | rx | xmit | age | tick | portAdd | portDel | portCleanup | vlanFree | devChange => cases command

/-- A request that is refused or ignored leaves every bridge as it was. -/
theorem refused_unchanged (done : genlRcvMsg cfg net admin req = .ok (net', ret))
    (refused : net.order req = none ∨ ∃ e, ret = .error e) : net'.ubrs = net.ubrs := by
  rcases genlRcvMsg_ok done with ⟨rfl, _⟩ | ⟨dev, ubr, e, s', named, order, ran, rfl⟩
  · exact held_ubrs net _
  · obtain ignored | ⟨err, refused⟩ := refused
    · cases ignored.symm.trans order
    · have same : s'.ubr = ubr := refused_command (order_command order) ran refused
      rw [same]
      change Function.update (net.held (net.leak req)).ubrs dev (some ubr) = net.ubrs
      rw [held_ubrs, ← bridgeOf_eq named, Function.update_eq_self]

end Order

end UnassumingBridge
