import UnassumingBridge.CommandLine.Learning
import UnassumingBridge.CommandLine.PortSet

/-! # The commands on VLANs

From the words that follow `vlan VID` to the bridge in the kernel. A line that means an
event of the bridge makes the kernel execute that event, and every other line leaves the
bridges alone.
-/

namespace UnassumingBridge

open Support Numeral Assignments

section Words

/-- The word is the beginning of this name and of no other one. -/
def Abbreviates (names : List Str) (word name : Str) : Prop :=
  name ∈ names ∧ word <+: name ∧ ∀ other ∈ names, word <+: other → other = name

theorem findCmd_iff {cmds : List Cmd} {word : Str} {cmd : Cmd} (distinct : (cmds.map Cmd.cmd).Nodup) :
    findCmd cmds word = some cmd ↔ cmd ∈ cmds ∧ Abbreviates (cmds.map Cmd.cmd) word cmd.cmd := by
  rw [findCmd_eq_some]
  constructor
  · rintro ⟨i, at_, matching, unique⟩
    refine ⟨List.mem_of_getElem? at_, List.mem_map_of_mem (List.mem_of_getElem? at_), matching,
      fun other named fits => ?_⟩
    obtain ⟨b, inside, rfl⟩ := List.mem_map.mp named
    obtain ⟨j, at'⟩ := List.mem_iff_getElem?.mp inside
    have same := unique j b at' fits
    subst same
    cases at_.symm.trans at'
    rfl
  · rintro ⟨inside, _, matching, unique⟩
    obtain ⟨i, at_⟩ := List.mem_iff_getElem?.mp inside
    refine ⟨i, at_, matching, fun j b at' fits => ?_⟩
    have same := unique b.cmd (List.mem_map_of_mem (List.mem_of_getElem? at')) fits
    have keys : (cmds.map Cmd.cmd)[j]? = (cmds.map Cmd.cmd)[i]? := by simp [at_, at', same]
    have bound : j < (cmds.map Cmd.cmd).length := by
      rw [List.length_map]
      exact (List.getElem?_eq_some_iff.mp at').1
    exact (List.getElem?_inj bound distinct).mp keys

def vlanNames : List Str := ["add".toList, "del".toList, "attach".toList, "detach".toList, "set".toList]

theorem vlanCmds_names (env : ToolEnv) : (vlanCmds env).map Cmd.cmd = vlanNames := rfl

theorem findCmd_vlanCmds {env : ToolEnv} {word : Str} {cmd : Cmd} :
    findCmd (vlanCmds env) word = some cmd ↔ cmd ∈ vlanCmds env ∧ Abbreviates vlanNames word cmd.cmd := by
  rw [← vlanCmds_names env]
  apply findCmd_iff
  rw [vlanCmds_names]
  decide

end Words

/-- What the words behind `vlan VID` mean, where the devices of the namespace are the ones
    that the tool finds by their names. -/
inductive Typed {τ : Type} (env : ToolEnv) (net : Net τ) (vid : Vid) : List Str → Event → Prop where
  | add {word rest} (command : Abbreviates vlanNames word "add".toList) :
      Typed env net vid (word :: rest) (.vlanAdd vid false)
  | del {word rest} (command : Abbreviates vlanNames word "del".toList) :
    Typed env net vid (word :: rest) (.vlanDel vid)
  | attach {word ifname options port} (command : Abbreviates vlanNames word "attach".toList)
      (index : env.ifNameToIndex ifname ≠ 0) (named : net.byIndex (env.ifNameToIndex ifname) = some port)
      (tagged : ∀ w ∈ options, w <+: "tagged".toList) :
      Typed env net vid (word :: ifname :: options) (.vlanAttach vid port (if options = [] then 0 else 1))
  | detach {word ifname rest port} (command : Abbreviates vlanNames word "detach".toList)
      (index : env.ifNameToIndex ifname ≠ 0) (named : net.byIndex (env.ifNameToIndex ifname) = some port) :
      Typed env net vid (word :: ifname :: rest) (.vlanDetach vid port)

section Options

variable {options : List Str}

theorem findOpt_tagged {word : Str} :
    findOpt vlanAttachOpts word = if word <+: "tagged".toList then some 0 else none := by
  change (if word.isPrefixOf "tagged".toList then some 0 else none) = _
  simp only [List.isPrefixOf_iff_prefix]

theorem items_tagged (tagged : ∀ w ∈ options, w <+: "tagged".toList) :
    Items vlanAttachOpts options (options.map fun w => (0, w)) := by
  induction options with
  | nil => exact .nil
  | cons word rest ih =>
      have names : Names vlanAttachOpts word .key 0 := by
        apply names_iff.mpr
        rw [findOpt_tagged, if_pos (tagged word List.mem_cons_self)]
        exact ⟨rfl, rfl⟩
      exact .key names (ih fun w inside => tagged w (List.mem_cons_of_mem _ inside))

theorem hasOpt_tagged (options : List Str) :
    hasOpt (stored vlanAttachOpts (options.map fun w => (0, w))) "tagged".toList = decide (options ≠ []) := by
  have given : (last (options.map fun w => ((0 : Nat), w)) 0).isSome = decide (options ≠ []) := by
    cases options with
    | nil => rfl
    | cons word rest => simp [last_cons]
  rw [← given]
  have one : stored vlanAttachOpts (options.map fun w => (0, w)) =
      [{ key := "tagged".toList, flag := .key, val := last (options.map fun w => (0, w)) 0 }] := by
    simp only [stored, vlanAttachOpts, List.mapIdx_cons, List.mapIdx_nil, Option.or_none]
  cases value : last (options.map fun w => ((0 : Nat), w)) 0 with
  | none => simp only [hasOpt, getOpt, one, value, List.find?_cons, List.find?_nil, true_and, Option.isSome_none,
      Bool.false_eq_true, decide_false]
  | some w => simp only [hasOpt, getOpt, one, value, List.find?_cons, true_and, Option.isSome_some, decide_true]

theorem stumbles_tagged (options : List Str) :
    (∀ w ∈ options, w <+: "tagged".toList) ∨ Stumbles vlanAttachOpts options := by
  induction options with
  | nil => exact .inl fun w inside => absurd inside List.not_mem_nil
  | cons word rest ih =>
      by_cases here : word <+: "tagged".toList
      · rcases ih with all | ⟨init, items, bad, more, rfl, is, missing⟩
        · exact .inl (List.forall_mem_cons.mpr ⟨here, all⟩)
        · have names : Names vlanAttachOpts word .key 0 := names_iff.mpr ⟨by rw [findOpt_tagged, if_pos here], rfl⟩
          exact .inr ⟨word :: init, _, bad, more, rfl, .key names is, missing⟩
      · refine .inr ⟨[], [], word, rest, rfl, .nil, ?_⟩
        rw [findOpt_tagged, if_neg here]

end Options

/-- The tool has memory, finds the family, and its requests go out. -/
structure Connected (env : ToolEnv) (family : Int) : Prop where
  memory : env.callocFails = false
  known : (getFamily env).res = .ok family
  positive : 0 < family
  sends : ∀ msg, env.sendFails msg = false

section Commands

variable {τ : Type} {cfg : Config} {env : ToolEnv} {g : Globals} {help : Usage} {cmdl : Cmdl} {family : Int}
  {net net' : Net τ} {dev : Dev} {ubr : Ubr τ} {links : NlMsg → Net τ → Except Fault (Net τ)} {words : List Str}
  {ifname : Str}

/-- The message of a command on a VLAN. -/
def vlanMsg (g : Globals) (cmd : UbrNlCmd) (family : Int) (vlan : VlanAttrs) : GenlMsg :=
  { blankMsg g cmd family with vlan := some vlan }

theorem sendVlan_handled {cmd : UbrNlCmd} {vlan : VlanAttrs} {ret : Ret} (connected : Connected env family)
    (acks : Acknowledges cfg env net)
    (done : genlRcvMsg cfg net true (vlanMsg g cmd family vlan).request = .ok (net', ret)) :
    kernelRun cfg links (sendVlan env g cmd vlan).log net = .ok net' ∧
      (sendVlan env g cmd vlan).res = .ok (if ret.toBool then 0 else -1) := by
  have begun : (msgInit env g cmd).res = .ok (some (blankMsg g cmd family)) :=
    msgInit_some.mpr ⟨connected.memory, family, connected.known, connected.positive, rfl⟩
  have sends : env.sendFails (.genl (vlanMsg g cmd family vlan)) = false := connected.sends _
  constructor
  · rw [sendVlan_log begun sends, kernelRun_quiet_append (msgInit_quiet env g cmd)]
    have sent : kernelRun cfg links [.send (.genl (vlanMsg g cmd family vlan))] net = .ok net' := by
      rw [kernelRun, done]
      rfl
    exact sent
  · have answered := acks _ net' ret done
    unfold sendVlan
    rw [Logged.bind_ok begun]
    change (msgQueryNoCb env (.genl (vlanMsg g cmd family vlan))).res = _
    cases ret with
    | ok u => exact msgQueryNoCb_acked sends answered
    | error e =>
        simp only [msgQueryNoCb, msgQuery, msgSend, sends, Bool.false_eq_true, if_false, answered]
        rfl

/-- What the run sends leaves the namespace as it is. -/
def LeavesAlone (cfg : Config) (links : NlMsg → Net τ → Except Fault (Net τ)) (net : Net τ) (x : Tool Int) : Prop :=
  kernelRun cfg links x.log net = .ok net

theorem LeavesAlone.of_quiet {x : Tool Int} (quiet : Quiet x) : LeavesAlone cfg links net x := kernelRun_quiet quiet net

theorem LeavesAlone.bind {α : Type} {x : Tool α} {f : α → Tool Int} (quiet : Quiet x)
    (rest : ∀ a, x.res = .ok a → LeavesAlone cfg links net (f a)) : LeavesAlone cfg links net (x >>= f) := by
  unfold LeavesAlone
  cases ends : x.res with
  | error f =>
      rw [Logged.bind_error ends]
      exact kernelRun_quiet quiet net
  | ok a =>
      rw [Logged.bind_ok ends, kernelRun_quiet_append quiet]
      exact rest a ends

theorem readPort_found {rest : List Str} {command : BitVec 32 → Cmdl → Tool Int} (left : cmdl.left = ifname :: rest)
    (index : env.ifNameToIndex ifname ≠ 0) :
    readPort env help cmdl command = command (env.ifNameToIndex ifname) cmdl.next := by
  simp only [readPort, shiftCmdl_left left, index, if_false]

theorem readPort_alone {command : BitVec 32 → Cmdl → Tool Int} (left : cmdl.left = words)
    (holds : ∀ ifname rest, words = ifname :: rest → env.ifNameToIndex ifname ≠ 0 →
      LeavesAlone cfg links net (command (env.ifNameToIndex ifname) cmdl.next)) :
    LeavesAlone cfg links net (readPort env help cmdl command) := by
  cases words with
  | nil =>
      simp only [readPort, shiftCmdl_end left]
      exact .of_quiet (.bind (.usage _) fun _ _ => .pure _)
  | cons ifname rest =>
      by_cases index : env.ifNameToIndex ifname = 0
      · simp only [readPort, shiftCmdl_left left, index, if_true]
        exact .of_quiet (.bind (.report _) fun _ _ => .pure _)
      · rw [readPort_found left index]
        exact holds ifname rest rfl index

theorem cmdVlanAttach_run (help : Usage) {options : List Str} (vid : g.vid ≠ 0) (left : cmdl.left = ifname :: options)
    (index : env.ifNameToIndex ifname ≠ 0) (tagged : ∀ w ∈ options, w <+: "tagged".toList) :
    cmdVlanAttach env g help cmdl = sendVlan env g .vlanAttach
      { vid := some g.vid, tagged := some (if options = [] then 0 else 1),
        port := some (env.ifNameToIndex ifname) } := by
  have next := Cmdl.left_next left
  have items : Items vlanAttachOpts cmdl.next.left (options.map fun w => (0, w)) := by
    rw [next]
    exact items_tagged tagged
  have counted : ¬ (((options.map fun w => ((0 : Nat), w)).length : Int) < 0) := by omega
  have given :
      (if hasOpt (stored vlanAttachOpts (options.map fun w => (0, w))) "tagged".toList = true then (1 : BitVec 32)
        else 0) = if options = [] then 0 else 1 := by
    rw [hasOpt_tagged]
    cases options with
    | nil => rfl
    | cons w rest => rfl
  unfold cmdVlanAttach needVid
  rw [if_neg vid, readPort_found left index, parseOpts_of_items items, Logged.bind_ok rfl]
  simp only [counted, if_false, given]
  rfl

/-- The bridge that `-i` names exists. -/
structure OnBridge (net : Net τ) (brindex : BitVec 32) (dev : Dev) (ubr : Ubr τ) : Prop where
  index : brindex ≠ 0
  named : net.byIndex brindex = some dev
  bridge : net.ubrs dev = some ubr

theorem bridgeOf_vlanMsg (family : Int) (on : OnBridge net g.brindex dev ubr) (cmd : UbrNlCmd) (vlan : VlanAttrs) :
    net.bridgeOf (vlanMsg g cmd family vlan).request.info = some (dev, ubr) := by
  have index : (vlanMsg g cmd family vlan).request.info.ifindex = some g.brindex := if_pos on.index
  simp [Net.bridgeOf, index, on.named, on.bridge]

theorem order_attach {ifindex tagged : BitVec 32} {vid : Vid} {port : Dev} (named : net.byIndex ifindex = some port) :
    net.order (vlanMsg g .vlanAttach family { vid := some vid, tagged := some tagged, port := some ifindex }).request =
      some (.vlanAttach vid port tagged) := by
  change (net.byIndex ifindex).map (fun port => Event.vlanAttach vid port tagged) = _
  rw [named]
  rfl

theorem order_detach {ifindex : BitVec 32} {vid : Vid} {port : Dev} (named : net.byIndex ifindex = some port) :
    net.order (vlanMsg g .vlanDetach family { vid := some vid, port := some ifindex }).request =
      some (.vlanDetach vid port) := by
  change (net.byIndex ifindex).map (fun port => Event.vlanDetach vid port) = _
  rw [named]
  rfl

variable [Jiffies τ]

theorem ordered_handled {cmd : UbrNlCmd} {vlan : VlanAttrs} {e : Event} {s : Sys τ} {o : Outcome}
    (on : OnBridge net g.brindex dev ubr) (other : cmd ≠ .portSet)
    (order : net.order (vlanMsg g cmd family vlan).request = some e) (done : (net.sys ubr).exec cfg e = .ok (s, o)) :
    genlRcvMsg cfg net true (vlanMsg g cmd family vlan).request = .ok (net.setUbr dev s.ubr, o.ret) := by
  have leaks : net.leak (vlanMsg g cmd family vlan).request = none := by
    cases cmd with
    | portSet => exact absurd rfl other
    | _ => rfl
  rw [genlRcvMsg_order (bridgeOf_vlanMsg family on cmd vlan) order, done, leaks]
  rfl

/-- Words that mean an event make the kernel execute it. -/
theorem typed_runs (links : NlMsg → Net τ → Except Fault (Net τ)) (caller : Usage) {e : Event} {s : Sys τ} {o : Outcome}
    (connected : Connected env family) (acks : Acknowledges cfg env net) (on : OnBridge net g.brindex dev ubr)
    (vid : g.vid ≠ 0) (left : cmdl.left = words) (typed : Typed env net g.vid words e)
    (done : (net.sys ubr).exec cfg e = .ok (s, o)) :
    kernelRun cfg links (runCmd caller (vlanCmds env) g cmdl).log net = .ok (net.setUbr dev s.ubr) ∧
      (runCmd caller (vlanCmds env) g cmdl).res = .ok (if o.ret.toBool then 0 else -1) := by
  have checked (help : Usage) (command : Tool Int) : needVid g help command = command := by
    simp only [needVid, vid, if_false]
  cases typed with
  | add command =>
      have found : findCmd (vlanCmds env) _ = some ⟨"add".toList, cmdVlanAdd env, .vlanAdd⟩ :=
        findCmd_vlanCmds.mpr ⟨by simp [vlanCmds], command⟩
      rw [runCmd_found g left found]
      simp only [cmdVlanAdd, checked]
      exact sendVlan_handled connected acks (ordered_handled on (by simp) rfl done)
  | del command =>
      have found : findCmd (vlanCmds env) _ = some ⟨"del".toList, cmdVlanDel env, .vlanDel⟩ :=
        findCmd_vlanCmds.mpr ⟨by simp [vlanCmds], command⟩
      rw [runCmd_found g left found]
      simp only [cmdVlanDel, checked]
      exact sendVlan_handled connected acks (ordered_handled on (by simp) rfl done)
  | attach command index named tagged =>
      have found : findCmd (vlanCmds env) _ = some ⟨"attach".toList, cmdVlanAttach env, .vlanAttach⟩ :=
        findCmd_vlanCmds.mpr ⟨by simp [vlanCmds], command⟩
      have run := cmdVlanAttach_run .vlanAttach vid (Cmdl.left_next left) index tagged
      rw [runCmd_found g left found]
      simp only [run]
      exact sendVlan_handled connected acks (ordered_handled on (by simp) (order_attach named) done)
  | detach command index named =>
      have found : findCmd (vlanCmds env) _ = some ⟨"detach".toList, cmdVlanDetach env, .vlanDetach⟩ :=
        findCmd_vlanCmds.mpr ⟨by simp [vlanCmds], command⟩
      rw [runCmd_found g left found]
      simp only [cmdVlanDetach, checked, readPort_found (Cmdl.left_next left) index]
      exact sendVlan_handled connected acks (ordered_handled on (by simp) (order_detach named) done)

omit [Jiffies τ] in
/-- A setting of a VLAN is printed, and that is all. -/
theorem set_handled (on : OnBridge net g.brindex dev ubr) (vid : Vid) (learning : Option (BitVec 32)) :
    genlRcvMsg cfg net true (vlanMsg g .vlanSet family { vid := some vid, learning }).request = .ok (net, .ok ()) := by
  have named := bridgeOf_vlanMsg family on .vlanSet { vid := some vid, learning }
  rw [genlRcvMsg_eq]
  change ubrVlanNlSetCmd net (vlanMsg g .vlanSet family { vid := some vid, learning }).request.info = _
  have parsed : (vlanMsg g .vlanSet family { vid := some vid, learning }).request.info.vid = .ok vid := rfl
  rw [ubrVlanNlSetCmd_eq, parsed, named]
  rfl

omit [Jiffies τ] in
theorem unknown_handled {ifindex : BitVec 32} {cmd : UbrNlCmd} (on : OnBridge net g.brindex dev ubr)
    (membership : cmd = .vlanAttach ∨ cmd = .vlanDetach) (missing : net.byIndex ifindex = none) (vid : Vid)
    (tagged : Option (BitVec 32)) :
    genlRcvMsg cfg net true (vlanMsg g cmd family { vid := some vid, tagged, port := some ifindex }).request =
      .ok (net, .error .einval) := by
  have named := bridgeOf_vlanMsg family on cmd { vid := some vid, tagged, port := some ifindex }
  have wanted : (vlanMsg g cmd family { vid := some vid, tagged, port := some ifindex }).request.info.membership =
      .ok (vid, ifindex, tagged.getD 0) := rfl
  have alone (run : Ubr τ → Vid → Dev → BitVec 32 → Except Fault (Ubr τ × Ret)) :
      net.commandOn (vlanMsg g cmd family { vid := some vid, tagged, port := some ifindex }).request.info run =
        .ok (net, .error .einval) := by
    simp only [Net.commandOn, Net.command, named, wanted, missing]
    exact commanded_same on.bridge _
  rw [genlRcvMsg_eq]
  rcases membership with rfl | rfl
  · exact (ubrVlanNlAttachCmd_eq net _).trans (alone _)
  · exact (ubrVlanNlDetachCmd_eq net _).trans (alone _)

omit [Jiffies τ] in
theorem untyped_runs {caller : Usage} (connected : Connected env family) (acks : Acknowledges cfg env net)
    (on : OnBridge net g.brindex dev ubr) (vid : g.vid ≠ 0) (left : cmdl.left = words)
    (untyped : ∀ e, ¬ Typed env net g.vid words e) :
    LeavesAlone cfg links net (runCmd caller (vlanCmds env) g cmdl) := by
  have checked (help : Usage) (command : Tool Int) : needVid g help command = command := by
    simp only [needVid, vid, if_false]
  cases words with
  | nil =>
      rw [runCmd_end g left]
      rfl
  | cons word rest =>
      cases found : findCmd (vlanCmds env) word with
      | none =>
          rw [runCmd_missing g left found]
          cases g.helpFlag <;> rfl
      | some cmd =>
          obtain ⟨known, command⟩ := findCmd_vlanCmds.mp found
          rw [runCmd_found g left found]
          simp only [vlanCmds, List.mem_cons, List.not_mem_nil, or_false] at known
          rcases known with rfl | rfl | rfl | rfl | rfl
          · exact absurd (.add command) (untyped _)
          · exact absurd (.del command) (untyped _)
          · have next := Cmdl.left_next left
            simp only [cmdVlanAttach, checked]
            apply readPort_alone next
            rintro ifname options rfl index
            apply LeavesAlone.bind (parseOpts_quiet _ _)
            intro out parsed
            split
            · exact .of_quiet (.refuse g _ _)
            · rename_i counted
              cases named : net.byIndex (env.ifNameToIndex ifname) with
              | none => exact (sendVlan_handled connected acks (unknown_handled on (.inl rfl) named g.vid _)).1
              | some port =>
                  rcases stumbles_tagged options with tagged | stumbles
                  · exact absurd (.attach command index named tagged) (untyped _)
                  · rw [← Cmdl.left_next next] at stumbles
                    obtain ⟨bad, table, optind, run, _⟩ := parseOpts_of_stumbles stumbles
                    rw [run] at parsed
                    cases parsed
                    have negative : (-einval : Int) < 0 := by decide
                    exact absurd negative counted
          · have next := Cmdl.left_next left
            simp only [cmdVlanDetach, checked]
            apply readPort_alone next
            rintro ifname rest rfl index
            cases named : net.byIndex (env.ifNameToIndex ifname) with
            | none => exact (sendVlan_handled connected acks (unknown_handled on (.inr rfl) named g.vid none)).1
            | some port => exact absurd (.detach command index named) (untyped _)
          · simp only [cmdVlanSet, checked]
            apply LeavesAlone.bind (parseOpts_quiet _ _)
            intro out _
            split
            · exact .of_quiet (.refuse g _ _)
            · exact (sendVlan_handled connected acks (set_handled on g.vid _)).1

end Commands

section Main

variable {τ : Type} [Jiffies τ] {cfg : Config} {env : ToolEnv} {args : List Str} {prog s : Str} {words : List Str}
  {family : Int} {net : Net τ} {dev : Dev} {ubr : Ubr τ} {links : NlMsg → Net τ → Except Fault (Net τ)}

/-- The command line is `vlan VID` with a VLAN in decimal and these words behind it, for a
    bridge that exists, without `-h`. -/
structure VlanLine (env : ToolEnv) (args : List Str) (s : Str) (words : List Str) (net : Net τ) (dev : Dev)
    (ubr : Ubr τ) : Prop where
  valid : .invalid ∉ (scanned env args).found
  noHelp : ¬ AsksForHelp env args
  names : NamesVlan env args s words
  legal : LegalVid s
  bridge : OnBridge net (bridgeIndex env args) dev ubr

omit [Jiffies τ] in
theorem VlanLine.reaches (line : VlanLine env args s words net dev ubr) (prog : Str) :
    ∃ (g : Globals) (cmdl : Cmdl), g.brindex = bridgeIndex env args ∧ g.vid = BitVec.ofNat 16 (value s) ∧ g.vid ≠ 0 ∧
      cmdl.left = words ∧ ubrMain env prog args = exitOf (runCmd .vlan (vlanCmds env) g cmdl) := by
  have converts := converts_of_legal line.legal
  obtain ⟨cmdl, left, main⟩ := ubrMain_vlan prog line.valid line.noHelp line.bridge.index line.names
  rw [if_pos converts] at main
  exact ⟨{ mainGlobals env args false with vid := vidOperand s }, cmdl, rfl, vidOperand_of_legal line.legal,
    vidOperand_ne_zero converts, left, main⟩

/-- The kernel executes the event that the words behind `vlan VID` mean, and the exit status
    says how that went; words that mean no event leave every bridge alone. -/
theorem vlan_commands_do_as_typed (line : VlanLine env args s words net dev ubr) (connected : Connected env family)
    (acks : Acknowledges cfg env net) :
    (∀ e sys o, Typed env net (BitVec.ofNat 16 (value s)) words e → (net.sys ubr).exec cfg e = .ok (sys, o) →
      kernelRun cfg links (ubrMain env prog args).log net = .ok (net.setUbr dev sys.ubr) ∧
        (ubrMain env prog args).res = .ok (if o.ret.toBool then 0 else 1)) ∧
    ((∀ e, ¬ Typed env net (BitVec.ofNat 16 (value s)) words e) →
      kernelRun cfg links (ubrMain env prog args).log net = .ok net) := by
  obtain ⟨g, cmdl, index, vid, nonzero, left, main⟩ := line.reaches prog
  have on : OnBridge net g.brindex dev ubr := index ▸ line.bridge
  rw [main, exitOf_log, exitOf_res, ← vid]
  constructor
  · intro e sys o typed done
    obtain ⟨handled, res⟩ := typed_runs links .vlan connected acks on nonzero left typed done
    refine ⟨handled, ?_⟩
    rw [res]
    cases o.ret.toBool <;> rfl
  · exact untyped_runs connected acks on nonzero left

end Main

section Plays

theorem portEnv_connected (net : Net Nat) : Connected (portEnv net) 20 := ⟨rfl, rfl, by decide, fun _ => rfl⟩

/-- Two abbreviations. -/
def attachTagged : List Str := ["vlan".toList, "10".toList, "att".toList, "eth0".toList, "tag".toList]

/-- The port `eth0` joins VLAN 10 as a tagged member. -/
theorem vlan_commands_do_as_typed_attach : ∃ net ubr sys o, Reachable (bridges Nat x86) net ∧ net.ubrs 1000 = some ubr ∧
    (net.sys ubr).exec x86 (.vlanAttach 10 1 1) = .ok (sys, o) ∧ o.ret.toBool = true ∧
    kernelRun x86 (fun _ net => .ok net) (ubrMain (portEnv net) "ubr".toList attachTagged).log net =
      .ok (net.setUbr 1000 sys.ubr) ∧ (ubrMain (portEnv net) "ubr".toList attachTagged).res = .ok 0 := by
  obtain ⟨tr, net, run, test⟩ := run_loaded x86 (fun _ _ => True)
    (onePort ++ [.request true ⟨.vlanAdd, { ifindex := some 1000, vlan := some (.ok { vid := some 10 }) }, false⟩])
    (fun _ net => net.byIndex 1000 == some 1000 && net.byIndex 1 == some 1 && (net.ubrs 1000).any fun ubr =>
      ((net.sys ubr).exec x86 (.vlanAttach 10 1 1)).toOption.any fun out => out.2.ret.toBool) (by decide +kernel)
  simp only [Bool.and_eq_true, beq_iff_eq, Option.any_eq_true] at test
  obtain ⟨⟨bridge, port⟩, ubr, here, ⟨sys, o⟩, executed, succeeded⟩ := test
  have executed := ok_of_toOption executed
  have ten : value "10".toList = 10 := rfl
  have legal : LegalVid "10".toList := ⟨⟨by simp, by simp⟩, by omega, by omega⟩
  have noHelp : ¬ AsksForHelp (portEnv net) attachTagged := by
    rintro ⟨arg, inside⟩
    cases inside
  have index : bridgeIndex (portEnv net) attachTagged = 1000 := rfl
  have on : OnBridge net (bridgeIndex (portEnv net) attachTagged) 1000 ubr :=
    ⟨by rw [index]; decide, by rw [index]; exact bridge, here⟩
  have line :
      VlanLine (portEnv net) attachTagged "10".toList ["att".toList, "eth0".toList, "tag".toList] net 1000 ubr :=
    ⟨List.not_mem_nil, noHelp, ⟨"vlan".toList, rfl, by simp, List.prefix_rfl⟩, legal, on⟩
  have command : Abbreviates vlanNames "att".toList "attach".toList := by
    unfold Abbreviates
    decide
  have eth0 : (portEnv net).ifNameToIndex "eth0".toList = 1 := rfl
  have typed : Typed (portEnv net) net (BitVec.ofNat 16 (value "10".toList)) ["att".toList, "eth0".toList, "tag".toList]
      (.vlanAttach 10 1 1) :=
    .attach command (by rw [eth0]; decide) port (by decide)
  have does : kernelRun x86 (fun _ net => .ok net) (ubrMain (portEnv net) "ubr".toList attachTagged).log net =
        .ok (net.setUbr 1000 sys.ubr) ∧
      (ubrMain (portEnv net) "ubr".toList attachTagged).res = .ok (if o.ret.toBool then 0 else 1) :=
    (vlan_commands_do_as_typed line (portEnv_connected net) (portEnv_acknowledges net)).1 _ sys o typed executed
  obtain ⟨handled, res⟩ := does
  rw [if_pos succeeded] at res
  exact ⟨net, ubr, sys, o, ⟨tr, run⟩, here, executed, succeeded, handled, res⟩

end Plays

end UnassumingBridge
