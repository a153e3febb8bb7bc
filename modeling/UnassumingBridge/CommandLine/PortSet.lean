import UnassumingBridge.CommandLine.Words
import UnassumingBridge.Network.References
import UnassumingBridge.Network.Requests

/-! # Setting up a port

From the words that follow `port IFNAME set` to the port's slot in the kernel. The
tool converts the value of the option without looking at it, and what it does not send
the kernel takes for 0.
-/

namespace UnassumingBridge

open Support Numeral

section Words

/-- The values given to the option `pvid`, whose name may be abbreviated; `none` in the list is
    a value that is missing. There is no list when a word is taken for another option. -/
def pvidValues : List Str → Option (List (Option Str))
  | [] => some []
  | [key] => if key <+: "pvid".toList then some [none] else none
  | key :: val :: rest =>
      if key <+: "pvid".toList then (pvidValues rest).map (some val :: ·) else none

/-- `none`, or a VID in decimal. -/
def LegalPvid (s : Str) : Prop := s = "none".toList ∨ IsNumeral s ∧ 1 ≤ value s ∧ value s ≤ 4095

/-- The PVID that a legal value means. -/
def pvidMeant (s : Str) : Vid := if s = "none".toList then 0 else BitVec.ofNat 16 (value s)

/-- The value in the table of options after the parser has gone through the words. -/
def lastValue (values : List (Option Str)) (before : Option Str) : Option Str := values.getLast?.getD before

/-- What the command sends for a value. -/
def sentPvid (val : Option Str) : Option Vid :=
  val.bind fun s => if atoi s ≠ -1 then some ((atoi s).setWidth 16) else none

theorem sentPvid_of_legal {s : Str} (legal : LegalPvid s) : sentPvid (some s) = some (pvidMeant s) := by
  rcases legal with rfl | ⟨numeral, least, most⟩
  · decide
  · have word : s ≠ "none".toList := by
      rintro rfl
      exact absurd (numeral.2 'n' (by decide)) (by decide)
    have converted := atoi_of_isNumeral numeral (by omega)
    have regular : BitVec.ofNat 32 (value s) ≠ -1 := by
      intro same
      have same := congrArg BitVec.toNat same
      have minus : (-1 : BitVec 32).toNat = 2 ^ 32 - 1 := by decide
      rw [minus, BitVec.toNat_ofNat, Nat.mod_eq_of_lt (by omega)] at same
      omega
    simp only [sentPvid, Option.bind_some, converted, regular, ne_eq, not_false_eq_true, if_true, pvidMeant, word,
      if_false]
    congr 1
    apply BitVec.eq_of_toNat_eq
    simp

/-- The table of options with a value for `pvid`. -/
def portSetTable (val : Option Str) : List Opt := [{ key := "pvid".toList, flag := .keyval, val }]

private theorem findOpt_pvid (val : Option Str) (word : Str) :
    findOpt (portSetTable val) word = if word <+: "pvid".toList then some 0 else none := by
  simp [findOpt, findPrefix, portSetTable]

private theorem flag_pvid (val : Option Str) : ((portSetTable val)[0]?).map Opt.flag = some .keyval := rfl

private theorem modify_pvid (val val' : Option Str) :
    ((portSetTable val).modify 0 fun o => { o with val := val' }) = portSetTable val' := rfl

theorem parseLoop_pvid (words : List Str) (before : Option Str) (optind : Nat) (cnt : Int) :
    (pvidValues words = none →
      ∃ opts optind', (parseLoop words (portSetTable before) optind cnt).res = .ok (-einval, opts, optind')) ∧
      ∀ values, pvidValues words = some values → ∃ optind',
        (parseLoop words (portSetTable before) optind cnt).res =
          .ok (cnt + values.length, portSetTable (lastValue values before), optind') := by
  fun_induction pvidValues words generalizing before optind cnt with
  | case1 => simp [parseLoop, lastValue]
  | case2 key abbreviated =>
      have found : findOpt (portSetTable before) key = some 0 := by rw [findOpt_pvid, if_pos abbreviated]
      simp [parseLoop, found, flag_pvid, modify_pvid, lastValue]
  | case3 key other =>
      have missing : findOpt (portSetTable before) key = none := by rw [findOpt_pvid, if_neg other]
      simp only [parseLoop, missing, reduceCtorEq, false_imp_iff, implies_true, and_true]
      exact fun _ => ⟨_, _, rfl⟩
  | case4 key val rest abbreviated ih =>
      have found : findOpt (portSetTable before) key = some 0 := by rw [findOpt_pvid, if_pos abbreviated]
      have step : parseLoop (key :: val :: rest) (portSetTable before) optind cnt =
          parseLoop rest (portSetTable (some val)) (optind + 2) (cnt + 1) := by
        simp only [parseLoop, found, flag_pvid, modify_pvid]
      obtain ⟨refused, accepted⟩ := ih (some val) (optind + 2) (cnt + 1)
      rw [step]
      refine ⟨fun none => refused (by simpa using none), fun values some_values => ?_⟩
      obtain ⟨values, inner, rfl⟩ := Option.map_eq_some_iff.mp some_values
      obtain ⟨optind', res⟩ := accepted values inner
      refine ⟨optind', ?_⟩
      have last : lastValue (some val :: values) before = lastValue values (some val) := by
        cases values with
        | nil => rfl
        | cons v rest => simp [lastValue, List.getLast?_cons]
      rw [res, last]
      simp only [List.length_cons, Nat.cast_add, Nat.cast_one]
      congr 2
      omega
  | case5 key val rest other =>
      have missing : findOpt (portSetTable before) key = none := by rw [findOpt_pvid, if_neg other]
      simp only [parseLoop, missing, reduceCtorEq, false_imp_iff, implies_true, and_true]
      exact fun _ => ⟨_, _, rfl⟩

end Words

section Kernel

variable {τ : Type}

/-- A request of the tool as the family's handlers get it. -/
def GenlMsg.request (msg : GenlMsg) : Request where
  cmd := msg.cmd
  info := { ifindex := msg.ifindex, vlan := msg.vlan.map .ok, port := msg.port.map .ok }

/-- What the kernel makes of the requests of a run, one after the other. Those on links are
    handled by the rest of the kernel, and the controller changes nothing. -/
def kernelRun (cfg : Config) (links : NlMsg → Net τ → Except Fault (Net τ)) :
    List ToolEvent → Net τ → Except Fault (Net τ)
  | [], net => .ok net
  | .send (.genl msg) :: rest, net => do
      let (net, _) ← genlRcvMsg cfg net true msg.request
      kernelRun cfg links rest net
  | .send .getFamily :: rest, net => kernelRun cfg links rest net
  | .send msg :: rest, net => do
      let net ← links msg net
      kernelRun cfg links rest net
  | _ :: rest, net => kernelRun cfg links rest net

/-- What comes back for the error code of a handler. -/
def answerOf : Ret → Reply
  | .ok _ => .ack
  | .error _ => .refused

/-- Netlink answers a request that was handled with its error code. -/
def Acknowledges (cfg : Config) (env : ToolEnv) (net : Net τ) : Prop :=
  ∀ msg net' ret, genlRcvMsg cfg net true msg.request = .ok (net', ret) → env.replies (.genl msg) = [answerOf ret]

variable {cfg : Config} {links : NlMsg → Net τ → Except Fault (Net τ)}

/-- Requests that change nothing can be left out. -/
theorem kernelRun_quiet_append {first : List ToolEvent} (quiet : ∀ msg, .send msg ∈ first → msg.changes = false)
    (rest : List ToolEvent) (net : Net τ) :
    kernelRun cfg links (first ++ rest) net = kernelRun cfg links rest net := by
  induction first with
  | nil => rfl
  | cons e first ih =>
      have later := ih fun msg inside => quiet msg (List.mem_cons_of_mem _ inside)
      cases e with
      | usage help => exact later
      | report what => exact later
      | send msg =>
          have harmless := quiet msg List.mem_cons_self
          cases msg with
          | getFamily => exact later
          | newlink ifname kind => cases harmless
          | dellink ifname kind => cases harmless
          | setlink ifindex kind master => cases harmless
          | genl msg => cases harmless

theorem kernelRun_quiet {log : List ToolEvent} (quiet : ∀ msg, .send msg ∈ log → msg.changes = false) (net : Net τ) :
    kernelRun cfg links log net = .ok net := by
  have all : kernelRun cfg links (log ++ []) net = kernelRun cfg links [] net := kernelRun_quiet_append quiet [] net
  rwa [List.append_nil] at all

end Kernel

section Command

variable {env : ToolEnv} {args : List Str} {ifname : Str} {words : List Str}

/-- The tool's command line is `port IFNAME set` with these words behind it. -/
def SetsPort (env : ToolEnv) (args : List Str) (ifname : Str) (words : List Str) : Prop :=
  (scanned env args).operands = "port".toList :: ifname :: "set".toList :: words

/-- The globals when the command is reached. -/
def globalsFor (env : ToolEnv) (args : List Str) (ifname : Str) : Globals where
  bridge := bridgeNamed (scanned env args).found "ubr0".toList
  brindex := bridgeIndex env args
  ifname := some ifname
  ifindex := env.ifNameToIndex ifname

/-- The message of the command. -/
def portSetMsg (env : ToolEnv) (args : List Str) (ifname : Str) (pvid : Option Vid) (family : Int) : GenlMsg :=
  { blankMsg (globalsFor env args ifname) .portSet family with
    port := some { ifindex := some (env.ifNameToIndex ifname), pvid } }

theorem findCmd_set : findCmd (portCmds env) "set".toList = some ⟨"set".toList, cmdPortSet env, .portSet⟩ := by
  rfl

theorem cmdPort_set (env : ToolEnv) (g : Globals) (help : Usage) {cmdl : Cmdl} (noHelp : g.helpFlag = false)
    (left : cmdl.left = ifname :: "set".toList :: words) (port : env.ifNameToIndex ifname ≠ 0) :
    ∃ cmdl' : Cmdl, cmdl'.left = words ∧
      cmdPort env g help cmdl =
        cmdPortSet env { g with ifname := some ifname, ifindex := env.ifNameToIndex ifname } .portSet cmdl' := by
  have next := Cmdl.left_next left
  refine ⟨cmdl.next.next, Cmdl.left_next next, ?_⟩
  simp only [cmdPort, noHelp, Bool.false_eq_true, if_false, shiftCmdl_left left, port]
  rw [runCmd_found _ next findCmd_set]

theorem ubrMain_set (prog : Str) (sets : SetsPort env args ifname words) (valid : .invalid ∉ (scanned env args).found)
    (noHelp : ¬ AsksForHelp env args) (bridge : bridgeIndex env args ≠ 0) (port : env.ifNameToIndex ifname ≠ 0) :
    ∃ cmdl : Cmdl, cmdl.left = words ∧
      ubrMain env prog args = exitOf (cmdPortSet env (globalsFor env args ifname) .portSet cmdl) := by
  obtain ⟨cmdl, left, main⟩ := ubrMain_bridge prog valid noHelp bridge sets (findCmd_port ⟨by simp, List.prefix_rfl⟩)
  obtain ⟨cmdl', left', set⟩ := cmdPort_set env (mainGlobals env args false) .port rfl left port
  refine ⟨cmdl', left', ?_⟩
  exact main.trans (congrArg exitOf set)

theorem portCmds_refuse {g : Globals} (noPort : g.ifname = none) (cmd : Cmd) (inside : cmd ∈ portCmds env)
    (cmdl : Cmdl) : (cmd.func g cmd.help cmdl).res = .ok (-einval) := by
  have nobody : g.ifname.isNone = true := by rw [noPort]; rfl
  have refused (help : Usage) : (do
      if g.helpFlag then Logged.emit (.usage help)
      pure (-einval) : Tool Int).res = .ok (-einval) := by
    cases g.helpFlag <;> rfl
  simp only [portCmds, List.mem_cons, List.not_mem_nil, or_false] at inside
  rcases inside with rfl | rfl | rfl
  · simp only [cmdPortAttach, nobody, if_true]
    exact refused _
  · simp only [cmdPortDetach, nobody, if_true]
    exact refused _
  · obtain ⟨out, parsed⟩ := parseLoop_ends cmdl.left portSetOpts cmdl.optind 0
    simp only [cmdPortSet]
    rw [Logged.bind_ok (parseOpts_res parsed)]
    simp only [nobody, or_true, if_true]
    exact refused _

theorem port_help_refused {prog : Str} (sets : SetsPort env args ifname words)
    (valid : .invalid ∉ (scanned env args).found)
    (asks : AsksForHelp env args) : Refused (ubrMain env prog args) := by
  refine ⟨(help_is_quiet_iff asks).mpr ?_, ?_⟩
  · rintro ⟨_, ⟨fdb, _, _, same, _, abbreviated, _⟩, _⟩
    rw [sets] at same
    cases same
    revert abbreviated
    decide
  obtain ⟨cmdl, left, main⟩ := ubrMain_help prog valid asks
  rw [sets] at left
  have next := Cmdl.left_next left
  set g := mainGlobals env args true with globals
  have failed : (cmdPort env g .port cmdl.next).res = .ok (-einval) := by
    have flag : g.helpFlag = true := rfl
    simp only [cmdPort, flag, if_true]
    cases found : findCmd (portCmds env) ifname with
    | none => rw [runCmd_missing g next found]
    | some cmd =>
        rw [runCmd_found g next found]
        exact portCmds_refuse rfl cmd (mem_of_findCmd found) _
  refine ⟨1, ?_, by decide⟩
  rw [main, runCmd_found g left (findCmd_port ⟨by simp, List.prefix_rfl⟩), exitOf_res, failed]
  rfl

section Sending

variable {g : Globals} {help : Usage} {cmdl : Cmdl}

theorem pvidAttr_table (val : Option Str) : pvidAttr (portSetTable val) = sentPvid val := by
  cases val with
  | none => rfl
  | some s => simp [pvidAttr, getOpt, portSetTable, sentPvid]

/-- The attribute that the command sends for its words. -/
def sentFor (words : List Str) : Option Vid := (pvidValues words).bind fun values => sentPvid (lastValue values none)

/-- The command from the point where the message has been begun. -/
def sendPortSet (env : ToolEnv) (g : Globals) (words : List Str) : Option GenlMsg → Tool Int
  | none => do
      Logged.emit (.report .initFailed)
      pure (-1)
  | some msg => msgDoit env { msg with port := some { ifindex := some g.ifindex, pvid := sentFor words } }

theorem parseOpts_pvid (left : cmdl.left = words) :
    (pvidValues words = none → ∃ opts rest, (parseOpts portSetOpts cmdl).res = .ok (-einval, opts, rest)) ∧
      ∀ values, pvidValues words = some values → ∃ (cnt : Nat) (rest : Cmdl),
        (parseOpts portSetOpts cmdl).res = .ok (cnt, portSetTable (lastValue values none), rest) := by
  have both := parseLoop_pvid words none cmdl.optind 0
  rw [← left] at both ⊢
  constructor
  · intro refused
    obtain ⟨opts, optind', parsed⟩ := both.1 refused
    exact ⟨_, _, parseOpts_res parsed⟩
  · intro values taken
    obtain ⟨optind', parsed⟩ := both.2 values taken
    rw [Int.zero_add] at parsed
    exact ⟨values.length, _, parseOpts_res parsed⟩

theorem cmdPortSet_refused (left : cmdl.left = words) (refused : pvidValues words = none) :
    Refused (cmdPortSet env g help cmdl) := by
  obtain ⟨opts, rest, parsed⟩ := (parseOpts_pvid left).1 refused
  have failed : (-einval : Int) < 0 := by decide
  refine ⟨.bind (parseOpts_quiet _ _) fun out res => ?_, -einval, ?_, by decide⟩
  · cases parsed.symm.trans res
    simp only [failed, true_or, if_true]
    exact .refuse g help _
  · unfold cmdPortSet
    rw [Logged.bind_ok parsed]
    simp only [failed, true_or, if_true]
    cases g.helpFlag <;> rfl

theorem cmdPortSet_parsed (env : ToolEnv) (g : Globals) (help : Usage) {values : List (Option Str)}
    (left : cmdl.left = words) (taken : pvidValues words = some values) (port : g.ifname.isNone = false) :
    ∃ before : List ToolEvent, (∀ msg, .send msg ∈ before → msg.changes = false) ∧
      cmdPortSet env g help cmdl = ⟨before ++ (msgInit env g .portSet >>= sendPortSet env g words).log,
        (msgInit env g .portSet >>= sendPortSet env g words).res⟩ := by
  obtain ⟨cnt, rest, parsed⟩ := (parseOpts_pvid left).2 values taken
  refine ⟨(parseOpts portSetOpts cmdl).log, parseOpts_quiet _ _, ?_⟩
  have regular : ¬ ((cnt : Int) < 0) := by omega
  have sent : pvidAttr (portSetTable (lastValue values none)) = sentFor words := by
    rw [pvidAttr_table, sentFor, taken]
    rfl
  unfold cmdPortSet
  rw [Logged.bind_ok parsed]
  simp only [regular, port, Bool.false_eq_true, or_false, if_false, sent]
  rfl

/-- Nothing goes out when the message cannot be begun or the socket fails. -/
theorem sendPortSet_refused (kept : (msgInit env g .portSet).res = .ok none ∨ ∃ id,
      (msgInit env g .portSet).res = .ok (some (blankMsg g .portSet id)) ∧
        env.sendFails (.genl { blankMsg g .portSet id with
          port := some { ifindex := some g.ifindex, pvid := sentFor words } }) = true) :
    Refused (msgInit env g .portSet >>= sendPortSet env g words) := by
  have begun := msgInit_quiet env g .portSet
  rcases kept with none | ⟨id, some, fails⟩
  · refine ⟨.bind begun fun found res => ?_, -1, ?_, by decide⟩
    · cases none.symm.trans res
      exact .bind (.report _) fun _ _ => .pure _
    · rw [Logged.bind_ok none]
      rfl
  · refine ⟨.bind begun fun found res => ?_, -enotsup, ?_, by decide⟩
    · cases some.symm.trans res
      intro msg inside
      simp only [sendPortSet, msgDoit, msgQueryNoCb_log, fails, if_true] at inside
      simp at inside
    · rw [Logged.bind_ok some]
      exact msgQueryNoCb_fails fails

theorem cmdPortSet_kept {values : List (Option Str)} (left : cmdl.left = words) (taken : pvidValues words = some values)
    (port : g.ifname.isNone = false) (refused : Refused (msgInit env g .portSet >>= sendPortSet env g words)) :
    Refused (cmdPortSet env g help cmdl) := by
  obtain ⟨before, quiet, same⟩ := cmdPortSet_parsed env g help left taken port
  obtain ⟨silent, status, res, failed⟩ := refused
  rw [same]
  refine ⟨fun msg inside => ?_, status, res, failed⟩
  rcases List.mem_append.mp inside with first | second
  · exact quiet msg first
  · exact silent msg second

end Sending

end Command

section Claim

variable {τ : Type} {cfg : Config} {env : ToolEnv} {args : List Str} {ifname : Str} {words : List Str} {net : Net τ}
  {bridge : Dev} {ubr : Ubr τ} {slot : Pidx} {prog : Str} {links : NlMsg → Net τ → Except Fault (Net τ)}

/-- IFNAME is the port in this slot of the bridge that the options name. -/
structure IsPort (env : ToolEnv) (args : List Str) (ifname : Str) (net : Net τ) (bridge : Dev) (ubr : Ubr τ)
    (slot : Pidx) : Prop where
  bridge_index : bridgeIndex env args ≠ 0
  bridge_dev : net.byIndex (bridgeIndex env args) = some bridge
  bridge_ubr : net.ubrs bridge = some ubr
  port_index : env.ifNameToIndex ifname ≠ 0
  port : ∃ dev, net.byIndex (env.ifNameToIndex ifname) = some dev ∧ ubrPortFind ubr (some dev) = .ok slot

/-- The settings that the command is about. -/
def UbrPort.settings (p : UbrPort) : Vid × Option VlanRef × Bool :=
  (p.pvid, p.ingressCb.vlan, p.ingressCb.vlanFiltering)

/-- The command ends in an error and the port is as it was, or the port's PVID is what was typed. -/
def DoesAsTyped (cfg : Config) (links : NlMsg → Net τ → Except Fault (Net τ)) (net : Net τ) (bridge : Dev) (p : UbrPort)
    (slot : Pidx) (words : List Str) (run : Tool Int) : Prop :=
  ∃ net' ubr' status, kernelRun cfg links run.log net = .ok net' ∧ net'.ubrs bridge = some ubr' ∧ run.res = .ok status ∧
    (status ≠ 0 ∧ (ubr'.ports slot).settings = p.settings ∨
      ∃ typed : List Str, pvidValues words = some (typed.map some) ∧ (∀ s ∈ typed, LegalPvid s) ∧
        (ubr'.ports slot).pvid = (typed.getLast?.map pvidMeant).getD p.pvid)

/-- Every value is there and legal, and without one there is no PVID to lose. -/
def Meant (words : List Str) (p : UbrPort) : Prop :=
  ∃ typed : List Str, pvidValues words = some (typed.map some) ∧ (∀ s ∈ typed, LegalPvid s) ∧ (typed = [] → p.pvid = 0)

theorem doesAsTyped_of_refused {run : Tool Int} (here : net.ubrs bridge = some ubr) (refused : Refused run) :
    DoesAsTyped cfg links net bridge (ubr.ports slot) slot words run := by
  obtain ⟨quiet, status, res, failed⟩ := refused
  exact ⟨net, ubr, status, kernelRun_quiet quiet net, here, res, .inl ⟨failed, rfl⟩⟩

theorem sentFor_typed {typed : List Str} (taken : pvidValues words = some (typed.map some))
    (legal : ∀ s ∈ typed, LegalPvid s) : sentFor words = typed.getLast?.map pvidMeant := by
  rw [sentFor, taken]
  cases last : typed.getLast? with
  | none =>
      have empty := List.getLast?_eq_none_iff.mp last
      subst empty
      rfl
  | some s =>
      have inside := List.mem_of_getLast? last
      simp [lastValue, List.getLast?_map, last, sentPvid_of_legal (legal s inside)]

theorem portSet_handled (cfg : Config) (id : Int) (port : IsPort env args ifname net bridge ubr slot)
    (pvid : Option Vid) :
    (∀ vlan, ubrVlanFind cfg ubr (pvid.getD 0) = .ok vlan → ∃ net' ubr',
        genlRcvMsg cfg net true (portSetMsg env args ifname pvid id).request = .ok (net', .ok ()) ∧
          net'.ubrs bridge = some ubr' ∧ (ubr'.ports slot).pvid = pvid.getD 0) ∧
      ∀ f, ubrVlanFind cfg ubr (pvid.getD 0) = .error f →
        genlRcvMsg cfg net true (portSetMsg env args ifname pvid id).request = .error f := by
  obtain ⟨dev, looked, found⟩ := port.port
  set req := (portSetMsg env args ifname pvid id).request
  have index : req.info.ifindex = some (bridgeIndex env args) := if_pos port.bridge_index
  have settings : req.info.portSettings = .ok (pvid.getD 0, env.ifNameToIndex ifname) := rfl
  have leaked : net.leaked req.info = some dev := by
    simp [Net.leaked, settings, Except.toOption, looked]
  have named : (net.held (some dev)).bridgeOf req.info = some (bridge, ubr) := by
    rw [held_bridgeOf]
    simp [Net.bridgeOf, index, port.bridge_dev, port.bridge_ubr]
  have handled : genlRcvMsg cfg net true req =
      (net.held (some dev)).commanded bridge (ubrPortNlSet cfg ubr (some dev) (pvid.getD 0)) := by
    have command : req.cmd = .portSet := rfl
    rw [genlRcvMsg_eq]
    simp only [command, ubrPortNlSetCmd_eq, settings, leaked, Net.command, named]
  rw [handled]
  constructor
  · intro vlan walked
    simp only [ubrPortNlSet, found, walked, bind, Except.bind, Net.commanded]
    refine ⟨_, _, rfl, Function.update_self _ _ _, ?_⟩
    rw [Ubr.putPort_self]
  · intro f walked
    simp only [ubrPortNlSet, found, walked, bind, Except.bind, Net.commanded]

/-- The condition under which the command does as typed. -/
def PortSetHolds (cfg : Config) (env : ToolEnv) (args : List Str) (ifname : Str) (words : List Str) (ubr : Ubr τ)
    (slot : Pidx) : Prop :=
  .invalid ∈ (scanned env args).found ∨ AsksForHelp env args ∨ pvidValues words = none ∨ env.callocFails = true ∨
    ∃ id, (getFamily env).res = .ok id ∧
      (id ≤ 0 ∨ env.sendFails (.genl (portSetMsg env args ifname (sentFor words) id)) = true ∨
        Meant words (ubr.ports slot) ∧ ubr.readable cfg ((sentFor words).getD 0))

theorem ubrMain_sends (prog : Str) {values : List (Option Str)} (sets : SetsPort env args ifname words)
    (valid : .invalid ∉ (scanned env args).found) (noHelp : ¬ AsksForHelp env args)
    (port : IsPort env args ifname net bridge ubr slot) (taken : pvidValues words = some values) :
    let run := msgInit env (globalsFor env args ifname) .portSet >>= sendPortSet env (globalsFor env args ifname) words
    ∃ before : List ToolEvent, (∀ msg, .send msg ∈ before → msg.changes = false) ∧
      (ubrMain env prog args).log = before ++ run.log ∧
      (ubrMain env prog args).res = run.res.map fun res => if res ≠ 0 then 1 else 0 := by
  obtain ⟨cmdl, left, main⟩ := ubrMain_set prog sets valid noHelp port.bridge_index port.port_index
  obtain ⟨before, quiet, same⟩ := cmdPortSet_parsed env (globalsFor env args ifname) .portSet left taken rfl
  refine ⟨before, quiet, ?_, ?_⟩
  · rw [main, same, exitOf_log]
  · rw [main, same, exitOf_res]

/-- The message is sent: then the values decide, and the walk to the VLAN. -/
theorem port_set_sent_iff {values : List (Option Str)} {id : Int} (sets : SetsPort env args ifname words)
    (valid : .invalid ∉ (scanned env args).found) (noHelp : ¬ AsksForHelp env args)
    (port : IsPort env args ifname net bridge ubr slot) (acks : Acknowledges cfg env net)
    (taken : pvidValues words = some values)
    (begun : (msgInit env (globalsFor env args ifname) .portSet).res =
      .ok (some (blankMsg (globalsFor env args ifname) .portSet id)))
    (sends : env.sendFails (.genl (portSetMsg env args ifname (sentFor words) id)) = false) :
    DoesAsTyped cfg links net bridge (ubr.ports slot) slot words (ubrMain env prog args) ↔
      Meant words (ubr.ports slot) ∧ ubr.readable cfg ((sentFor words).getD 0) := by
  obtain ⟨before, quiet, log, res⟩ := ubrMain_sends prog sets valid noHelp port taken
  rw [Logged.bind_ok begun] at log res
  set msg := portSetMsg env args ifname (sentFor words) id with message
  have sent :
      sendPortSet env (globalsFor env args ifname) words (some (blankMsg (globalsFor env args ifname) .portSet id)) =
        msgDoit env msg := rfl
  have once : (msgDoit env msg).log = [.send (.genl msg)] := by
    simp [msgDoit, msgQueryNoCb_log, sends]
  have handled : kernelRun cfg links (ubrMain env prog args).log net = (do
      let (net, _) ← genlRcvMsg cfg net true msg.request
      .ok net) := by
    rw [log, kernelRun_quiet_append quiet, kernelRun_quiet_append (msgInit_quiet env _ _), sent, once]
    rfl
  obtain ⟨reads, crashes⟩ := portSet_handled cfg id port (sentFor words)
  unfold DoesAsTyped Ubr.readable
  rw [handled, res, sent]
  cases walked : ubrVlanFind cfg ubr ((sentFor words).getD 0) with
  | error f =>
      rw [crashes f walked]
      constructor
      · rintro ⟨_, _, _, crashed, _⟩
        cases crashed
      · rintro ⟨_, _, read⟩
        cases read
  | ok vlan =>
      obtain ⟨net', ubr', done, after, pvid⟩ := reads vlan walked
      have acked : (msgDoit env msg).res = .ok 0 := msgQueryNoCb_acked sends (acks msg net' (.ok ()) done)
      rw [done, acked]
      constructor
      · rintro ⟨net'', ubr'', status, same, after', exit, kept | ⟨typed, given, legal, last⟩⟩
        · cases exit
          exact absurd rfl kept.1
        · cases same
          cases after.symm.trans after'
          refine ⟨⟨typed, given, legal, ?_⟩, vlan, rfl⟩
          rintro rfl
          have sent := sentFor_typed given legal
          rw [pvid, sent] at last
          exact last.symm
      · rintro ⟨⟨typed, given, legal, nothing⟩, _⟩
        refine ⟨net', ubr', 0, rfl, after, rfl, .inr ⟨typed, given, legal, ?_⟩⟩
        rw [pvid, sentFor_typed given legal]
        cases last : typed.getLast? with
        | none => exact (nothing (List.getLast?_eq_none_iff.mp last)).symm
        | some s => rfl

/-- Setting up a port does what was typed if, and only if, one of the conditions holds. -/
theorem port_set_as_typed_iff (sets : SetsPort env args ifname words)
    (port : IsPort env args ifname net bridge ubr slot) (acks : Acknowledges cfg env net) :
    DoesAsTyped cfg links net bridge (ubr.ports slot) slot words (ubrMain env prog args) ↔
      PortSetHolds cfg env args ifname words ubr slot := by
  have refusal (refused : Refused (ubrMain env prog args)) (holds : PortSetHolds cfg env args ifname words ubr slot) :
      DoesAsTyped cfg links net bridge (ubr.ports slot) slot words (ubrMain env prog args) ↔
        PortSetHolds cfg env args ifname words ubr slot :=
    iff_of_true (doesAsTyped_of_refused port.bridge_ubr refused) holds
  by_cases invalid : .invalid ∈ (scanned env args).found
  · exact refusal (invalid_refused invalid) (.inl invalid)
  by_cases asks : AsksForHelp env args
  · exact refusal (port_help_refused sets invalid asks) (.inr (.inl asks))
  obtain ⟨cmdl, left, main⟩ := ubrMain_set prog sets invalid asks port.bridge_index port.port_index
  have refusedSet (refused : Refused (cmdPortSet env (globalsFor env args ifname) .portSet cmdl)) :
      Refused (ubrMain env prog args) := by
    rw [main]
    exact refused_of_command refused
  cases taken : pvidValues words with
  | none => exact refusal (refusedSet (cmdPortSet_refused left taken)) (.inr (.inr (.inl taken)))
  | some values =>
      have kept (refused : Refused (msgInit env (globalsFor env args ifname) .portSet >>=
          sendPortSet env (globalsFor env args ifname) words)) : Refused (ubrMain env prog args) :=
        refusedSet (cmdPortSet_kept left taken rfl refused)
      have begun := msgInit_res env (globalsFor env args ifname) .portSet
      cases memory : env.callocFails with
      | true =>
          rw [memory, if_pos rfl] at begun
          exact refusal (kept (sendPortSet_refused (.inl begun))) (.inr (.inr (.inr (.inl memory))))
      | false =>
          rw [memory] at begun
          simp only [Bool.false_eq_true, if_false] at begun
          cases known : (getFamily env).res with
          | error f =>
              rw [known] at begun
              obtain ⟨before, quiet, log, res⟩ := ubrMain_sends prog sets invalid asks port taken
              rw [Logged.bind_error begun] at res
              refine iff_of_false ?_ ?_
              · rintro ⟨_, _, _, _, _, ends, _⟩
                rw [res] at ends
                cases ends
              · simp [PortSetHolds, invalid, asks, taken, memory, known]
          | ok id =>
              rw [known] at begun
              simp only [Except.map] at begun
              have holds : PortSetHolds cfg env args ifname words ubr slot ↔ id ≤ 0 ∨
                  env.sendFails (.genl (portSetMsg env args ifname (sentFor words) id)) = true ∨
                    Meant words (ubr.ports slot) ∧ ubr.readable cfg ((sentFor words).getD 0) := by
                simp [PortSetHolds, invalid, asks, taken, memory, known]
              by_cases unknown : id ≤ 0
              · rw [if_pos unknown] at begun
                exact refusal (kept (sendPortSet_refused (.inl begun))) (holds.mpr (.inl unknown))
              rw [if_neg unknown] at begun
              cases sends : env.sendFails (.genl (portSetMsg env args ifname (sentFor words) id)) with
              | true =>
                  exact refusal (kept (sendPortSet_refused (.inr ⟨id, begun, sends⟩))) (holds.mpr (.inr (.inl sends)))
              | false =>
                  rw [holds, port_set_sent_iff sets invalid asks port acks taken begun sends]
                  simp [unknown, sends]

end Claim

section Plays

/-- The tool on a machine with the bridge and the port of `onePort`, where netlink passes the
    error codes of the handlers on. -/
def portEnv (net : Net Nat) : ToolEnv where
  ifNameToIndex name := if name = "ubr0".toList then 1000 else if name = "eth0".toList then 1 else 0
  replies
    | .getFamily => [.message [⟨1, 20⟩], .ack]
    | .genl msg =>
        match genlRcvMsg x86 net true msg.request with
        | .ok (_, ret) => [answerOf ret]
        | .error _ => []
    | _ => [.ack]

theorem portEnv_acknowledges (net : Net Nat) : Acknowledges x86 (portEnv net) net := by
  intro msg net' ret done
  simp only [portEnv, done]

theorem onePort_reachable : ∃ net ubr, Reachable (bridges Nat x86) net ∧ net.byIndex 1000 = some 1000 ∧
    net.ubrs 1000 = some ubr ∧ net.byIndex 1 = some 1 ∧ ubrPortFind ubr (some 1) = .ok 1 ∧ ubr.readable x86 10 := by
  obtain ⟨tr, net, run, test⟩ := run_loaded x86 (fun _ _ => True) onePort
    (fun _ net => net.byIndex 1000 == some 1000 && net.byIndex 1 == some 1 && (net.ubrs 1000).any fun ubr =>
      (ubrPortFind ubr (some 1)).toOption == some 1 && (ubrVlanFind x86 ubr 10).toOption.isSome) (by decide +kernel)
  simp only [Bool.and_eq_true, beq_iff_eq, Option.any_eq_true] at test
  obtain ⟨⟨bridge, port⟩, ubr, here, found, readable⟩ := test
  obtain ⟨vlan, walked⟩ := Option.isSome_iff_exists.mp readable
  exact ⟨net, ubr, ⟨tr, run⟩, bridge, here, port, ok_of_toOption found, vlan, ok_of_toOption walked⟩

/-- `ubr port eth0 set` with a value for the PVID. -/
def setPvid (val : String) : List Str := ["port".toList, "eth0".toList, "set".toList, "pvid".toList, val.toList]

theorem portEnv_isPort {net : Net Nat} {ubr : Ubr Nat} {slot : Pidx} {args : List Str}
    (plain : (scanned (portEnv net) args).found = []) (bridge : net.byIndex 1000 = some 1000)
    (here : net.ubrs 1000 = some ubr) (port : net.byIndex 1 = some 1) (found : ubrPortFind ubr (some 1) = .ok slot) :
    IsPort (portEnv net) args "eth0".toList net 1000 ubr slot := by
  have bridge_index : bridgeIndex (portEnv net) args = 1000 := by rw [bridgeIndex, plain]; rfl
  have port_index : (portEnv net).ifNameToIndex "eth0".toList = 1 := rfl
  exact ⟨by rw [bridge_index]; decide, by rw [bridge_index]; exact bridge, here, by rw [port_index]; decide,
    ⟨1, by rw [port_index]; exact port, found⟩⟩

/-- The PVID 10. -/
theorem port_set_as_typed_ten : ∃ net ubr, Reachable (bridges Nat x86) net ∧ net.ubrs 1000 = some ubr ∧
    DoesAsTyped x86 (fun _ net => .ok net) net 1000 (ubr.ports 1) 1 ["pvid".toList, "10".toList]
      (ubrMain (portEnv net) "ubr".toList (setPvid "10")) := by
  obtain ⟨net, ubr, reached, bridge, here, port, found, readable⟩ := onePort_reachable
  have ten : value "10".toList = 10 := rfl
  have legal : LegalPvid "10".toList := .inr ⟨⟨by simp, by simp⟩, by omega, by omega⟩
  have meant : Meant ["pvid".toList, "10".toList] (ubr.ports 1) :=
    ⟨["10".toList], by decide, by simpa using legal, fun none => by cases none⟩
  have sets : SetsPort (portEnv net) (setPvid "10") "eth0".toList ["pvid".toList, "10".toList] := rfl
  refine ⟨net, ubr, reached, here, ?_⟩
  exact (port_set_as_typed_iff sets (portEnv_isPort rfl bridge here port found) (portEnv_acknowledges net)).mpr
    (.inr (.inr (.inr (.inr ⟨20, rfl, .inr (.inr ⟨meant, readable⟩)⟩))))

/-- The value 65537 is taken for 1. -/
theorem port_set_wraps : ¬ ∀ (net : Net Nat) (ubr : Ubr Nat), Reachable (bridges Nat x86) net →
    ∀ env links prog args ifname words bridge slot, SetsPort env args ifname words →
      IsPort env args ifname net bridge ubr slot → Acknowledges x86 env net →
        DoesAsTyped x86 links net bridge (ubr.ports slot) slot words (ubrMain env prog args) := by
  intro claim
  obtain ⟨net, ubr, reached, bridge, here, port, found, readable⟩ := onePort_reachable
  have sets : SetsPort (portEnv net) (setPvid "65537") "eth0".toList ["pvid".toList, "65537".toList] := rfl
  have isPort := portEnv_isPort (rfl : (scanned (portEnv net) (setPvid "65537")).found = []) bridge here port found
  have acks := portEnv_acknowledges net
  have noHelp : ¬ AsksForHelp (portEnv net) (setPvid "65537") := by
    rintro ⟨arg, inside⟩
    cases inside
  have typed := claim net ubr reached (portEnv net) (fun _ net => .ok net) "ubr".toList _ _ _ 1000 1 sets isPort acks
  have taken : pvidValues ["pvid".toList, "65537".toList] = some (["65537".toList].map some) := by decide
  have begun : (msgInit (portEnv net) (globalsFor (portEnv net) (setPvid "65537") "eth0".toList) .portSet).res =
      .ok (some (blankMsg (globalsFor (portEnv net) (setPvid "65537") "eth0".toList) .portSet 20)) := rfl
  have sent := (port_set_sent_iff sets List.not_mem_nil noHelp isPort acks taken begun rfl).mp typed
  obtain ⟨⟨typed, given, legal, _⟩, _⟩ := sent
  rw [taken] at given
  have same := List.map_injective_iff.mpr (Option.some_injective _) (Option.some.inj given)
  subst same
  have wrong := legal _ List.mem_cons_self
  rcases wrong with word | ⟨_, _, most⟩
  · cases word
  · have value : value "65537".toList = 65537 := rfl
    omega

end Plays

end UnassumingBridge
