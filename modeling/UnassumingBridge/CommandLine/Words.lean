import UnassumingBridge.CommandLine.Help

/-! # From the entry to a command

How the words of a command line are passed on: `main` looks for the bridge and hands the
operands to the command that the first of them names, which reads the next one and hands
on the rest.
-/

namespace UnassumingBridge

open Support

variable {env : ToolEnv} {args : List Str} {prog : Str} {cmdl : Cmdl} {word : Str} {rest : List Str}

section Cmdl

/-- The words that have not been read. -/
def Cmdl.left (cmdl : Cmdl) : List Str := cmdl.argv.drop cmdl.optind

def Cmdl.next (cmdl : Cmdl) : Cmdl := { cmdl with optind := cmdl.optind + 1 }

theorem Cmdl.at_left (left : cmdl.left = word :: rest) : cmdl.argv[cmdl.optind]? = some word := by
  have first : cmdl.left[0]? = some word := by rw [left]; rfl
  rwa [Cmdl.left, List.getElem?_drop, Nat.add_zero] at first

theorem Cmdl.at_end (left : cmdl.left = []) : cmdl.argv[cmdl.optind]? = none := by
  have first : cmdl.left[0]? = none := by rw [left]; rfl
  rwa [Cmdl.left, List.getElem?_drop, Nat.add_zero] at first

theorem Cmdl.left_next (left : cmdl.left = word :: rest) : cmdl.next.left = rest := by
  have dropped : cmdl.next.left = cmdl.left.drop 1 := by simp only [Cmdl.left, Cmdl.next, List.drop_drop]
  rw [dropped, left]
  rfl

variable {caller : Usage} {cmds : List Cmd}

theorem runCmd_found {cmd : Cmd} (g : Globals) (left : cmdl.left = word :: rest)
    (found : findCmd cmds word = some cmd) : runCmd caller cmds g cmdl = cmd.func g cmd.help cmdl.next := by
  simp only [runCmd, Cmdl.at_left left, found, Cmdl.next]

theorem runCmd_missing (g : Globals) (left : cmdl.left = word :: rest) (missing : findCmd cmds word = none) :
    runCmd caller cmds g cmdl =
      ⟨[if g.helpFlag then .usage caller else .report (.invalidCommand word)], .ok (-einval)⟩ := by
  simp only [runCmd, Cmdl.at_left left, missing]
  rfl

theorem runCmd_end (g : Globals) (left : cmdl.left = []) : runCmd caller cmds g cmdl = ⟨[.usage caller], .ok 0⟩ := by
  simp only [runCmd, Cmdl.at_end left]
  rfl

theorem shiftCmdl_left (left : cmdl.left = word :: rest) : shiftCmdl cmdl = (some word, cmdl.next) := by
  have at_ := Cmdl.at_left left
  obtain ⟨inside, _⟩ := List.getElem?_eq_some_iff.mp at_
  simp only [shiftCmdl, inside, if_true, at_, Cmdl.next]

theorem shiftCmdl_end (left : cmdl.left = []) : shiftCmdl cmdl = (none, cmdl) := by
  have past := List.getElem?_eq_none_iff.mp (Cmdl.at_end left)
  have outside : ¬ cmdl.optind < cmdl.argv.length := by omega
  simp only [shiftCmdl, outside, if_false]

end Cmdl

section Main

/-- What `if_nametoindex` says for the bridge that the options name. -/
def bridgeIndex (env : ToolEnv) (args : List Str) : BitVec 32 :=
  env.ifNameToIndex (bridgeNamed (scanned env args).found "ubr0".toList)

/-- The globals that `main` leaves to the command. -/
def mainGlobals (env : ToolEnv) (args : List Str) (helpFlag : Bool) : Globals where
  bridge := bridgeNamed (scanned env args).found "ubr0".toList
  brindex := bridgeIndex env args
  helpFlag

/-- The exit status of a command. -/
def exitOf (run : Tool Int) : Tool Int := do
  let res ← run
  pure (if res ≠ 0 then 1 else 0)

@[simp] theorem exitOf_log (run : Tool Int) : (exitOf run).log = run.log := Logged.bind_pure_log _ _

theorem exitOf_res (run : Tool Int) : (exitOf run).res = run.res.map fun res => if res ≠ 0 then 1 else 0 := by
  unfold exitOf
  cases ends : run.res with
  | error f => rw [Logged.bind_error ends]; rfl
  | ok res => rw [Logged.bind_ok ends]; rfl

/-- The run that ends since there is no such bridge. -/
def noBridgeRun (env : ToolEnv) (args : List Str) : Tool Int :=
  ⟨[.report (.noBridge (bridgeNamed (scanned env args).found "ubr0".toList))], .ok 1⟩

theorem readOptions_noHelp {found : List Getopt.Found} {g g' : Globals} (read : readOptions found g = some g')
    (quiet : ∀ arg, .option 'h' arg ∉ found) : g'.helpFlag = g.helpFlag := by
  fun_induction readOptions found g with
  | case1 g =>
      cases read
      rfl
  | case2 arg rest g ih => exact absurd List.mem_cons_self (quiet arg)
  | case3 optarg rest g ih => exact ih read fun arg inside => quiet arg (List.mem_cons_of_mem _ inside)
  | case4 => cases read

theorem ubrMain_invalid (invalid : .invalid ∈ (scanned env args).found) :
    ubrMain env prog args = ⟨[.report .badOption], .ok 1⟩ := by
  have same : ubrOptions.scan env.posix args = scanned env args := rfl
  unfold ubrMain
  simp only [same, readOptions_invalid invalid]
  rfl

private theorem ubrMain_read {g : Globals} (prog : Str) (read : readOptions (scanned env args).found {} = some g) :
    ∃ cmdl : Cmdl, cmdl.left = (scanned env args).operands ∧
      ubrMain env prog args =
        if (!g.helpFlag) = true ∧ bridgeIndex env args = 0 ∧ (scanned env args).operands.head?.any notAdd = true then
          noBridgeRun env args
        else exitOf (runCmd .about (ubrCmds env) (mainGlobals env args g.helpFlag) cmdl) := by
  have only := readOptions_some read
  set front := (scanned env args).front with passed
  set argv := prog :: front ++ (scanned env args).operands with whole
  have start : (⟨1 + front.length, argv⟩ : Cmdl).left = (scanned env args).operands := by
    have length : 1 + front.length = (prog :: front).length := by simp only [List.length_cons]; omega
    simp only [Cmdl.left, length, whole, List.drop_left]
  refine ⟨_, start, ?_⟩
  have same : ubrOptions.scan env.posix args = scanned env args := rfl
  have name : g.bridge = bridgeNamed (scanned env args).found "ubr0".toList := by rw [only]
  have globals : { g with brindex := bridgeIndex env args } = mainGlobals env args g.helpFlag := by rw [only]; rfl
  have named : env.ifNameToIndex (bridgeNamed (scanned env args).found "ubr0".toList) = bridgeIndex env args := rfl
  unfold ubrMain
  rw [same]
  simp only [read, ← passed, ← whole, name, named]
  split
  · rfl
  · rw [← name, globals]
    rfl

/-- Without `-h` the bridge has to exist, unless the word begins as `add` does. -/
theorem ubrMain_noHelp (prog : Str) (valid : .invalid ∉ (scanned env args).found) (noHelp : ¬ AsksForHelp env args) :
    ∃ cmdl : Cmdl, cmdl.left = (scanned env args).operands ∧
      ubrMain env prog args =
        if bridgeIndex env args = 0 ∧ (scanned env args).operands.head?.any notAdd = true then noBridgeRun env args
        else exitOf (runCmd .about (ubrCmds env) (mainGlobals env args false) cmdl) := by
  obtain ⟨g, read⟩ := readOptions_valid {} scanned_listed valid
  have flag : g.helpFlag = false := readOptions_noHelp read fun arg inside => noHelp ⟨arg, inside⟩
  obtain ⟨cmdl, left, main⟩ := ubrMain_read prog read
  refine ⟨cmdl, left, ?_⟩
  simp only [main, flag, Bool.not_false, true_and]

theorem ubrMain_help (prog : Str) (valid : .invalid ∉ (scanned env args).found) (asks : AsksForHelp env args) :
    ∃ cmdl : Cmdl, cmdl.left = (scanned env args).operands ∧
      ubrMain env prog args = exitOf (runCmd .about (ubrCmds env) (mainGlobals env args true) cmdl) := by
  obtain ⟨g, read⟩ := readOptions_valid {} scanned_listed valid
  have flag := readOptions_help read (.inr asks)
  obtain ⟨cmdl, left, main⟩ := ubrMain_read prog read
  refine ⟨cmdl, left, ?_⟩
  simp only [main, flag, Bool.not_true, Bool.false_eq_true, false_and, if_false]

theorem findCmd_port (port : word ≠ [] ∧ word <+: "port".toList) :
    findCmd (ubrCmds env) word = some ⟨"port".toList, cmdPort env, .port⟩ :=
  findCmd_ubr.mpr ⟨by simp [ubrCmds], port⟩

theorem findCmd_vlan (vlan : word ≠ [] ∧ word <+: "vlan".toList) :
    findCmd (ubrCmds env) word = some ⟨"vlan".toList, cmdVlan env, .vlan⟩ :=
  findCmd_ubr.mpr ⟨by simp [ubrCmds], vlan⟩

/-- An abbreviation of a command that does not begin with the same letter is not taken for `add`. -/
theorem notAdd_of_head {name : Str} (letters : word ≠ []) (abbreviates : word <+: name)
    (other : name.head? ≠ some 'a') : notAdd word = true := by
  obtain ⟨c, rest, rfl⟩ := List.exists_cons_of_ne_nil letters
  obtain ⟨tail, rfl⟩ := abbreviates
  have first : c ≠ 'a' := by simpa using other
  simp [notAdd, first]

theorem ubrMain_bridge {cmd : Cmd} (prog : Str) (valid : .invalid ∉ (scanned env args).found)
    (noHelp : ¬ AsksForHelp env args)
    (bridge : bridgeIndex env args ≠ 0) (words : (scanned env args).operands = word :: rest)
    (found : findCmd (ubrCmds env) word = some cmd) :
    ∃ cmdl : Cmdl, cmdl.left = rest ∧
      ubrMain env prog args = exitOf (cmd.func (mainGlobals env args false) cmd.help cmdl) := by
  obtain ⟨cmdl, left, main⟩ := ubrMain_noHelp prog valid noHelp
  rw [words] at left
  refine ⟨cmdl.next, Cmdl.left_next left, ?_⟩
  simp only [main, bridge, false_and, if_false]
  rw [runCmd_found _ left found]

end Main

section Refused

theorem parseLoop_ends (words : List Str) (opts : List Opt) (optind : Nat) (cnt : Int) :
    ∃ out, (parseLoop words opts optind cnt).res = .ok out := by
  fun_induction parseLoop words opts optind cnt with
  | case1 => exact ⟨_, rfl⟩
  | case2 => exact ⟨_, rfl⟩
  | case3 => exact ⟨_, rfl⟩
  | case4 => assumption
  | case5 => assumption

theorem parseOpts_res {opts opts' : List Opt} {cnt : Int} {optind' : Nat}
    (parsed : (parseLoop cmdl.left opts cmdl.optind 0).res = .ok (cnt, opts', optind')) :
    (parseOpts opts cmdl).res = .ok (cnt, opts', { cmdl with optind := optind' }) := by
  have parsed : (parseLoop (cmdl.argv.drop cmdl.optind) opts cmdl.optind 0).res = .ok (cnt, opts', optind') := parsed
  unfold parseOpts
  rw [Logged.bind_ok parsed]
  rfl

/-- A run that ends in an error and has sent nothing that changes the kernel. -/
def Refused (run : Tool Int) : Prop := Quiet run ∧ ∃ status, run.res = .ok status ∧ status ≠ 0

theorem refused_of_command {run : Tool Int} (refused : Refused run) : Refused (exitOf run) := by
  obtain ⟨quiet, status, res, failed⟩ := refused
  refine ⟨.bind quiet fun _ _ => .pure _, 1, ?_, by decide⟩
  rw [exitOf_res, res]
  simp [Except.map, failed]

theorem invalid_refused (invalid : .invalid ∈ (scanned env args).found) : Refused (ubrMain env prog args) := by
  rw [ubrMain_invalid invalid]
  refine ⟨fun msg inside => ?_, 1, rfl, by decide⟩
  simp at inside

end Refused

section Messages

variable {msg : NlMsg}

theorem msgQueryNoCb_fails (fails : env.sendFails msg = true) : (msgQueryNoCb env msg).res = .ok (-enotsup) := by
  simp only [msgQueryNoCb, msgQuery, msgSend, fails, if_true]
  rfl

theorem msgQueryNoCb_acked (sends : env.sendFails msg = false) (acked : env.replies msg = [.ack]) :
    (msgQueryNoCb env msg).res = .ok 0 := by
  simp only [msgQueryNoCb, msgQuery, msgSend, sends, Bool.false_eq_true, if_false, acked]
  rfl

end Messages

end UnassumingBridge
