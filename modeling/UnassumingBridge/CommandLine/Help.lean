import UnassumingBridge.Effects.Tool

/-! # Asking for help

`help_flag` is looked at by each command in its own way: the commands of the first
level test it, and the ones on ports and VLANs find that the operand which is not read
under it is missing. The command that flushes the database does neither.
-/

namespace UnassumingBridge

open Support

/-- What `getopt_long` makes of the arguments. -/
def scanned (env : ToolEnv) (args : List Str) : Getopt.Scanned := ubrOptions.scan env.posix args

/-- `-h` or `--help` is among the options. -/
def AsksForHelp (env : ToolEnv) (args : List Str) : Prop := ∃ arg, .option 'h' arg ∈ (scanned env args).found

/-- The argument of the last `-i` or `--iface`. -/
def bridgeNamed : List Getopt.Found → Str → Str
  | [], name => name
  | .option 'i' optarg :: rest, _ => bridgeNamed rest (optarg.getD [])
  | _ :: rest, name => bridgeNamed rest name

section Options

variable {found : List Getopt.Found} {g g' : Globals}

theorem readOptions_some (read : readOptions found g = some g') :
    g' = { g with helpFlag := g'.helpFlag, bridge := bridgeNamed found g.bridge } := by
  fun_induction readOptions found g with
  | case1 g =>
      cases read
      rfl
  | case2 arg rest g ih => rw [ih read]; rfl
  | case3 optarg rest g ih => rw [ih read]; rfl
  | case4 => cases read

theorem readOptions_help (read : readOptions found g = some g')
    (asks : g.helpFlag = true ∨ ∃ arg, .option 'h' arg ∈ found) : g'.helpFlag = true := by
  fun_induction readOptions found g with
  | case1 g =>
      cases read
      simpa using asks
  | case2 arg rest g ih => exact ih read (.inl rfl)
  | case3 optarg rest g ih =>
      refine ih read (asks.imp id ?_)
      rintro ⟨arg, inside⟩
      exact ⟨arg, by simpa using inside⟩
  | case4 => cases read

/-- The loop ends early only at an invalid option. -/
theorem readOptions_valid (g : Globals) (listed : ∀ c arg, .option c arg ∈ found → c = 'h' ∨ c = 'i')
    (valid : .invalid ∉ found) : ∃ g', readOptions found g = some g' := by
  fun_induction readOptions found g with
  | case1 g => exact ⟨g, rfl⟩
  | case2 arg rest g ih =>
      exact ih (fun c a inside => listed c a (List.mem_cons_of_mem _ inside)) fun inside =>
        valid (List.mem_cons_of_mem _ inside)
  | case3 optarg rest g ih =>
      exact ih (fun c a inside => listed c a (List.mem_cons_of_mem _ inside)) fun inside =>
        valid (List.mem_cons_of_mem _ inside)
  | case4 f rest g notHelp notIface =>
      cases f with
      | invalid => exact absurd List.mem_cons_self valid
      | option c arg =>
          rcases listed c arg List.mem_cons_self with rfl | rfl
          · exact absurd rfl (notHelp arg)
          · exact absurd rfl (notIface arg)

theorem readOptions_invalid (invalid : .invalid ∈ found) : readOptions found g = none := by
  fun_induction readOptions found g with
  | case1 => cases invalid
  | case2 arg rest g ih => exact ih (by simpa using invalid)
  | case3 optarg rest g ih => exact ih (by simpa using invalid)
  | case4 => rfl

theorem scanned_listed {env : ToolEnv} {args : List Str} (c : Char) (arg : Option Str)
    (inside : .option c arg ∈ (scanned env args).found) : c = 'h' ∨ c = 'i' := by
  have listed := Getopt.Options.val_of_scan inside
  simp only [Getopt.Options.vals, ubrOptions, List.map_cons, List.map_nil] at listed
  grind

end Options

section Commands

variable {env : ToolEnv} {g : Globals} {help : Usage} {cmdl : Cmdl}

theorem cmdAdd_help_quiet (flag : g.helpFlag = true) (cmdl : Cmdl) : Quiet (cmdAdd env g help cmdl) := by
  simp only [cmdAdd, flag, if_true]
  exact .bind (.usage _) fun _ _ => .pure _

theorem cmdDel_help_quiet (flag : g.helpFlag = true) (cmdl : Cmdl) : Quiet (cmdDel env g help cmdl) := by
  simp only [cmdDel, flag, if_true]
  exact .bind (.usage _) fun _ _ => .pure _

theorem portCmds_quiet (noPort : g.ifname = none) (cmd : Cmd) (inside : cmd ∈ portCmds env) (cmdl : Cmdl) :
    Quiet (cmd.func g cmd.help cmdl) := by
  have nobody : g.ifname.isNone = true := by rw [noPort]; rfl
  simp only [portCmds, List.mem_cons, List.not_mem_nil, or_false] at inside
  rcases inside with rfl | rfl | rfl
  · simp only [cmdPortAttach, nobody, if_true]
    exact .refuse g _ _
  · simp only [cmdPortDetach, nobody, if_true]
    exact .refuse g _ _
  · refine .bind (parseOpts_quiet _ _) fun out _ => ?_
    simp only [nobody, or_true, if_true]
    exact .refuse g _ _

theorem vlanCmds_quiet (noVid : g.vid = 0) (cmd : Cmd) (inside : cmd ∈ vlanCmds env) (cmdl : Cmdl) :
    Quiet (cmd.func g cmd.help cmdl) := by
  rw [vlanCmds_noVid noVid cmd inside]
  intro msg inside
  split at inside <;> simp at inside

/-- The family answers, and the message of the command that flushes the database can be sent. -/
def FlushGoesOut (env : ToolEnv) (brindex : BitVec 32) : Prop :=
  env.callocFails = false ∧ ∃ id, (getFamily env).res = .ok id ∧ 0 < id ∧
    env.sendFails (.genl (blankMsg { brindex } .fdbFlush id)) = false

theorem cmdFdbFlush_quiet_iff : Quiet (cmdFdbFlush env g help cmdl) ↔ ¬ FlushGoesOut env g.brindex := by
  have begun := msgInit_quiet env g .fdbFlush
  unfold cmdFdbFlush
  constructor
  · rintro quiet ⟨memory, id, known, positive, sends⟩
    have some : (msgInit env g .fdbFlush).res = .ok (some (blankMsg g .fdbFlush id)) :=
      msgInit_some.mpr ⟨memory, id, known, positive, rfl⟩
    have loud := quiet (.genl (blankMsg g .fdbFlush id)) (by
      rw [Logged.bind_ok some]
      have sends : env.sendFails (.genl (blankMsg g .fdbFlush id)) = false := sends
      simp [msgDoit, msgQueryNoCb_log, sends])
    cases loud
  · intro kept
    refine .bind begun fun found found_res => ?_
    cases found with
    | none => exact .bind (.report _) fun _ _ => .pure _
    | some msg =>
        intro m inside
        simp only [msgDoit, msgQueryNoCb_log] at inside
        split at inside
        · simp at inside
        · rename_i sends
          obtain ⟨memory, id, known, positive, rfl⟩ := msgInit_some.mp found_res
          have sends : env.sendFails (.genl (blankMsg g .fdbFlush id)) = false := by simpa using sends
          exact absurd ⟨memory, id, known, positive, sends⟩ kept

end Commands

section Main

variable {env : ToolEnv} {prog : Str} {args : List Str}

/-- The words of `ubr fdb flush`, as the tables of commands abbreviate them. -/
def IsFlush (operands : List Str) : Prop :=
  ∃ fdb flush rest, operands = fdb :: flush :: rest ∧ fdb ≠ [] ∧ fdb <+: "fdb".toList ∧ flush <+: "flush".toList

/-- The command line is `ubr fdb flush`, and its request can be sent. -/
def FlushRequested (env : ToolEnv) (args : List Str) : Prop :=
  .invalid ∉ (scanned env args).found ∧ IsFlush (scanned env args).operands ∧
    FlushGoesOut env (env.ifNameToIndex (bridgeNamed (scanned env args).found "ubr0".toList))

theorem operand_at (prog : Str) (front operands : List Str) (k : Nat) :
    (prog :: front ++ operands)[1 + front.length + k]? = operands[k]? := by
  have split : (prog :: front ++ operands) = (prog :: front) ++ operands := rfl
  rw [split, List.getElem?_append_right (by simp; omega)]
  congr 1
  simp
  omega

theorem findCmd_ubr {word : Str} {cmd : Cmd} :
    findCmd (ubrCmds env) word = some cmd ↔ cmd ∈ ubrCmds env ∧ word ≠ [] ∧ word <+: cmd.cmd := by
  apply findCmd_of_heads
  · simp [ubrCmds]
  · simp [ubrCmds]

theorem findCmd_fdb {word : Str} :
    findCmd (fdbCmds env) word = if word <+: "flush".toList then some ⟨"flush".toList, cmdFdbFlush env, .fdbFlush⟩
      else none := by
  split
  · rename_i abbreviated
    refine findCmd_eq_some.mpr ⟨0, rfl, abbreviated, fun j b at_ _ => ?_⟩
    obtain ⟨inside, _⟩ := List.getElem?_eq_some_iff.mp at_
    simp only [fdbCmds, List.length_singleton] at inside
    omega
  · rename_i other
    simpa [findCmd, fdbCmds, findPrefix] using other

theorem findCmd_of_isFlush {word : Str} {rest : List Str} (flush : IsFlush (word :: rest)) :
    findCmd (ubrCmds env) word = some ⟨"fdb".toList, cmdFdb env, .fdb⟩ := by
  obtain ⟨fdb, _, _, same, letters, abbreviated, _⟩ := flush
  cases same
  exact findCmd_ubr.mpr ⟨by simp [ubrCmds], letters, abbreviated⟩

theorem cmdFdb_quiet_iff {g : Globals} {help : Usage} {cmdl : Cmdl} (flag : g.helpFlag = true) :
    Quiet (cmdFdb env g help cmdl) ↔
      ¬ ((∃ word, cmdl.argv[cmdl.optind]? = some word ∧ word <+: "flush".toList) ∧ FlushGoesOut env g.brindex) := by
  unfold cmdFdb runCmd
  cases cmdl.argv[cmdl.optind]? with
  | none =>
      simp only [reduceCtorEq, false_and, exists_false, not_false_eq_true, iff_true]
      exact .bind (.usage _) fun _ _ => .pure _
  | some word =>
      simp only [findCmd_fdb, Option.some.injEq, exists_eq_left']
      by_cases abbreviated : word <+: "flush".toList
      · simp only [abbreviated, if_true, true_and]
        exact cmdFdbFlush_quiet_iff
      · simp only [abbreviated, if_false, flag, if_true, false_and, not_false_eq_true, iff_true]
        exact .bind (.usage _) fun _ _ => .pure _

theorem runCmd_ubr_quiet_iff (env : ToolEnv) (g : Globals) (prog : Str) (front operands : List Str)
    (flag : g.helpFlag = true) (noPort : g.ifname = none) (noVid : g.vid = 0) :
    Quiet (runCmd .about (ubrCmds env) g { optind := 1 + front.length, argv := prog :: front ++ operands }) ↔
      ¬ (IsFlush operands ∧ FlushGoesOut env g.brindex) := by
  have first := operand_at prog front operands 0
  have second := operand_at prog front operands 1
  unfold runCmd
  simp only [Nat.add_zero] at first ⊢
  rw [first]
  cases operands with
  | nil =>
      have notFlush : ¬ IsFlush [] := by
        rintro ⟨_, _, _, none, _⟩
        cases none
      simp only [List.getElem?_nil, notFlush, false_and, not_false_eq_true, iff_true]
      exact .bind (.usage _) fun _ _ => .pure _
  | cons word rest =>
      simp only [List.getElem?_cons_zero, List.getElem?_cons_succ] at second ⊢
      cases found : findCmd (ubrCmds env) word with
      | none =>
          have notFlush : ¬ IsFlush (word :: rest) := by
            intro flush
            cases found.symm.trans (findCmd_of_isFlush flush)
          simp only [flag, if_true, notFlush, false_and, not_false_eq_true, iff_true]
          exact .bind (.usage _) fun _ _ => .pure _
      | some cmd =>
          obtain ⟨known, letters, abbreviated⟩ := findCmd_ubr.mp found
          set after : Cmdl := { optind := 1 + front.length + 1, argv := prog :: front ++ word :: rest }
          have next : after.argv[after.optind]? = rest[0]? := second
          have notFlush (other : cmd.cmd ≠ "fdb".toList) : ¬ IsFlush (word :: rest) := by
            intro flush
            cases found.symm.trans (findCmd_of_isFlush flush)
            exact other rfl
          have quiet (other : cmd.cmd ≠ "fdb".toList) {x : Tool Int} (silent : Quiet x) :
              Quiet x ↔ ¬ (IsFlush (word :: rest) ∧ FlushGoesOut env g.brindex) := by
            simp only [silent, notFlush other, false_and, not_false_eq_true]
          simp only [ubrCmds, List.mem_cons, List.not_mem_nil, or_false] at known
          rcases known with rfl | rfl | rfl | rfl | rfl
          · exact quiet (by simp) (cmdAdd_help_quiet flag after)
          · exact quiet (by simp) (cmdDel_help_quiet flag after)
          · simp only [cmdFdb_quiet_iff flag, next]
            cases rest with
            | nil => simp [IsFlush]
            | cons flush rest =>
                simp only [IsFlush, List.getElem?_cons_zero, Option.some.injEq, exists_eq_left', List.cons.injEq]
                grind
          · apply quiet (by simp)
            simp only [cmdPort, flag, if_true]
            exact runCmd_quiet g _ (portCmds_quiet noPort)
          · apply quiet (by simp)
            simp only [cmdVlan, flag, if_true]
            exact runCmd_quiet g _ (vlanCmds_quiet noVid)

/-- A command line with `-h` or `--help` changes nothing if, and only if, it is not the one
    that flushes the database. -/
theorem help_is_quiet_iff (asks : AsksForHelp env args) :
    Quiet (ubrMain env prog args) ↔ ¬ FlushRequested env args := by
  unfold ubrMain
  have same : ubrOptions.scan env.posix args = scanned env args := rfl
  rw [same]
  unfold FlushRequested
  by_cases valid : .invalid ∈ (scanned env args).found
  · simp only [readOptions_invalid valid, valid, not_true_eq_false, false_and, not_false_eq_true, iff_true]
    exact .bind (.report _) fun _ _ => .pure _
  · obtain ⟨g, read⟩ := readOptions_valid {} scanned_listed valid
    have flag := readOptions_help read (.inr asks)
    have only := readOptions_some read
    generalize brindex : env.ifNameToIndex g.bridge = index
    have named : g.bridge = bridgeNamed (scanned env args).found "ubr0".toList := by rw [only]
    have noPort : g.ifname = none := by rw [only]
    have noVid : g.vid = 0 := by rw [only]
    have command := runCmd_ubr_quiet_iff env { g with brindex := index } prog (scanned env args).front
      (scanned env args).operands flag noPort noVid
    simp only [read, flag, Bool.not_true, Bool.false_eq_true, false_and, if_false, valid, not_false_eq_true, true_and]
    rw [← named, brindex]
    simp only [Quiet, Logged.bind_pure_log, flag] at command ⊢
    exact command

section Plays

/-- There is a bridge `ubr0`, the family is 20, and every request is acknowledged. -/
def helpfulEnv : ToolEnv where
  ifNameToIndex name := if name = "ubr0".toList then 5 else 0
  replies msg := if msg = .getFamily then [.message [⟨1, 20⟩], .ack] else [.ack]

def flushHelp : List Str := ["fdb".toList, "flush".toList, "-h".toList]

def vlanHelp : List Str := ["vlan".toList, "10".toList, "add".toList, "--help".toList]

theorem flushHelp_asks : AsksForHelp helpfulEnv flushHelp := ⟨none, by decide⟩

theorem vlanHelp_asks : AsksForHelp helpfulEnv vlanHelp := ⟨none, by decide⟩

theorem vlanHelp_notFlush : ¬ FlushRequested helpfulEnv vlanHelp := by
  rintro ⟨_, ⟨fdb, _, _, same, letters, abbreviated, _⟩, _⟩
  have operands : (scanned helpfulEnv vlanHelp).operands = ["vlan".toList, "10".toList, "add".toList] := by decide
  rw [operands] at same
  cases same
  revert abbreviated
  decide

theorem help_is_quiet_vlan : Quiet (ubrMain helpfulEnv "ubr".toList vlanHelp) :=
  (help_is_quiet_iff vlanHelp_asks).mpr vlanHelp_notFlush

/-- `ubr fdb flush -h` flushes the database. -/
theorem help_flushes : ¬ ∀ env prog args, AsksForHelp env args → Quiet (ubrMain env prog args) := by
  intro always
  have quiet :=
    always helpfulEnv "ubr".toList flushHelp flushHelp_asks (.genl (blankMsg { brindex := 5 } .fdbFlush 20)) (by decide)
  revert quiet
  decide

end Plays

end Main

end UnassumingBridge
