import UnassumingBridge.Tool.Private

/-! # Command lines (`cmdl.c`) -/

namespace UnassumingBridge

open Support

/-- `struct cmdl`; `argc` is the length of `argv`, behind which there is a `NULL`. -/
structure Cmdl where
  optind : Nat
  argv : List Str

/-- `OPT_KEY` and `OPT_KEYVAL` -/
inductive OptFlag where
  | key | keyval
  deriving DecidableEq, Repr

/-- `struct opt` -/
structure Opt where
  key : Str
  flag : OptFlag
  val : Option Str := none
  deriving DecidableEq, Repr

/-- `struct cmd`; every command has a help function. -/
structure Cmd where
  cmd : Str
  func : Globals → Usage → Cmdl → Tool Int
  help : Usage

/-- The scan of `find_cmd` and `find_opt`: `strstr(key, str) == key` for one entry only. -/
def findPrefix {α : Type} (key : α → Str) (str : Str) : List α → Option Nat → Nat → Option Nat
  | [], found, _ => found
  | a :: rest, found, i =>
      if str.isPrefixOf (key a) then
        if found.isSome then none else findPrefix key str rest (some i) (i + 1)
      else findPrefix key str rest found (i + 1)

def findCmd (cmds : List Cmd) (str : Str) : Option Cmd := do
  let i ← findPrefix Cmd.cmd str cmds none 0
  cmds[i]?

/-- The index of the option. -/
def findOpt (opts : List Opt) (str : Str) : Option Nat := findPrefix Opt.key str opts none 0

def getOpt (opts : List Opt) (key : Str) : Option Opt := opts.find? fun o => o.key = key ∧ o.val.isSome

def hasOpt (opts : List Opt) (key : Str) : Bool := (getOpt opts key).isSome

def moreOpts (cmdl : Cmdl) : Bool := decide (cmdl.optind < cmdl.argv.length)

/-- `none` stands for `NULL`. -/
def shiftCmdl (cmdl : Cmdl) : Option Str × Cmdl :=
  if cmdl.optind < cmdl.argv.length then (cmdl.argv[cmdl.optind]?, { cmdl with optind := cmdl.optind + 1 })
  else (none, cmdl)

/-- The loop of `parse_opts` over what is left of `argv`; the local index runs along
    with `optind`. -/
def parseLoop : List Str → List Opt → Nat → Int → Tool (Int × List Opt × Nat)
  | [], opts, optind, cnt => pure (cnt, opts, optind)
  | arg :: rest, opts, optind, cnt =>
      match findOpt opts arg with
      | none => do
          Logged.emit (.report (.invalidOption arg))
          pure (-einval, opts, optind)
      | some i =>
          match (opts[i]?).map Opt.flag, rest with
          -- argv[argc] is NULL
          | some .keyval, [] => pure (cnt + 1, opts.modify i fun o => { o with val := none }, optind + 2)
          | some .keyval, val :: rest =>
              parseLoop rest (opts.modify i fun o => { o with val := some val }) (optind + 2) (cnt + 1)
          | _, rest =>
              parseLoop rest (opts.modify i fun o => { o with val := some arg }) (optind + 1) (cnt + 1)

/-- The number of options or a negative error, and the table and the command line afterwards. -/
def parseOpts (opts : List Opt) (cmdl : Cmdl) : Tool (Int × List Opt × Cmdl) := do
  let (cnt, opts, optind) ← parseLoop (cmdl.argv.drop cmdl.optind) opts cmdl.optind 0
  pure (cnt, opts, { cmdl with optind })

def runCmd (caller : Usage) (cmds : List Cmd) (g : Globals) (cmdl : Cmdl) : Tool Int :=
  match cmdl.argv[cmdl.optind]? with
  | none => do
      Logged.emit (.usage caller)
      pure 0
  | some name =>
      let cmdl := { cmdl with optind := cmdl.optind + 1 }
      match findCmd cmds name with
      | none => do
          -- help about the last command if this one is not found
          Logged.emit (if g.helpFlag then .usage caller else .report (.invalidCommand name))
          pure (-einval)
      | some cmd => cmd.func g cmd.help cmdl

end UnassumingBridge
