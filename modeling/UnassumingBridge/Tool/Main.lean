import UnassumingBridge.Tool.Fdb
import UnassumingBridge.Tool.Port
import UnassumingBridge.Tool.Vlan
import UnassumingBridge.Support.Getopt

/-! # The tool's entry (`ubr.c`) -/

namespace UnassumingBridge

open Support

def cmdAdd (env : ToolEnv) (g : Globals) (help : Usage) (_ : Cmdl) : Tool Int :=
  if g.helpFlag then do
    Logged.emit (.usage help)
    pure 0
  else do
    msgInit2 env
    msgQueryNoCb env (.newlink g.bridge "ubr".toList)

def cmdDel (env : ToolEnv) (g : Globals) (help : Usage) (_ : Cmdl) : Tool Int :=
  if g.helpFlag then do
    Logged.emit (.usage help)
    pure 0
  else do
    msgInit2 env
    msgQueryNoCb env (.dellink g.bridge "ubr".toList)

def ubrCmds (env : ToolEnv) : List Cmd :=
  [⟨"add".toList, cmdAdd env, .add⟩, ⟨"del".toList, cmdDel env, .del⟩, ⟨"fdb".toList, cmdFdb env, .fdb⟩,
    ⟨"port".toList, cmdPort env, .port⟩, ⟨"vlan".toList, cmdVlan env, .vlan⟩]

/-- The option string and `long_options` of `main`. -/
def ubrOptions : Getopt.Options where
  short := [('h', false), ('i', true)]
  long := [{ name := "help".toList, val := 'h' }, { name := "iface".toList, takesArg := true, val := 'i' }]

/-- The loop over the options; `none` when one is invalid. -/
def readOptions : List Getopt.Found → Globals → Option Globals
  | [], g => some g
  | .option 'h' _ :: rest, g => readOptions rest { g with helpFlag := true }
  | .option 'i' optarg :: rest, g => readOptions rest { g with bridge := optarg.getD [] }
  | _ :: _, _ => none

/-- `strncmp(word, "add", 2) != 0` -/
def notAdd (word : Str) : Bool := word.take 2 ≠ "add".toList.take 2

/-- The exit status. -/
def ubrMain (env : ToolEnv) (prog : Str) (args : List Str) : Tool Int :=
  let scanned := ubrOptions.scan env.posix args
  match readOptions scanned.found {} with
  | none => do
      Logged.emit (.report .badOption)
      pure 1
  | some g =>
      let g := { g with brindex := env.ifNameToIndex g.bridge }
      if !g.helpFlag ∧ g.brindex = 0 ∧ scanned.operands.head?.any notAdd then do
        Logged.emit (.report (.noBridge g.bridge))
        pure 1
      else do
        let cmdl : Cmdl := { optind := 1 + scanned.front.length, argv := prog :: scanned.front ++ scanned.operands }
        let res ← runCmd .about (ubrCmds env) g cmdl
        pure (if res ≠ 0 then 1 else 0)

end UnassumingBridge
