import UnassumingBridge.Tool.Msg
import UnassumingBridge.Tool.Cmdl

/-! # The command `fdb` (`fdb.c`) -/

namespace UnassumingBridge

open Support

def cmdFdbFlush (env : ToolEnv) (g : Globals) (_ : Usage) (_ : Cmdl) : Tool Int := do
  match ← msgInit env g .fdbFlush with
  | none => do
      Logged.emit (.report .initFailed)
      pure (-1)
  | some msg => msgDoit env msg

def fdbCmds (env : ToolEnv) : List Cmd := [⟨"flush".toList, cmdFdbFlush env, .fdbFlush⟩]

def cmdFdb (env : ToolEnv) (g : Globals) (help : Usage) (cmdl : Cmdl) : Tool Int :=
  runCmd help (fdbCmds env) g cmdl

end UnassumingBridge
