import UnassumingBridge.Tool.Msg
import UnassumingBridge.Tool.Cmdl
import UnassumingBridge.Support.Numeral

/-! # The command `port` (`port.c`) -/

namespace UnassumingBridge

open Support Numeral

/-- `opts` of `cmd_port_set` -/
def portSetOpts : List Opt := [{ key := "pvid".toList, flag := .keyval }]

/-- What is sent as `UBR_NLA_PORT_PVID`; -1 stands for nothing. -/
def pvidAttr (opts : List Opt) : Option Vid := do
  let opt ← getOpt opts "pvid".toList
  let val := atoi (← opt.val)
  if val ≠ -1 then some (val.setWidth 16) else none

def cmdPortSet (env : ToolEnv) (g : Globals) (help : Usage) (cmdl : Cmdl) : Tool Int := do
  let (cnt, opts, _) ← parseOpts portSetOpts cmdl
  if cnt < 0 ∨ g.ifname.isNone then do
    if g.helpFlag then Logged.emit (.usage help)
    pure (-einval)
  else
    match ← msgInit env g .portSet with
    | none => do
        Logged.emit (.report .initFailed)
        pure (-1)
    | some msg => msgDoit env { msg with port := some { ifindex := some g.ifindex, pvid := pvidAttr opts } }

/-- `RTM_SETLINK`, which both the attach and the detach command send. -/
def setlink (env : ToolEnv) (g : Globals) (master : BitVec 32) : Tool Int := do
  msgInit2 env
  msgQueryNoCb env (.setlink g.ifindex "ubr".toList master)

def cmdPortAttach (env : ToolEnv) (g : Globals) (help : Usage) (cmdl : Cmdl) : Tool Int :=
  if g.ifname.isNone then do
    if g.helpFlag then Logged.emit (.usage help)
    pure (-einval)
  else do
    let err ← setlink env g g.brindex
    if err ≠ 0 then pure err
    else if moreOpts cmdl then cmdPortSet env g help cmdl
    else pure 0

def cmdPortDetach (env : ToolEnv) (g : Globals) (help : Usage) (_ : Cmdl) : Tool Int :=
  if g.ifname.isNone then do
    if g.helpFlag then Logged.emit (.usage help)
    pure (-einval)
  else setlink env g 0

def portCmds (env : ToolEnv) : List Cmd :=
  [⟨"attach".toList, cmdPortAttach env, .portAttach⟩, ⟨"detach".toList, cmdPortDetach env, .portDetach⟩,
    ⟨"set".toList, cmdPortSet env, .portSet⟩]

def cmdPort (env : ToolEnv) (g : Globals) (help : Usage) (cmdl : Cmdl) : Tool Int :=
  if g.helpFlag then runCmd help (portCmds env) g cmdl
  else
    match shiftCmdl cmdl with
    | (none, _) => do
        Logged.emit (.usage .port)
        pure (-einval)
    | (some ifname, cmdl) =>
        let ifindex := env.ifNameToIndex ifname
        if ifindex = 0 then do
          Logged.emit (.report (.invalidInterface ifname))
          pure (-einval)
        else runCmd help (portCmds env) { g with ifname := some ifname, ifindex } cmdl

end UnassumingBridge
