import UnassumingBridge.Tool.Msg
import UnassumingBridge.Tool.Cmdl
import UnassumingBridge.Support.Numeral

/-! # The command `vlan` (`vlan.c`) -/

namespace UnassumingBridge

open Support Numeral

/-- The check of the VID that every subcommand begins with. -/
def needVid (g : Globals) (help : Usage) (command : Tool Int) : Tool Int :=
  if g.vid = 0 then do
    if g.helpFlag then Logged.emit (.usage help)
    pure (-einval)
  else command

/-- Send a command about the VLAN with the nested attributes. -/
def sendVlan (env : ToolEnv) (g : Globals) (cmd : UbrNlCmd) (vlan : VlanAttrs) : Tool Int := do
  match ← msgInit env g cmd with
  | none => do
      Logged.emit (.report .initFailed)
      pure (-1)
  | some msg => msgDoit env { msg with vlan := some vlan }

def cmdVlanAdd (env : ToolEnv) (g : Globals) (help : Usage) (_ : Cmdl) : Tool Int :=
  needVid g help (sendVlan env g .vlanAdd { vid := some g.vid })

def cmdVlanDel (env : ToolEnv) (g : Globals) (help : Usage) (_ : Cmdl) : Tool Int :=
  needVid g help (sendVlan env g .vlanDel { vid := some g.vid })

/-- The operand PORT of the attach and the detach command. -/
def readPort (env : ToolEnv) (help : Usage) (cmdl : Cmdl) (command : BitVec 32 → Cmdl → Tool Int) : Tool Int :=
  match shiftCmdl cmdl with
  | (none, _) => do
      Logged.emit (.usage help)
      pure (-einval)
  | (some ifname, cmdl) =>
      let ifindex := env.ifNameToIndex ifname
      if ifindex = 0 then do
        Logged.emit (.report (.invalidInterface ifname))
        pure (-einval)
      else command ifindex cmdl

/-- `opts` of `cmd_vlan_attach` -/
def vlanAttachOpts : List Opt := [{ key := "tagged".toList, flag := .key }]

def cmdVlanAttach (env : ToolEnv) (g : Globals) (help : Usage) (cmdl : Cmdl) : Tool Int :=
  needVid g help <| readPort env help cmdl fun ifindex cmdl => do
    let (cnt, opts, _) ← parseOpts vlanAttachOpts cmdl
    if cnt < 0 then do
      if g.helpFlag then Logged.emit (.usage help)
      pure (-einval)
    else
      let tagged := if hasOpt opts "tagged".toList then 1 else 0
      sendVlan env g .vlanAttach { vid := some g.vid, tagged := some tagged, port := some ifindex }

def cmdVlanDetach (env : ToolEnv) (g : Globals) (help : Usage) (cmdl : Cmdl) : Tool Int :=
  needVid g help <| readPort env help cmdl fun ifindex _ =>
    sendVlan env g .vlanDetach { vid := some g.vid, port := some ifindex }

/-- `opts` of `cmd_vlan_set` -/
def vlanSetOpts : List Opt := [{ key := "learning".toList, flag := .keyval }]

/-- What is sent as `UBR_NLA_VLAN_LEARNING`; -1 stands for nothing. -/
def learningAttr (opts : List Opt) : Option (BitVec 32) := do
  let opt ← getOpt opts "learning".toList
  let val := atob opt.val
  if val ≠ -1 then some (BitVec.ofInt 32 val) else none

def cmdVlanSet (env : ToolEnv) (g : Globals) (help : Usage) (cmdl : Cmdl) : Tool Int :=
  needVid g help do
    let (cnt, opts, _) ← parseOpts vlanSetOpts cmdl
    if cnt < 0 then do
      if g.helpFlag then Logged.emit (.usage help)
      pure (-einval)
    else sendVlan env g .vlanSet { vid := some g.vid, learning := learningAttr opts }

def vlanCmds (env : ToolEnv) : List Cmd :=
  [⟨"add".toList, cmdVlanAdd env, .vlanAdd⟩, ⟨"del".toList, cmdVlanDel env, .vlanDel⟩,
    ⟨"attach".toList, cmdVlanAttach env, .vlanAttach⟩, ⟨"detach".toList, cmdVlanDetach env, .vlanDetach⟩,
    ⟨"set".toList, cmdVlanSet env, .vlanSet⟩]

/-- The VLAN that `cmd_vlan` makes of its operand. -/
def vidOperand (arg : Str) : Vid :=
  let val := (atoi arg).toInt
  let val := if val < 0 ∨ val > 65535 then 0 else val
  BitVec.ofInt 16 val

def cmdVlan (env : ToolEnv) (g : Globals) (help : Usage) (cmdl : Cmdl) : Tool Int :=
  if g.helpFlag then runCmd help (vlanCmds env) g cmdl
  else
    match shiftCmdl cmdl with
    | (none, _) => do
        Logged.emit (.usage .vlan)
        pure (-einval)
    | (some arg, cmdl) =>
        let vid := vidOperand arg
        if vid.toNat < 1 ∨ vid.toNat > 4095 then do
          Logged.emit (.report (.invalidVlan arg))
          pure (-einval)
        else runCmd help (vlanCmds env) { g with vid } cmdl

end UnassumingBridge
