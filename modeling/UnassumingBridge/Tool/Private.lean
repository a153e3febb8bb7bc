import UnassumingBridge.Kernel.Genl

/-! # The command line tool (`private.h`)

What the parts of `ubr` share. A run of the tool is a computation whose log holds the
netlink requests that it sends and what it prints, and which ends in a crash where C
leaves the behaviour undefined.
-/

namespace UnassumingBridge

open Support

/-- A string of bytes without the final NUL; a byte is the character with that code. -/
abbrev Str := List Char

/-- A request of the generic netlink family, as the tool builds it. -/
structure GenlMsg where
  /-- `nlmsg_type` -/
  family : Int
  cmd : UbrNlCmd
  /-- `UBR_NLA_IFINDEX` -/
  ifindex : Option (BitVec 32) := none
  vlan : Option VlanAttrs := none
  port : Option PortAttrs := none
  deriving DecidableEq

/-- The netlink messages that the tool sends. -/
inductive NlMsg where
  /-- `CTRL_CMD_GETFAMILY` for the family `ubr` -/
  | getFamily
  /-- `RTM_NEWLINK` with `NLM_F_CREATE` and `NLM_F_EXCL` -/
  | newlink (ifname kind : Str)
  /-- `RTM_DELLINK` -/
  | dellink (ifname kind : Str)
  /-- `RTM_SETLINK` -/
  | setlink (ifindex : BitVec 32) (kind : Str) (master : BitVec 32)
  | genl (msg : GenlMsg)
  deriving DecidableEq

/-- The functions that print help. -/
inductive Usage where
  | about | add | del | fdb | fdbFlush | port | portSet | portAttach | portDetach
  | vlan | vlanAdd | vlanDel | vlanAttach | vlanDetach | vlanSet
  deriving DecidableEq, Repr

/-- What `warn`, `warnx`, `errx` and `perror` say. -/
inductive Report where
  /-- printed by `getopt_long` -/
  | badOption
  /-- "%s does not exist" -/
  | noBridge (bridge : Str)
  /-- "error, invalid command" -/
  | invalidCommand (name : Str)
  /-- "error, invalid option" -/
  | invalidOption (arg : Str)
  /-- "%s is not a valid interface" -/
  | invalidInterface (name : Str)
  /-- "error, invalid VLAN %s" -/
  | invalidVlan (arg : Str)
  /-- "error, message initialisation failed" -/
  | initFailed
  /-- "Unable to get ubr nl family id (module loaded?)" -/
  | noFamily
  | noSocket
  deriving DecidableEq, Repr

/-- What a run of the tool does to the world. -/
inductive ToolEvent where
  | send (msg : NlMsg)
  | usage (help : Usage)
  | report (what : Report)
  deriving DecidableEq

/-- What the tool cannot survive. -/
inductive ToolFault where
  | nullDeref
  /-- A store behind the end of the table of attributes. -/
  | stackOverrun
  /-- `nl_family` is read and was not written. -/
  | uninitialised
  deriving DecidableEq, Repr

abbrev Tool (α : Type) := Logged ToolEvent ToolFault α

/-- An attribute of a reply of the generic netlink controller, read as a `u16`. -/
structure CtrlAttr where
  type : BitVec 14
  u16 : BitVec 16

/-- What `mnl_cb_run` meets, one by one. -/
inductive Reply where
  | message (attrs : List CtrlAttr)
  /-- `NLMSG_ERROR` with the code 0 -/
  | ack
  /-- `NLMSG_ERROR` with another code, or a message that does not belong to the request -/
  | refused

/-- What the rest of the system does for one run of the tool. -/
structure ToolEnv where
  /-- `if_nametoindex`; 0 when there is no such interface. -/
  ifNameToIndex : Str → BitVec 32
  /-- `POSIXLY_CORRECT` is set. -/
  posix : Bool := false
  callocFails : Bool := false
  /-- A socket cannot be opened or bound, or the request not sent. -/
  sendFails : NlMsg → Bool := fun _ => false
  /-- What is received after a request, until `recvfrom` fails. -/
  replies : NlMsg → List Reply
  /-- `CTRL_ATTR_MAX` of the headers that the tool was built with. -/
  ctrlAttrMax : Nat := 10

/-- The global variables of the tool. -/
structure Globals where
  bridge : Str := "ubr0".toList
  brindex : BitVec 32 := 0
  helpFlag : Bool := false
  /-- `ifname` and `ifindex` of `port.c` -/
  ifname : Option Str := none
  ifindex : BitVec 32 := 0
  /-- `vid` of `vlan.c` -/
  vid : Vid := 0

def einval : Int := 22

def enotsup : Int := 95

/-- `strncasecmp(word, s, len) == 0` -/
def sameCaseless (word s : Str) (len : Nat) : Bool :=
  (word.take len).map Char.toLower = (s.take len).map Char.toLower

/-- `alt` of `atob` -/
def atobAlt : List (Str × Nat × Int) :=
  [("off".toList, 3, 0), ("on".toList, 2, 1), ("false".toList, 5, 0), ("true".toList, 3, 1)]

def atob : Option Str → Int
  | none => -1
  | some s =>
      match atobAlt.find? fun alt => sameCaseless alt.1 s alt.2.1 with
      | some alt => alt.2.2
      | none => -1

end UnassumingBridge
