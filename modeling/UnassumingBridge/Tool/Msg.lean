import UnassumingBridge.Tool.Private

/-! # Netlink messages (`msg.c`) -/

namespace UnassumingBridge

open Support

variable {σ : Type}

/-- `parse_attrs`, called by `mnl_attr_parse` for one attribute after the other. -/
def parseAttrs (ctrlAttrMax : Nat) : List CtrlAttr → (Nat → Option (BitVec 16)) →
    Except ToolFault (Nat → Option (BitVec 16))
  | [], tb => .ok tb
  | attr :: rest, tb =>
      if attr.type.toNat ≤ ctrlAttrMax then
        parseAttrs ctrlAttrMax rest (Function.update tb attr.type.toNat (some attr.u16))
      else .error .stackOverrun

/-- `CTRL_ATTR_FAMILY_ID` -/
def ctrlAttrFamilyId : Nat := 1

/-- The id afterwards, and the return value. -/
def familyIdCb (ctrlAttrMax : Nat) (id : Option (BitVec 16)) (attrs : List CtrlAttr) :
    Except ToolFault (Option (BitVec 16) × Int) := do
  let tb ← parseAttrs ctrlAttrMax attrs fun _ => none
  match tb ctrlAttrFamilyId with
  | none => .ok (id, -1)
  | some id => .ok (some id, 1)

/-- `msg_send`; `false` stands for `NULL`. -/
def msgSend (env : ToolEnv) (msg : NlMsg) : Tool Bool :=
  if env.sendFails msg then do
    Logged.emit (.report .noSocket)
    pure false
  else do
    Logged.emit (.send msg)
    pure true

/-- `msg_recv`; the callback works on a state. -/
def msgRecv (callback : σ → List CtrlAttr → Except ToolFault (σ × Int)) :
    List Reply → σ → Except ToolFault (σ × Int)
  | [], data => .ok (data, -1)
  | .message attrs :: rest, data => do
      let (data, ret) ← callback data attrs
      if ret ≤ 0 then .ok (data, ret) else msgRecv callback rest data
  | .ack :: _, data => .ok (data, 0)
  | .refused :: _, data => .ok (data, -1)

/-- `msg_query` and `msg_query2`, which differ in the netlink bus. -/
def msgQuery (env : ToolEnv) (msg : NlMsg) (callback : σ → List CtrlAttr → Except ToolFault (σ × Int)) (data : σ) :
    Tool (σ × Int) := do
  if ← msgSend env msg then Logged.lift (msgRecv callback (env.replies msg) data)
  else pure (data, -enotsup)

/-- A query with `NULL` for the callback, for which `mnl_cb_run` goes on. -/
def msgQueryNoCb (env : ToolEnv) (msg : NlMsg) : Tool Int := do
  let (_, ret) ← msgQuery env msg (fun data _ => .ok (data, 1)) ()
  pure ret

def getFamily (env : ToolEnv) : Tool Int := do
  let (id, err) ← msgQuery env .getFamily (familyIdCb env.ctrlAttrMax) none
  if err ≠ 0 then pure err
  else match id with
    | none => Logged.lift (.error .uninitialised)
    | some id => pure id.toNat

def msgDoit (env : ToolEnv) (msg : GenlMsg) : Tool Int := msgQueryNoCb env (.genl msg)

/-- `__init` without a type: the family's id, unless there is no message. -/
def initGenl (env : ToolEnv) : Tool (Option Int) :=
  if env.callocFails then pure none
  else do
    let type ← getFamily env
    if type ≤ 0 then do
      Logged.emit (.report .noFamily)
      pure none
    else pure (some type)

def msgInit (env : ToolEnv) (g : Globals) (cmd : UbrNlCmd) : Tool (Option GenlMsg) := do
  match ← initGenl env with
  | none => pure none
  | some family => pure (some { family, cmd, ifindex := if g.brindex ≠ 0 then some g.brindex else none })

/-- `msg_init2`, whose result is written to whatever it is. -/
def msgInit2 (env : ToolEnv) : Tool Unit :=
  if env.callocFails then Logged.lift (.error .nullDeref) else pure ()

end UnassumingBridge
