import UnassumingBridge.Kernel.Skb

/-! # VLANs (`ubr-vlan.c`)

Classification of received frames, membership, and the registry of VLAN
objects. The netlink commands of the same file are in
`UnassumingBridge.Kernel.Netlink`.
-/

namespace UnassumingBridge

open Support

variable {τ : Type}

/-- The walk of `hash_for_each_possible` along one bucket. -/
def findInBucket (s : Ubr τ) (vid : Vid) : List VlanRef → Except Fault (Option VlanRef)
  | [] => .ok none
  | r :: rest => do
      let vlan ← s.vlanAt (some r)
      if vlan.vid = vid then .ok (some r) else findInBucket s vid rest

def ubrVlanFind (cfg : Config) (s : Ubr τ) (vid : Vid) : Except Fault (Option VlanRef) :=
  findInBucket s vid (s.vlans (cfg.vlanHash vid))

/-- The stages of `ubr_vlan_ingress` that normalise the tag: `none` when a helper
    has freed the buffer, otherwise the buffer with the VID of a C-tag, or 0. -/
def ubrVlanNormalise (cfg : Config) (vlanProto : BitVec 16) (env : FrameEnv) (skb : Skb) :
    Option (Skb × Vid) := do
  let skb ←
    (if skb.vlanTag.isNone ∧ skb.protocol = vlanProto then skbVlanUntag cfg env skb
    else some skb)
  match skb.vlanTag with
  | none => some (skb, 0)
  | some tag =>
      if cfg.htons tag.proto ≠ vlanProto then do
        let skb ← vlanInsertTagSetProto cfg env tag skb
        some (skbResetMacLen skb, 0)
      else some (skb, tag.tci &&& vlanVidMask)

/-- The verdict, and the buffer unless a helper has freed it. -/
def ubrVlanIngress (cfg : Config) (s : Ubr τ) (env : FrameEnv) (skb : Skb) :
    Except Fault (Bool × Option Skb) :=
  if !skb.cb.vlanFiltering then do
    let vlan ← s.vlanAt skb.cb.vlan
    .ok (true, some { skb with cb.vec := skb.cb.vec.and vlan.members })
  else
    match ubrVlanNormalise cfg s.vlanProto env skb with
    | none => .ok (false, none)
    | some (skb, vid) => do
        let tagged := vid ≠ 0
        let found ← (if tagged then ubrVlanFind cfg s vid else .ok skb.cb.vlan)
        let skb := { skb with cb.vlan := found }
        if found.isNone then .ok (false, some skb)
        else
          let vlan ← s.vlanAt found
          let skb := if tagged then skb else vlanHwaccelPutTag ⟨cfg.htons s.vlanProto, vlan.vid⟩ skb
          if skb.cb.pidx ∉ vlan.members then .ok (false, some skb)
          else .ok (true, some { skb with cb.vec := skb.cb.vec.and vlan.members })

def ubrVlanPortAdd (s : Ubr τ) (vlan : Option VlanRef) (pidx : Pidx) (tagged : Bool) :
    Except Fault (Ubr τ) :=
  s.modVlan vlan fun v =>
    let v := if tagged then { v with tagged := v.tagged.set pidx } else v
    { v with members := v.members.set pidx }

def ubrVlanPortDel (s : Ubr τ) (vlan : Option VlanRef) (pidx : Pidx) : Except Fault (Ubr τ) :=
  s.modVlan vlan fun v =>
    let v := { v with members := v.members.clear pidx }
    { v with tagged := v.tagged.clear pidx }

/-- The callback frees the object. -/
def ubrVlanDelRcu (s : Ubr τ) (vlan : VlanRef) : Ubr τ :=
  { s with
    heap := Function.update s.heap vlan none
    vlanRcu := s.vlanRcu.erase vlan }

def ubrVlanDel (s : Ubr τ) (vlan : VlanRef) : Except Fault (Ubr τ) := do
  let s ← s.modVlan (some vlan) fun v => { v with members := .zero }
  if vlan ∈ s.vlanRcu then .error .rcuHeadInUse
  else .ok { s with vlanRcu := s.vlanRcu ++ [vlan] }

/-- The object that `ubr_vlan_new` fills in. -/
def newVlan (vid : Vid) : UbrVlan where
  vid
  saLearning := true
  mcflood := .fill
  bcflood := .fill
  ucflood := .fill

/-- The bridge after a new object was allocated and `hash_add` put it at the head
    of its bucket. -/
def Ubr.addVlan (cfg : Config) (s : Ubr τ) (vid : Vid) : Ubr τ :=
  { s with
    heap := Function.update s.heap s.nextVlan (some (newVlan vid))
    vlans := Function.update s.vlans (cfg.vlanHash vid) (s.nextVlan :: s.vlans (cfg.vlanHash vid))
    nextVlan := s.nextVlan + 1 }

/-- `zallocFails`: `kzalloc` returns `NULL`. -/
def ubrVlanNew (cfg : Config) (s : Ubr τ) (vid : Vid) (zallocFails : Bool) :
    Except Fault (Ubr τ × Except Errno VlanRef) := do
  match ← ubrVlanFind cfg s vid with
  | some _ => .ok (s, .error .ebusy)
  | none =>
      if zallocFails then .ok (s, .error .enomem)
      else .ok (s.addVlan cfg vid, .ok s.nextVlan)

def ubrVlanNewlink (cfg : Config) (s : Ubr τ) (zallocFails : Bool) : Except Fault (Ubr τ × Ret) := do
  match ← ubrVlanNew cfg s 0 zallocFails with
  | (s, .error e) => .ok (s, .error e)
  | (s, .ok _) => .ok (s, .ok ())

end UnassumingBridge
