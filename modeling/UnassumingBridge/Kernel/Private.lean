import UnassumingBridge.Support.Bitmap
import Mathlib.Logic.Function.Basic

/-! # The bridge's data (`ubr-private.h`)

The structures of the kernel module, with the fields that its functions read or
write. A pointer to a `struct ubr_vlan` is a `VlanRef`; what it points at is in
`Ubr.heap` until the RCU callback has freed it. References are never reused, so
a stale pointer is always recognised. Accesses that are undefined in C end in a
`Fault`.
-/

namespace UnassumingBridge

open Support

/-- Identity of a `struct net_device`. -/
abbrev Dev := Nat

/-- `UBR_MAX_PORTS` is `1 << UBR_MAX_PORTS_SHIFT`. -/
abbrev Pidx := Fin 256

/-- There is a port 0, the host. -/
instance neZeroPorts : NeZero 256 := ⟨by decide⟩

abbrev UbrVec := Bitmap 256

abbrev Vid := BitVec 16

/-- An Ethernet address, first byte on the wire most significant. -/
abbrev Mac := BitVec 48

abbrev Byte := BitVec 8

/-- A `__be16` field as the CPU reads it. -/
abbrev Be16 := BitVec 16

/-- Pointer to a `struct ubr_vlan`. -/
abbrev VlanRef := Nat

/-- What differs between machines and kernel configurations. -/
structure Config where
  bigEndian : Bool
  /-- `IS_ENABLED(CONFIG_IPV6)` -/
  ipv6 : Bool
  /-- The bucket that `hash_add` and `hash_for_each_possible` use for a key. -/
  vlanHash : Vid → Fin 256
  /-- `HZ` -/
  hz : Nat
  /-- `VLAN_MAX_DEPTH`, or more than a frame can hold in kernels without that limit. -/
  vlanMaxDepth : Nat

/-- Time in ticks: `later t n` is `t + n`, `timeAfter` is the kernel's `time_after`. -/
class Jiffies (τ : Type) where
  later : τ → Nat → τ
  timeAfter : τ → τ → Bool

/-- Time that never wraps. -/
instance : Jiffies Nat where
  later t n := t + n
  timeAfter a b := decide (b < a)

/-- An `unsigned long` of `w` bits: `time_after(a, b)` is `(long)(b - a) < 0`. -/
instance {w : Nat} : Jiffies (BitVec w) where
  later t n := t + BitVec.ofNat w n
  timeAfter a b := (b - a).slt 0#w

/-- What the C code cannot survive. -/
inductive Fault where
  | nullDeref
  | useAfterFree
  /-- `call_rcu` on a head that is still queued, or memory of a queued head cleared. -/
  | rcuHeadInUse
  /-- `ubr_from_port` on a port whose `ingress_cb.pidx` is not its slot. -/
  | wrongBridge
  deriving DecidableEq, Repr

/-- The negative return values of the module. -/
inductive Errno where
  | enoent | enomem | ebusy | enodev | einval | eopnotsupp
  /-- An error that a kernel function outside the module returned. -/
  | other (code : Nat)
  deriving DecidableEq, Repr

/-- Zero or a negative errno. -/
abbrev Ret := Except Errno Unit

/-- `struct ubr_cb` -/
structure UbrCb where
  pidx : Pidx := 0
  vlanFiltering : Bool := false
  saLearning : Bool := false
  ctrl : Bool := false
  vlan : Option VlanRef := none
  vec : UbrVec := .zero

/-- `enum ubr_addr_type` -/
inductive UbrAddrType where
  | mac | ip4 | ip6
  deriving DecidableEq, Repr

/-- `struct ubr_fdb_addr`. The union is its 16 bytes, first byte most significant. -/
structure UbrFdbAddr where
  type : UbrAddrType := .mac
  vid : Vid := 0
  union : BitVec 128 := 0
  deriving DecidableEq, Repr

def UbrFdbAddr.setMac (a : UbrFdbAddr) (mac : Mac) : UbrFdbAddr := { a with union := mac ++ 0#80 }

def UbrFdbAddr.setIp4 (a : UbrFdbAddr) (ip4 : BitVec 32) : UbrFdbAddr := { a with union := ip4 ++ 0#96 }

def UbrFdbAddr.setIp6 (a : UbrFdbAddr) (ip6 : BitVec 128) : UbrFdbAddr := { a with union := ip6 }

/-- `enum ubr_fdb_proto` -/
inductive UbrFdbProto where
  | dynamic | external | user
  deriving DecidableEq, Repr

/-- `struct ubr_fdb_node` -/
structure UbrFdbNode (τ : Type) where
  addr : UbrFdbAddr
  vec : UbrVec
  proto : UbrFdbProto
  tstamp : τ

/-- `struct ubr_fdb`; `rcu` holds the removed nodes that were handed to `call_rcu`. -/
structure UbrFdb (τ : Type) where
  nodes : List (UbrFdbNode τ) := []
  rcu : List (UbrFdbNode τ) := []
  ageingTimeout : Nat

/-- `struct ubr_fdb_flush_op` -/
structure UbrFdbFlushOp where
  perPort : Bool := false
  pidx : Pidx := 0
  perVlan : Bool := false
  vid : Vid := 0
  perProto : Bool := false
  proto : UbrFdbProto := .dynamic
  old : Bool := false

/-- `struct ubr_vlan` -/
structure UbrVlan where
  vid : Vid
  saLearning : Bool
  members : UbrVec := .zero
  tagged : UbrVec := .zero
  mcflood : UbrVec
  bcflood : UbrVec
  ucflood : UbrVec

/-- `struct ubr_port`; the default value is the zeroed slot. -/
structure UbrPort where
  dev : Option Dev := none
  ingressCb : UbrCb := {}
  pvid : Vid := 0

/-- `struct ubr`, with the memory of its VLAN objects and the RCU callbacks that
    were queued for its VLANs and port slots and have not run. -/
structure Ubr (τ : Type) where
  dev : Dev
  /-- `ubr->dev->dev_addr`; the module offers no way to change it. -/
  devAddr : Mac
  vlanProto : BitVec 16
  /-- The buckets of `DECLARE_HASHTABLE(vlans, 8)`. -/
  vlans : Fin 256 → List VlanRef := fun _ => []
  heap : VlanRef → Option UbrVlan := fun _ => none
  nextVlan : VlanRef := 0
  vlanRcu : List VlanRef := []
  fdb : UbrFdb τ
  busy : UbrVec := .zero
  ports : Pidx → UbrPort := fun _ => {}
  portRcu : List Pidx := []

namespace Ubr

variable {τ : Type}

/-- Follow a `struct ubr_vlan *`. -/
def vlanAt (s : Ubr τ) : Option VlanRef → Except Fault UbrVlan
  | none => .error .nullDeref
  | some r =>
      match s.heap r with
      | none => .error .useAfterFree
      | some v => .ok v

/-- The heap after a write to a VLAN object. -/
def putVlan (s : Ubr τ) (r : VlanRef) (v : UbrVlan) : Ubr τ :=
  { s with heap := Function.update s.heap r (some v) }

/-- Change the object behind a `struct ubr_vlan *`. -/
def modVlan (s : Ubr τ) (p : Option VlanRef) (f : UbrVlan → UbrVlan) : Except Fault (Ubr τ) :=
  match p with
  | none => .error .nullDeref
  | some r =>
      match s.heap r with
      | none => .error .useAfterFree
      | some v => .ok (s.putVlan r (f v))

def putPort (s : Ubr τ) (k : Pidx) (p : UbrPort) : Ubr τ :=
  { s with ports := Function.update s.ports k p }

@[simp] theorem putPort_self (s : Ubr τ) (k : Pidx) (p : UbrPort) : (s.putPort k p).ports k = p := by
  simp [putPort]

theorem putPort_other (s : Ubr τ) (p : UbrPort) {j k : Pidx} (other : j ≠ k) :
    (s.putPort k p).ports j = s.ports j := by
  simp [putPort, other]

theorem vlanAt_eq_ok {s : Ubr τ} {p : Option VlanRef} {v : UbrVlan} :
    s.vlanAt p = .ok v ↔ ∃ r, p = some r ∧ s.heap r = some v := by
  cases p with
  | none => simp [vlanAt]
  | some r => cases h : s.heap r <;> simp [vlanAt, h]

@[simp] theorem vlanAt_none (s : Ubr τ) : s.vlanAt none = .error .nullDeref := rfl

theorem vlanAt_some_eq_ok {s : Ubr τ} {r : VlanRef} {v : UbrVlan} :
    s.vlanAt (some r) = .ok v ↔ s.heap r = some v := by
  cases h : s.heap r <;> simp [vlanAt, h]

theorem vlanAt_some {s : Ubr τ} {r : VlanRef} {v : UbrVlan} (h : s.heap r = some v) :
    s.vlanAt (some r) = .ok v :=
  vlanAt_some_eq_ok.mpr h

theorem modVlan_eq_ok {s s' : Ubr τ} {p : Option VlanRef} {f : UbrVlan → UbrVlan} :
    s.modVlan p f = .ok s' ↔ ∃ r v, p = some r ∧ s.heap r = some v ∧ s' = s.putVlan r (f v) := by
  cases p with
  | none => simp [modVlan]
  | some r => cases h : s.heap r <;> simp [modVlan, h, eq_comm]

end Ubr

/-- `htons` -/
def Config.htons (cfg : Config) (x : BitVec 16) : Be16 :=
  if cfg.bigEndian then x else x.extractLsb' 0 8 ++ x.extractLsb' 8 8

theorem swap16_swap16 (x : BitVec 16) :
    (x.extractLsb' 0 8 ++ x.extractLsb' 8 8).extractLsb' 0 8 ++
      (x.extractLsb' 0 8 ++ x.extractLsb' 8 8).extractLsb' 8 8 = x := by
  apply BitVec.eq_of_getLsbD_eq
  intro i hi
  simp only [BitVec.getLsbD_append, BitVec.getLsbD_extractLsb']
  by_cases h : i < 8
  · simp [h]
  · simp [h]
    grind

@[simp] theorem Config.htons_htons (cfg : Config) (x : BitVec 16) : cfg.htons (cfg.htons x) = x := by
  simp only [htons]
  split
  · rfl
  · exact swap16_swap16 x

end UnassumingBridge
