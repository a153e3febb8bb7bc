import UnassumingBridge.Kernel.Private

/-! # Socket buffers

The parts of `struct sk_buff` that the bridge uses, and the kernel helpers it
calls on them, each by its effect on the buffer it gets. Helpers that can fail take
the outcome from a `FrameEnv`, which says what they do while one frame is handled.

The bridge works with the data pointer behind the MAC header; only on the way down
through a port is it at the MAC header.
-/

namespace UnassumingBridge

open Support

/-- A frame from the destination address to the end, without the metadata tag.
    `hProto` is the value of the two bytes after the source address. -/
structure Frame where
  hDest : Mac
  hSource : Mac
  hProto : BitVec 16
  payload : List Byte
  deriving DecidableEq, Repr

/-- The six bytes of an address. -/
def macBytes (m : Mac) : List Byte :=
  [m.extractLsb' 40 8, m.extractLsb' 32 8, m.extractLsb' 24 8, m.extractLsb' 16 8, m.extractLsb' 8 8, m.extractLsb' 0 8]

/-- A 16-bit number in network order. -/
def wordBytes (x : BitVec 16) : List Byte := [x.extractLsb' 8 8, x.extractLsb' 0 8]

namespace Frame

/-- The frame as it lies in memory. -/
def bytes (f : Frame) : List Byte :=
  macBytes f.hDest ++ macBytes f.hSource ++ wordBytes f.hProto ++ f.payload

/-- Put a VLAN tag behind the source address. -/
def pushTag (tpid tci : BitVec 16) (f : Frame) : Frame :=
  { f with
    hProto := tpid
    payload := tci.extractLsb' 8 8 :: tci.extractLsb' 0 8 ::
      f.hProto.extractLsb' 8 8 :: f.hProto.extractLsb' 0 8 :: f.payload }

/-- `__vlan_insert_tag` on a buffer whose data pointer is behind the MAC header. The
    helper makes four bytes of room in front of the data pointer, moves the twelve bytes
    behind it there and writes the tag behind those; the MAC header, too, begins four
    bytes earlier from then on, in the headroom. -/
def insertTagAtData (headroom : BitVec 32) (beyond : Nat → Byte) (tpid tci : BitVec 16) (f : Frame) : Frame where
  hDest := headroom ++ f.hDest.extractLsb' 32 16
  hSource := f.hDest.extractLsb' 0 32 ++ f.hSource.extractLsb' 32 16
  hProto := f.hSource.extractLsb' 16 16
  payload := ((List.range 12).map (fun i => (f.payload[i]?).getD (beyond i)) ++
    wordBytes tpid ++ wordBytes tci ++ f.payload.drop 12).take (f.payload.length + 4)

/-- The first tag's control information and the frame without that tag; `none`
    when the frame ends inside the tag. -/
def popTag (f : Frame) : Option (BitVec 16 × Frame) :=
  match f.payload with
  | a :: b :: c :: d :: rest => some (a ++ b, { f with hProto := c ++ d, payload := rest })
  | _ => none

@[simp] theorem pushTag_hProto (tpid tci : BitVec 16) (f : Frame) : (f.pushTag tpid tci).hProto = tpid := rfl

theorem bytes_append (x : BitVec 16) : x.extractLsb' 8 8 ++ x.extractLsb' 0 8 = x :=
  (BitVec.extractLsb'_append_extractLsb'_eq_extractLsb' rfl).trans BitVec.extractLsb'_eq_self

@[simp] theorem popTag_pushTag (tpid tci : BitVec 16) (f : Frame) :
    (f.pushTag tpid tci).popTag = some (tci, f) := by
  simp only [popTag, pushTag, bytes_append]

@[simp] theorem pushTag_length (tpid tci : BitVec 16) (f : Frame) :
    (f.pushTag tpid tci).payload.length = f.payload.length + 4 := rfl

@[simp] theorem insertTagAtData_length (headroom : BitVec 32) (beyond : Nat → Byte) (tpid tci : BitVec 16)
    (f : Frame) : (f.insertTagAtData headroom beyond tpid tci).payload.length = f.payload.length + 4 := by
  simp only [insertTagAtData, wordBytes, List.length_take, List.length_append, List.length_map, List.length_range,
    List.length_cons, List.length_nil, List.length_drop]
  omega

theorem popTag_length {f g : Frame} {tci : BitVec 16} (popped : f.popTag = some (tci, g)) :
    f.payload.length = g.payload.length + 4 := by
  simp only [popTag] at popped
  split at popped
  · rename_i bytes
    cases popped
    simp only [bytes, List.length_cons]
  · cases popped

end Frame

def isMulticastEtherAddr (m : Mac) : Bool := m.getLsbD 40

def isBroadcastEtherAddr (m : Mac) : Bool := m == BitVec.allOnes 48

def isZeroEtherAddr (m : Mac) : Bool := m == 0

def isValidEtherAddr (m : Mac) : Bool := !isMulticastEtherAddr m && !isZeroEtherAddr m

def ethP8021q : BitVec 16 := 0x8100
def ethP8021ad : BitVec 16 := 0x88a8
def ethPIp : BitVec 16 := 0x0800
def ethPIpv6 : BitVec 16 := 0x86dd
def ethP8023 : BitVec 16 := 0x0001
def ethP8022 : BitVec 16 := 0x0004
def ethP8023Min : BitVec 16 := 0x0600

def vlanVidMask : BitVec 16 := 0x0fff

/-- The VLAN tag in the buffer's metadata: `vlan_proto` and `vlan_tci`. -/
structure VlanTag where
  proto : Be16
  tci : BitVec 16
  deriving DecidableEq, Repr

/-- The received buffer, or the clone made for a port. -/
inductive Buf where
  | orig
  | clone (q : Pidx)
  deriving DecidableEq, Repr

/-- `struct sk_buff`. `vlanTag` is there iff `skb_vlan_tag_present`. The network
    header is counted from the data pointer behind the MAC header. -/
structure Skb where
  buf : Buf := .orig
  dev : Option Dev := none
  frame : Frame
  protocol : Be16
  vlanTag : Option VlanTag := none
  networkHeader : Nat := 0
  macLen : BitVec 16 := 14
  pktHost : Bool := false
  cb : UbrCb := {}

/-- What the kernel helpers do while one frame is handled: which of them fail, and
    the memory around the frame. `pushFails q` says that `skb_vlan_push` gets no
    memory for the copy of port `q`. -/
structure FrameEnv where
  untagFails : Bool := false
  insertFails : Bool := false
  cloneFails : Pidx → Bool := fun _ => false
  pushFails : Pidx → Bool := fun _ => false
  nodeAllocFails : Bool := false
  nodeInsertFails : Bool := false
  /-- The four bytes in front of the MAC header. -/
  headroom : BitVec 32 := 0
  /-- The memory behind the end of the frame, counted from the network header. -/
  beyond : Nat → Byte := fun _ => 0

/-- `vlan_set_encap_proto` -/
def vlanEncapProto (cfg : Config) (f : Frame) : Be16 :=
  if ethP8023Min ≤ f.hProto then cfg.htons f.hProto
  else match f.payload with
    | 0xff :: 0xff :: _ => cfg.htons ethP8023
    | _ => cfg.htons ethP8022

/-- `skb_reset_mac_len` with the data pointer behind the MAC header -/
def skbResetMacLen (skb : Skb) : Skb := { skb with macLen := BitVec.ofNat 16 (14 + skb.networkHeader) }

@[simp] theorem skbResetMacLen_vlanTag (skb : Skb) : (skbResetMacLen skb).vlanTag = skb.vlanTag := rfl

/-- `skb_vlan_untag`; `none` when it has freed the buffer. -/
def skbVlanUntag (cfg : Config) (env : FrameEnv) (skb : Skb) : Option Skb :=
  if env.untagFails then none
  else match skb.frame.popTag with
    | none => none
    | some (tci, frame) =>
        some (skbResetMacLen { skb with
          frame
          protocol := vlanEncapProto cfg frame
          vlanTag := some ⟨skb.protocol, tci⟩
          networkHeader := 0 })

/-- `vlan_insert_tag_set_proto` with the data pointer behind the MAC header; `none`
    when it has freed the buffer. The network header stays where it is in memory,
    and the metadata tag stays. -/
def vlanInsertTagSetProto (cfg : Config) (env : FrameEnv) (tag : VlanTag) (skb : Skb) : Option Skb :=
  if env.insertFails then none
  else some { skb with
    frame := skb.frame.insertTagAtData env.headroom env.beyond (cfg.htons tag.proto) tag.tci
    protocol := tag.proto
    networkHeader := skb.networkHeader + 4 }

/-- `__vlan_hwaccel_put_tag` -/
def vlanHwaccelPutTag (tag : VlanTag) (skb : Skb) : Skb := { skb with vlanTag := some tag }

/-- `__vlan_hwaccel_clear_tag` -/
def vlanHwaccelClearTag (skb : Skb) : Skb := { skb with vlanTag := none }

/-- `skb_vlan_push`: a metadata tag that is already there is written into the frame
    first. When the data pointer is not at the MAC header, or there is no memory for
    that, nothing is done. -/
def skbVlanPush (cfg : Config) (fails atMac : Bool) (tag : VlanTag) (skb : Skb) : Skb :=
  match skb.vlanTag with
  | none => vlanHwaccelPutTag tag skb
  | some old =>
      if atMac && !fails then
        vlanHwaccelPutTag tag { skb with
          frame := skb.frame.pushTag (cfg.htons old.proto) old.tci
          protocol := old.proto
          macLen := skb.macLen + 4 }
      else skb

/-- The bytes from the data pointer on. -/
def Skb.data (atMac : Bool) (skb : Skb) : List Byte := if atMac then skb.frame.bytes else skb.frame.payload

/-- `eth_type_vlan` -/
def ethTypeVlan (cfg : Config) (type : Be16) : Bool := type == cfg.htons ethP8021q || type == cfg.htons ethP8021ad

/-- The loop of `__vlan_get_protocol` over at most that many VLAN headers: the type
    behind the last one, or 0. -/
def vlanWalk (cfg : Config) (data : List Byte) : Nat → Nat → Be16
  | 0, _ => 0
  | headers + 1, depth =>
      match data.drop depth with
      | _ :: _ :: a :: b :: _ =>
          let type := cfg.htons (a ++ b)
          if ethTypeVlan cfg type then vlanWalk cfg data headers (depth + 4) else type
      | _ => 0

/-- `__vlan_get_protocol` for `skb->protocol`, reading from the data pointer on. -/
def vlanGetProtocol (cfg : Config) (atMac : Bool) (skb : Skb) : Be16 :=
  if !ethTypeVlan cfg skb.protocol then skb.protocol
  else if skb.macLen = 0 then vlanWalk cfg (skb.data atMac) (cfg.vlanMaxDepth - 1) 14
  else if skb.macLen < 4 then 0
  else vlanWalk cfg (skb.data atMac) (cfg.vlanMaxDepth - 1) (skb.macLen.toNat - 4)

/-- What the device sends for a buffer: the metadata tag goes in front. -/
def Skb.wire (cfg : Config) (skb : Skb) : Frame :=
  match skb.vlanTag with
  | none => skb.frame
  | some tag => skb.frame.pushTag (cfg.htons tag.proto) tag.tci

/-- The big-endian number in the `len` bytes at offset `off` of the network header. -/
def Skb.readNetwork (w : Nat) (env : FrameEnv) (skb : Skb) (off len : Nat) : BitVec w :=
  (List.range len).foldl (fun acc i => (acc <<< 8) |||
    ((skb.frame.payload[skb.networkHeader + off + i]?).getD (env.beyond (off + i))).setWidth w) 0

/-- `ip_hdr(skb)->daddr` -/
def Skb.ipDaddr (env : FrameEnv) (skb : Skb) : BitVec 32 := skb.readNetwork 32 env 16 4

/-- `ipv6_hdr(skb)->daddr` -/
def Skb.ipv6Daddr (env : FrameEnv) (skb : Skb) : BitVec 128 := skb.readNetwork 128 env 24 16

end UnassumingBridge
