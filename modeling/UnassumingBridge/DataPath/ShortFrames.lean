import UnassumingBridge.DataPath.Database
import UnassumingBridge.DataPath.Delivery

/-! # Frames that end inside their IP header

The lookup of `ubr_fdb_forward` takes the ethertype's word for it that there is an IP
header, and reads the destination of a group frame without looking at the length. When
the VLAN stage has put a tag back into the frame, the lookup takes for the MAC header what
begins in front of the frame.
-/

namespace UnassumingBridge

open Support

variable {τ : Type} {cfg : Config}

/-- A group frame of an IP protocol that does not hold the whole of the fixed header. -/
def TruncatedIp (cfg : Config) (skb : Skb) : Prop :=
  isMulticastEtherAddr skb.frame.hDest = true ∧
    ((skb.protocol = cfg.htons ethPIp ∧ skb.frame.payload.length < skb.networkHeader + 20) ∨
      (cfg.ipv6 = true ∧ skb.protocol = cfg.htons ethPIpv6 ∧ skb.frame.payload.length < skb.networkHeader + 40))

instance (cfg : Config) (skb : Skb) : Decidable (TruncatedIp cfg skb) :=
  inferInstanceAs (Decidable (isMulticastEtherAddr skb.frame.hDest = true ∧
    ((skb.protocol = cfg.htons ethPIp ∧ skb.frame.payload.length < skb.networkHeader + 20) ∨
      (cfg.ipv6 = true ∧ skb.protocol = cfg.htons ethPIpv6 ∧ skb.frame.payload.length < skb.networkHeader + 40))))

section Reads

variable {w : Nat} {env other : FrameEnv} {skb : Skb} {off len : Nat}

theorem readNetwork_inside (inside : skb.networkHeader + off + len ≤ skb.frame.payload.length) :
    skb.readNetwork w env off len = skb.readNetwork w other off len := by
  simp only [Skb.readNetwork]
  apply List.foldl_ext
  intro acc i member
  have here : skb.networkHeader + off + i < skb.frame.payload.length := by
    have below := List.mem_range.mp member
    omega
  rw [List.getElem?_eq_getElem here]
  rfl

theorem readNetwork_low (wide : 0 < w) : (skb.readNetwork w env off (len + 1)).getLsbD 0 =
    ((skb.frame.payload[skb.networkHeader + off + len]?).getD (env.beyond (off + len))).getLsbD 0 := by
  simp only [Skb.readNetwork, List.range_succ, List.foldl_append, List.foldl_cons, List.foldl_nil,
    BitVec.getLsbD_or, BitVec.getLsbD_shiftLeft, BitVec.getLsbD_setWidth]
  simp [wide]

/-- A read that is the same whatever lies behind the frame ends inside it. -/
theorem readNetwork_steady (wide : 0 < w)
    (steady : ∀ env other, skb.readNetwork w env off (len + 1) = skb.readNetwork w other off (len + 1)) :
    skb.networkHeader + off + len < skb.frame.payload.length := by
  by_contra ends
  have behind : skb.frame.payload[skb.networkHeader + off + len]? = none := by
    rw [List.getElem?_eq_none_iff]
    omega
  have bits := congrArg (fun x => x.getLsbD 0) (steady { beyond := fun _ => 0 } { beyond := fun _ => 1 })
  simp [readNetwork_low wide, behind] at bits

end Reads

section Key

variable {env other : FrameEnv} {vlan : UbrVlan} {skb : Skb}

theorem htons_ip_ne_ipv6 : cfg.htons ethPIp ≠ cfg.htons ethPIpv6 := by
  intro same
  have numbers := congrArg cfg.htons same
  rw [Config.htons_htons, Config.htons_htons] at numbers
  exact absurd numbers (by decide)

theorem destKey_ip (group : isMulticastEtherAddr skb.frame.hDest = true) (ip : skb.protocol = cfg.htons ethPIp) :
    ubrFdbDestKey cfg env vlan skb = { type := .ip4, vid := vlan.vid, union := skb.ipDaddr env ++ 0#96 } := by
  simp only [ubrFdbDestKey, group, ip, and_self, if_true]
  rfl

theorem destKey_ipv6 (group : isMulticastEtherAddr skb.frame.hDest = true) (enabled : cfg.ipv6 = true)
    (ip : skb.protocol = cfg.htons ethPIpv6) :
    ubrFdbDestKey cfg env vlan skb = { type := .ip6, vid := vlan.vid, union := skb.ipv6Daddr env } := by
  simp only [ubrFdbDestKey, group, ip, enabled, htons_ip_ne_ipv6.symm, and_false, if_false, and_self, if_true]
  rfl

theorem destKey_mac (other : ¬ (isMulticastEtherAddr skb.frame.hDest = true ∧ skb.protocol = cfg.htons ethPIp))
    (other' : ¬ (isMulticastEtherAddr skb.frame.hDest = true ∧ cfg.ipv6 = true ∧ skb.protocol = cfg.htons ethPIpv6)) :
    ubrFdbDestKey cfg env vlan skb = macKey vlan.vid skb.frame.hDest := by
  simp only [ubrFdbDestKey, if_neg other, if_neg other']
  rfl

theorem destKey_steady_iff :
    (∀ env other, ubrFdbDestKey cfg env vlan skb = ubrFdbDestKey cfg other vlan skb) ↔ ¬ TruncatedIp cfg skb := by
  by_cases ip : isMulticastEtherAddr skb.frame.hDest = true ∧ skb.protocol = cfg.htons ethPIp
  · obtain ⟨group, ip⟩ := ip
    have truncated : TruncatedIp cfg skb ↔ skb.frame.payload.length < skb.networkHeader + 20 := by
      simp [TruncatedIp, group, ip, htons_ip_ne_ipv6]
    rw [truncated]
    constructor
    · intro steady short
      have reads (env other : FrameEnv) : skb.readNetwork 32 env 16 (3 + 1) = skb.readNetwork 32 other 16 (3 + 1) := by
        have keys := steady env other
        rw [destKey_ip group ip, destKey_ip group ip] at keys
        exact (BitVec.append_left_inj 0#96).mp (UbrFdbAddr.mk.inj keys).2.2
      have inside := readNetwork_steady (by decide) reads
      omega
    · intro whole env other
      have same : skb.ipDaddr env = skb.ipDaddr other := readNetwork_inside (by omega)
      rw [destKey_ip group ip, destKey_ip group ip, same]
  · by_cases ipv6 : isMulticastEtherAddr skb.frame.hDest = true ∧ cfg.ipv6 = true ∧ skb.protocol = cfg.htons ethPIpv6
    · obtain ⟨group, enabled, ipv6⟩ := ipv6
      have truncated : TruncatedIp cfg skb ↔ skb.frame.payload.length < skb.networkHeader + 40 := by
        simp [TruncatedIp, group, enabled, ipv6, htons_ip_ne_ipv6.symm]
      rw [truncated]
      constructor
      · intro steady short
        have reads (env other : FrameEnv) :
            skb.readNetwork 128 env 24 (15 + 1) = skb.readNetwork 128 other 24 (15 + 1) := by
          have keys := steady env other
          rw [destKey_ipv6 group enabled ipv6, destKey_ipv6 group enabled ipv6] at keys
          exact (UbrFdbAddr.mk.inj keys).2.2
        have inside := readNetwork_steady (by decide) reads
        omega
      · intro whole env other
        have same : skb.ipv6Daddr env = skb.ipv6Daddr other := readNetwork_inside (by omega)
        rw [destKey_ipv6 group enabled ipv6, destKey_ipv6 group enabled ipv6, same]
    · have whole : ¬ TruncatedIp cfg skb := by
        intro ⟨group, short⟩
        rcases short with ⟨proto, _⟩ | ⟨enabled, proto, _⟩
        · exact ip ⟨group, proto⟩
        · exact ipv6 ⟨group, enabled, proto⟩
      simp only [whole, not_false_eq_true, iff_true]
      intro env other
      rw [destKey_mac ip ipv6, destKey_mac ip ipv6]

end Key

theorem truncatedIp_congr {skb mid : Skb} (same : SameBytes mid skb) : TruncatedIp cfg skb ↔ TruncatedIp cfg mid := by
  simp only [TruncatedIp, same.frame, same.protocol, same.networkHeader]

variable [Jiffies τ]

/-- The key that is looked up for the frame, which the ingress stage leaves as `copy`, does
    not depend on the memory around it, and a group frame whose header is not whole goes
    where unknown group frames go. -/
structure LookupInside (cfg : Config) (s : Sys τ) (env : FrameEnv) (p : Pidx) (skb : Skb) (vlan : UbrVlan)
    (copy : Skb) : Prop where
  inside headroom beyond verdict copy' :
    ubrVlanIngress cfg s.ubr { env with headroom, beyond } (s.onPort p skb) = .ok (verdict, some copy') →
      ubrFdbDestKey cfg { env with headroom, beyond } vlan copy' = ubrFdbDestKey cfg env vlan copy
  flooded : TruncatedIp cfg copy →
    (ubrFdbForward cfg s.ubr.fdb s.jiffies env vlan copy).2.cb.vec = copy.cb.vec.and (groupFilter vlan copy.frame.hDest)

/-- In a reachable bridge no group frame is found, however short. -/
theorem truncated_flooded {s : Sys τ} (reached : Reachable (bridge τ cfg) s) (env : FrameEnv) (vlan : UbrVlan)
    {copy : Skb} (truncated : TruncatedIp cfg copy) :
    (ubrFdbForward cfg s.ubr.fdb s.jiffies env vlan copy).2.cb.vec =
      copy.cb.vec.and (groupFilter vlan copy.frame.hDest) := by
  have known : StationsOnly s.ubr.fdb := stationsOnly_of_reachable (database_of_bridge reached)
  have learned : StationsOnly (ubrFdbLearned s.ubr.fdb s.jiffies env vlan copy) := known.learned
  simp only [ubrFdbForward, learned.filter_group truncated.1]

/-- A key that begins in the headroom is not the same whatever is there. -/
theorem destKey_headroom (cfg : Config) (env : FrameEnv) (vlan : UbrVlan) {rest : BitVec 16} {copies : BitVec 32 → Skb}
    (begins : ∀ headroom, (copies headroom).frame.hDest = (headroom ++ rest : Mac)) :
    ¬ ∀ headroom, ubrFdbDestKey cfg { env with headroom } vlan (copies headroom) =
      ubrFdbDestKey cfg { env with headroom := 0 } vlan (copies 0) := by
  intro steady
  have unicast (headroom : BitVec 32) (single : headroom.getLsbD 24 = false) :
      isMulticastEtherAddr (copies headroom).frame.hDest = false := by
    rw [begins headroom, isMulticastEtherAddr, BitVec.getLsbD_append]
    simpa using single
  have keys := steady 1
  rw [destKey_unicast (unicast 1 (by decide)), destKey_unicast (unicast 0 (by decide))] at keys
  have same := (macKey_inj.mp keys).2
  rw [begins 1, begins 0] at same
  exact absurd ((BitVec.append_left_inj rest).mp same) (by decide)

/-- The lookup depends on the bytes of the frame alone if, and only if, no tag was put in where the data
    pointer is and the IP header is whole. -/
theorem lookup_inside_iff {s : Sys τ} (reached : Reachable (bridge τ cfg) s) {p : Pidx} {env : FrameEnv}
    {skb copy : Skb} {verdict : Bool} {vlan : UbrVlan}
    (done : ubrVlanIngress cfg s.ubr env (s.onPort p skb) = .ok (verdict, some copy)) :
    LookupInside cfg s env p skb vlan copy ↔
      ((s.ubr.ports p).ingressCb.vlanFiltering = true → ¬ skb.Foreign cfg s.ubr.vlanProto) ∧
        ∀ mid ∈ ingressFrame cfg s.ubr env (s.onPort p skb), ¬ TruncatedIp cfg mid := by
  have ingress := ubrVlanIngress_cases done
  obtain ⟨mid, entered, _, bytes⟩ := ingress.frame
  rw [entered]
  have own_iff : skb.Foreign cfg s.ubr.vlanProto ↔ (s.onPort p skb).Foreign cfg s.ubr.vlanProto := Iff.rfl
  constructor
  · intro safe
    have own : (s.ubr.ports p).ingressCb.vlanFiltering = true → ¬ skb.Foreign cfg s.ubr.vlanProto := by
      intro filtering foreign
      obtain ⟨rest, steady⟩ := ingress.foreign_dest filtering (own_iff.mp foreign)
      choose copies begins run using fun headroom => steady headroom env.beyond
      apply destKey_headroom cfg env vlan begins
      intro headroom
      rw [safe.inside headroom env.beyond verdict _ (run headroom), safe.inside 0 env.beyond verdict _ (run 0)]
    refine ⟨own, ?_⟩
    intro other member
    cases member
    rw [← truncatedIp_congr bytes]
    have steady (headroom : BitVec 32) (beyond : Nat → Byte) :=
      safe.inside headroom beyond verdict copy ((ubrVlanIngress_steady own headroom beyond).trans done)
    apply destKey_steady_iff.mp
    intro e e'
    exact (steady e.headroom e.beyond).trans (steady e'.headroom e'.beyond).symm
  · rintro ⟨own, whole⟩
    have here : ¬ TruncatedIp cfg copy := (truncatedIp_congr bytes).not.mpr (whole mid rfl)
    refine ⟨?_, fun truncated => truncated_flooded reached env vlan truncated⟩
    intro headroom beyond verdict' copy' run
    cases done.symm.trans ((ubrVlanIngress_steady own headroom beyond).symm.trans run)
    exact destKey_steady_iff.mpr here _ _

/-- A broadcast that says it is not IP and ends with the Ethernet header. -/
def emptyFrame : Skb := { broadcastFrame with frame.hProto := 0x88cc, protocol := x86.htons 0x88cc }

/-- The lookup of an empty broadcast does not look behind it. -/
theorem lookup_inside_x86 : ∃ s : Sys Nat, Reachable (bridge Nat x86) s ∧ ∃ copy,
    ubrVlanIngress x86 s.ubr {} (s.onPort 1 emptyFrame) = .ok (true, some copy) ∧
      ∀ vlan, LookupInside x86 s {} 1 emptyFrame vlan copy := by
  obtain ⟨tr, s, run, test⟩ := run_booted x86 (fun _ _ => True) [.portAdd 1 {}]
    (fun _ s => !(s.ubr.ports 1).ingressCb.vlanFiltering &&
      (ubrVlanIngress x86 s.ubr {} (s.onPort 1 emptyFrame)).toOption.any fun out => out.1 && out.2.isSome)
    (by decide +kernel)
  obtain ⟨hub, accepts⟩ := (Bool.and_eq_true _ _).mp test
  have hub : (s.ubr.ports 1).ingressCb.vlanFiltering = false := by simpa using hub
  obtain ⟨⟨verdict, kept⟩, returned, accepts⟩ := (Option.any_eq_true _ _).mp accepts
  obtain ⟨rfl, left⟩ := (Bool.and_eq_true _ _).mp accepts
  obtain ⟨copy, rfl⟩ := Option.isSome_iff_exists.mp left
  have accepted := ok_of_toOption returned
  refine ⟨s, run.reachable, copy, accepted, fun vlan => (lookup_inside_iff run.reachable accepted).mpr ⟨?_, ?_⟩⟩
  · intro filtering
    cases hub.symm.trans filtering
  · intro mid entered
    have same : mid = s.onPort 1 emptyFrame := by
      simpa [ingressFrame, Sys.onPort, hub, eq_comm] using entered
    have short : ¬ TruncatedIp x86 emptyFrame := by decide
    rw [same]
    exact short

/-- A broadcast that says it is IP and ends with the Ethernet header. -/
theorem lookup_reads_past_frame :
    ¬ ∀ s : Sys Nat, Reachable (bridge Nat x86) s → ∀ p env skb verdict copy vlan,
      ubrVlanIngress x86 s.ubr env (s.onPort p skb) = .ok (verdict, some copy) →
      s.ubr.vlanAt copy.cb.vlan = .ok vlan → LookupInside x86 s env p skb vlan copy := by
  intro claim
  obtain ⟨tr, s, run, test⟩ := run_booted x86 (fun _ _ => True) [.portAdd 1 {}]
    (fun _ s => (acceptedBroadcast s 1).any fun copy => decide (TruncatedIp x86 copy)) (by decide +kernel)
  obtain ⟨copy, accepted, truncated⟩ := (Option.any_eq_true ..).mp test
  have done := acceptedBroadcast_some accepted
  obtain ⟨vlan, read, _⟩ := accepted_vec done
  obtain ⟨mid, entered, _, bytes⟩ := (ubrVlanIngress_cases done).frame
  have safe := (lookup_inside_iff run.reachable done).mp
    (claim s run.reachable 1 {} broadcastFrame true copy vlan done read)
  exact safe.2 mid entered ((truncatedIp_congr bytes).mp (of_decide_eq_true truncated))

end UnassumingBridge
