import UnassumingBridge.DataPath.Rejected
import UnassumingBridge.Effects.Delivery

/-! # Where accepted frames go

The set of ports is built by three intersections, in `ubr_port_init`,
`ubr_vlan_ingress` and `ubr_fdb_forward`, and delivered by the loop of
`ubr_deliver`. The set may name a slot whose port is gone, and the protocol that egress
asks for may not be found where it looks.
-/

namespace UnassumingBridge

open Support

variable {τ : Type} {cfg : Config} [Jiffies τ]

/-- The ports a destination stands for: where its entry says, while the entry is
    not old, and the VLAN's flood set otherwise. -/
def destinationPorts (cfg : Config) (fdb : UbrFdb τ) (now : τ) (env : FrameEnv) (vlan : UbrVlan)
    (skb : Skb) : UbrVec :=
  match (fdb.lookup (ubrFdbDestKey cfg env vlan skb)).filter fun node => !ubrFdbNodeIsOld fdb now node with
  | some node => node.vec
  | none =>
      if isBroadcastEtherAddr skb.frame.hDest then vlan.bcflood
      else if isMulticastEtherAddr skb.frame.hDest then vlan.mcflood
      else vlan.ucflood

/-- The members of the VLAN, other than the ingress port, that the destination stands for. -/
def recipients (p : Pidx) (vlan : UbrVlan) (destination : UbrVec) : UbrVec :=
  ((Bitmap.fill.clear p).and vlan.members).and destination

/-- The FDB when the frame's own source has been learned. -/
def Sys.learned (s : Sys τ) (env : FrameEnv) (vlan : UbrVlan) (skb : Skb) : UbrFdb τ :=
  ubrFdbLearned s.ubr.fdb s.jiffies env vlan skb

/-- The recipients of the frame `copy` in the VLAN, by the addresses it bears. -/
def Sys.recipients (cfg : Config) (s : Sys τ) (env : FrameEnv) (p : Pidx) (vlan : UbrVlan) (copy : Skb) :
    UbrVec :=
  UnassumingBridge.recipients p vlan
    (destinationPorts cfg (s.learned env vlan copy) s.jiffies env vlan copy)

/-- A frame that passed the ingress stage, with the addresses it was received with. -/
def Skb.addressedAs (copy received : Skb) : Skb :=
  { copy with frame.hDest := received.frame.hDest, frame.hSource := received.frame.hSource }

omit [Jiffies τ] in
/-- The ingress stage has not touched the addresses of a frame whose tag is not of another
    protocol. -/
theorem addressedAs_of_own {u : Ubr τ} {env : FrameEnv} {skb copy : Skb} {verdict : Bool}
    (own : skb.cb.vlanFiltering = true → ¬ skb.Foreign cfg u.vlanProto)
    (done : ubrVlanIngress cfg u env skb = .ok (verdict, some copy)) : copy.addressedAs skb = copy := by
  have same := (ubrVlanIngress_cases done).addresses own
  simp only [Skb.addressedAs, ← same.hDest, ← same.hSource]

theorem floodVec_eq (vlan : UbrVlan) (m : Mac) : floodVec vlan m =
    if isBroadcastEtherAddr m then vlan.bcflood
    else if isMulticastEtherAddr m then vlan.mcflood
    else vlan.ucflood := by
  simp only [floodVec]
  by_cases broadcast : isBroadcastEtherAddr m
  · have group : isMulticastEtherAddr m := by
      rw [eq_of_beq broadcast]
      decide
    simp [broadcast, group]
  · simp [broadcast]

theorem ubrFdbFilter_eq (fdb : UbrFdb τ) (now : τ) (env : FrameEnv) (vlan : UbrVlan) (skb : Skb) :
    ubrFdbFilter cfg fdb now env vlan skb = destinationPorts cfg fdb now env vlan skb := by
  simp only [ubrFdbFilter, destinationPorts, floodVec_eq]
  cases fdb.lookup (ubrFdbDestKey cfg env vlan skb) with
  | none => rfl
  | some node => cases old : ubrFdbNodeIsOld fdb now node <;> simp [Option.filter, old]

/-- The frame is handled as specified: nothing faults, the FDB is left with the source
    learned, each recipient by the addresses that the frame was received with is sent one
    copy, and the log holds nothing else. What goes down is the accepted frame, tagged for
    its port. -/
structure Delivered (cfg : Config) (s : Sys τ) (env : FrameEnv) (p : Pidx) (skb copy : Skb) (vlan : UbrVlan) :
    Prop where
  finished : (ubrForward cfg s.ubr s.jiffies env (s.onPort p skb)).res =
    .ok ({ s.ubr with fdb := s.learned env vlan copy }, false)
  delivered : DeliveredTo (s.recipients cfg env p vlan (copy.addressedAs skb))
    (ubrForward cfg s.ubr s.jiffies env (s.onPort p skb)).log
  sent q dev c : .down q dev c ∈ (ubrForward cfg s.ubr s.jiffies env (s.onPort p skb)).log →
    (s.ubr.ports q).dev = some dev ∧ ∃ buf, c = egressCopy cfg env s.ubr.vlanProto vlan true
      { copy with buf, dev := some dev, cb.vec := s.recipients cfg env p vlan copy } q

omit [Jiffies τ] in
theorem accepted_vec {u : Ubr τ} {env : FrameEnv} {skb copy : Skb}
    (accepted : ubrVlanIngress cfg u env skb = .ok (true, some copy)) :
    ∃ vlan, u.vlanAt copy.cb.vlan = .ok vlan ∧ copy.cb.vec = skb.cb.vec.and vlan.members := by
  cases ubrVlanIngress_cases accepted with
  | unfiltered hub read => exact ⟨_, read, rfl⟩
  | accepted filtering normal found live inside => exact ⟨_, Ubr.vlanAt_some live, rfl⟩

/-- The chain of VLAN headers that begins with this ethertype ends within the bytes. -/
def chainEnds : BitVec 16 → List Byte → Bool
  | proto, _ :: _ :: a :: b :: rest =>
      if proto = ethP8021q ∨ proto = ethP8021ad then chainEnds (a ++ b) rest else true
  | proto, _ => !(proto == ethP8021q || proto == ethP8021ad)

/-- The frame's chain of VLAN headers is not truncated. -/
def Frame.Complete (f : Frame) : Prop := chainEnds f.hProto f.payload = true

omit [Jiffies τ] in
theorem DeliveredTo.unique {vec vec' : UbrVec} {log : List SkbEvent} (one : DeliveredTo vec log)
    (other : DeliveredTo vec' log) : vec = vec' := by
  apply Bitmap.ext_mem
  intro q
  by_cases host : q = 0
  · subst host
    have counts := one.up.symm.trans other.up
    by_cases inside : 0 ∈ vec <;> by_cases inside' : 0 ∈ vec' <;> simp_all
  · have counts := (one.down q).symm.trans (other.down q)
    by_cases inside : q ∈ vec <;> by_cases inside' : q ∈ vec' <;> simp_all

/-- A frame is delivered as specified exactly when the addresses that the ingress stage
    leaves stand for the same recipients, each of them other than the host has a device,
    and egress finds a protocol in each one's copy. -/
theorem forwarding_delivers_once {s : Sys τ} (reached : Reachable (bridge τ cfg) s) {p : Pidx}
    (plugged : (s.ubr.ports p).dev.isSome) {env : FrameEnv} {skb copy : Skb}
    (accepted : ubrVlanIngress cfg s.ubr env (s.onPort p skb) = .ok (true, some copy))
    (cloned : ∀ q, env.cloneFails q = false) :
    ∃ vlan, s.ubr.vlanAt copy.cb.vlan = .ok vlan ∧
      (Delivered cfg s env p skb copy vlan ↔
        s.recipients cfg env p vlan (copy.addressedAs skb) = s.recipients cfg env p vlan copy ∧
        ∀ q ∈ s.recipients cfg env p vlan copy,
          FindsProtocol cfg env s.ubr.vlanProto vlan copy q ∧ (q ≠ 0 → (s.ubr.ports q).dev.isSome)) := by
  have slot := slotOk_of_reachable reached p
  have ctrl : copy.cb.ctrl = false := (ubrVlanIngress_cases accepted).same.ctrl.trans slot.ctrl
  obtain ⟨vlan, read, vec⟩ := accepted_vec accepted
  refine ⟨vlan, read, ?_⟩
  obtain ⟨out, marked⟩ : ∃ out, out = { copy with cb.vec := s.recipients cfg env p vlan copy } := ⟨_, rfl⟩
  have outgoing : (ubrFdbForward cfg s.ubr.fdb s.jiffies env vlan copy).2 = out := by
    have start : (s.onPort p skb).cb.vec = Bitmap.fill.clear p := slot.vec plugged
    simp only [ubrFdbForward, ubrFdbFilter_eq, vec, start, marked]
    rfl
  have set : out.cb.vec = s.recipients cfg env p vlan copy := congrArg (fun skb : Skb => skb.cb.vec) marked
  have run : ubrForward cfg s.ubr s.jiffies env (s.onPort p skb) =
      (ubrDeliver cfg { s.ubr with fdb := s.learned env vlan copy } env out >>= fun _ =>
        pure ({ s.ubr with fdb := s.learned env vlan copy }, false)) := by
    rw [ubrForward_accepted accepted ctrl read, outgoing]
    rfl
  have follows : ({ s.ubr with fdb := s.learned env vlan copy } : Ubr τ).vlanAt out.cb.vlan = .ok vlan := by
    rw [marked]
    exact read
  have can (q : Pidx) : CanSend cfg { s.ubr with fdb := s.learned env vlan copy } env vlan out q ↔
      FindsProtocol cfg env s.ubr.vlanProto vlan copy q ∧ (q ≠ 0 → (s.ubr.ports q).dev.isSome) := by
    rw [marked]
    exact and_congr_left' (findsProtocol_moved s.ubr.vlanProto copy q copy.buf copy.dev _)
  have sends (everybody : ∀ q ∈ out.cb.vec,
      CanSend cfg { s.ubr with fdb := s.learned env vlan copy } env vlan out q) :
      (ubrForward cfg s.ubr s.jiffies env (s.onPort p skb)).res =
          .ok ({ s.ubr with fdb := s.learned env vlan copy }, false) ∧
        DeliveredTo out.cb.vec (ubrForward cfg s.ubr s.jiffies env (s.onPort p skb)).log := by
    obtain ⟨done, log⟩ := ubrDeliver_sends_all out follows cloned everybody
    rw [Logged.bind_ok done] at run
    rw [run]
    exact ⟨rfl, by simpa using log⟩
  simp only [← set, ← can]
  constructor
  · intro delivered
    have everybody : ∀ q ∈ out.cb.vec,
        CanSend cfg { s.ubr with fdb := s.learned env vlan copy } env vlan out q := by
      intro q inside
      by_contra cannot
      have finished := delivered.finished
      rw [run] at finished
      obtain ⟨_, done, _⟩ := Logged.res_bind_eq_ok finished
      exact ubrDeliver_fails out follows cloned inside cannot done
    exact ⟨delivered.delivered.unique (sends everybody).2, everybody⟩
  · rintro ⟨unmoved, everybody⟩
    obtain ⟨finished, log⟩ := sends everybody
    refine ⟨finished, ?_, ?_⟩
    · rw [unmoved]
      exact log
    · intro q dev c sent
      obtain ⟨device, buf, same⟩ := down_of_ubrForward accepted ctrl read sent
      exact ⟨device, buf, by rw [same, outgoing, marked]⟩

def broadcastFrame : Skb := { stationFrame with frame.hDest := BitVec.allOnes 48 }

/-- What ingress makes of a broadcast on slot `p`, if it accepts it. -/
def acceptedBroadcast (s : Sys Nat) (p : Pidx) : Option Skb :=
  match ubrVlanIngress x86 s.ubr {} (s.onPort p broadcastFrame) with
  | .ok (true, some copy) => some copy
  | _ => none

theorem acceptedBroadcast_some {s : Sys Nat} {p : Pidx} {copy : Skb} (accepted : acceptedBroadcast s p = some copy) :
    ubrVlanIngress x86 s.ubr {} (s.onPort p broadcastFrame) = .ok (true, some copy) := by
  simp only [acceptedBroadcast] at accepted
  split at accepted
  · rename_i verdict
    cases accepted
    exact verdict
  · cases accepted

/-- The host sends a broadcast to two ports, and it arrives. -/
theorem forwarding_delivers_once_x86 :
    ∃ s : Sys Nat, Reachable (bridge Nat x86) s ∧ ∃ copy vlan, s.ubr.vlanAt copy.cb.vlan = .ok vlan ∧
      1 ∈ s.recipients x86 {} 0 vlan copy ∧ 2 ∈ s.recipients x86 {} 0 vlan copy ∧
      Delivered x86 s {} 0 broadcastFrame copy vlan := by
  obtain ⟨tr, s, run, test⟩ := run_booted x86 (fun _ _ => True) [.portAdd 1 {}, .portAdd 2 {}]
    (fun _ s => (s.ubr.ports 0).dev.isSome && (acceptedBroadcast s 0).any fun copy =>
      (s.ubr.vlanAt copy.cb.vlan).toOption.any fun vlan =>
        decide (1 ∈ s.recipients x86 {} 0 vlan copy ∧ 2 ∈ s.recipients x86 {} 0 vlan copy ∧
          s.recipients x86 {} 0 vlan (copy.addressedAs broadcastFrame) = s.recipients x86 {} 0 vlan copy ∧
          ∀ q ∈ s.recipients x86 {} 0 vlan copy,
            FindsProtocol x86 {} s.ubr.vlanProto vlan copy q ∧ (q ≠ 0 → (s.ubr.ports q).dev.isSome)))
    (by decide +kernel)
  obtain ⟨plugged, test⟩ := (Bool.and_eq_true _ _).mp test
  obtain ⟨copy, accepts, test⟩ := (Option.any_eq_true ..).mp test
  obtain ⟨vlan, follows, test⟩ := (Option.any_eq_true ..).mp test
  obtain ⟨first, second, everybody⟩ := of_decide_eq_true test
  obtain ⟨vlan', read, exact_when⟩ := forwarding_delivers_once run.reachable plugged (acceptedBroadcast_some accepts)
    (fun _ => rfl)
  cases (ok_of_toOption follows).symm.trans read
  exact ⟨s, run.reachable, copy, vlan, read, first, second, exact_when.mpr everybody⟩

/-- The host sends a broadcast when the only port has been removed. -/
theorem forwarding_hits_missing_port :
    ¬ ∀ s : Sys Nat, Reachable (bridge Nat x86) s → ∀ p, (s.ubr.ports p).dev.isSome → ∀ env skb copy,
      ubrVlanIngress x86 s.ubr env (s.onPort p skb) = .ok (true, some copy) → skb.frame.Complete →
      (∀ q, env.cloneFails q = false) → (∀ q, env.pushFails q = false) →
      ∃ vlan, s.ubr.vlanAt copy.cb.vlan = .ok vlan ∧ Delivered x86 s env p skb copy vlan := by
  intro claim
  obtain ⟨tr, s, run, test⟩ := run_booted x86 (fun _ _ => True)
    [.portAdd 1 {}, .portDel 1, .portCleanup 1]
    (fun _ s => (s.ubr.ports 0).dev.isSome && (acceptedBroadcast s 0).isSome &&
      (ubrForward x86 s.ubr s.jiffies {} (s.onPort 0 broadcastFrame)).res.toBool == false)
    (by decide +kernel)
  simp only [Bool.and_eq_true] at test
  obtain ⟨⟨plugged, accepts⟩, crashes⟩ := test
  obtain ⟨copy, accepted⟩ := Option.isSome_iff_exists.mp accepts
  obtain ⟨vlan, read, delivered⟩ := claim s run.reachable 0 plugged {} broadcastFrame copy
    (acceptedBroadcast_some accepted) rfl (fun _ => rfl) (fun _ => rfl)
  rw [delivered.finished] at crashes
  cases crashes

end UnassumingBridge
