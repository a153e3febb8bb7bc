import UnassumingBridge.DataPath.Buffers
import UnassumingBridge.Effects.Apart
import UnassumingBridge.Invariants.Registry
import UnassumingBridge.Support.Purge

/-! # VLANs do not influence each other

Two runs of the bridge, the second without the frames of the other VLANs. Their
states differ in the entries of those VLANs only, so the frames that stay are
forwarded alike, as long as none of the removed ones brings the bridge down.
-/

namespace UnassumingBridge

open Support

variable {τ : Type} {cfg : Config}

/-- The buffer of a frame as it enters the bridge, and the helpers that it will meet. -/
def Sys.entering (s : Sys τ) : Event → Option (Skb × FrameEnv)
  | .rx dev skb env => (s.slotOf dev).map fun p => (s.onPort p skb, env)
  | .xmit skb env => some (s.onPort 0 skb, env)
  | _ => none

/-- The VLAN that a frame resolves to. -/
def Sys.vlanOf (cfg : Config) (s : Sys τ) (e : Event) : Option (VlanRef × UbrVlan) :=
  match s.entering e with
  | none => none
  | some (skb, env) =>
      match ubrVlanIngress cfg s.ubr env skb with
      | .ok (_, some copy) => copy.cb.vlan.bind fun r => (s.ubr.heap r).map fun vlan => (r, vlan)
      | _ => none

/-- The event is a frame of another VLAN than `v`. -/
def Sys.foreign (cfg : Config) (v : Vid) (s : Sys τ) (e : Event) : Bool :=
  (s.vlanOf cfg e).any fun found => found.2.vid != v

/-- The same event; ageing may walk the entries of the other VLANs differently. -/
def LikeFor (v : Vid) : Event → Event → Prop
  | .age walk, e' => ∃ walk', e' = .age walk' ∧ ∀ k, k.vid = v → (k ∈ visited walk ↔ k ∈ visited walk')
  | e, e' => e' = e

/-- Two databases with the same entries for one VLAN. -/
structure AgreeOn (v : Vid) (fdb fdb' : UbrFdb τ) : Prop where
  timeout : fdb'.ageingTimeout = fdb.ageingTimeout
  entries k : k.vid = v → fdb'.lookup k = fdb.lookup k

section Database

variable {v : Vid} {fdb fdb' : UbrFdb τ} {now : τ} {env : FrameEnv} {vlan : UbrVlan} {skb : Skb}

theorem AgreeOn.learned (agree : AgreeOn v fdb fdb') :
    AgreeOn v (ubrFdbLearned fdb now env vlan skb) (ubrFdbLearned fdb' now env vlan skb) := by
  refine ⟨by rw [learned_timeout, learned_timeout, agree.timeout], ?_⟩
  intro k mine
  have same := agree.entries k mine
  simp only [ubrFdbLearned]
  split
  · rw [lookup_learn, lookup_learn, same]
  · exact same

theorem AgreeOn.unlearned (agree : AgreeOn v fdb fdb') (other : vlan.vid ≠ v) :
    AgreeOn v (ubrFdbLearned fdb now env vlan skb) fdb' := by
  refine ⟨by rw [learned_timeout, agree.timeout], ?_⟩
  intro k mine
  rw [agree.entries k mine]
  have apart : k ≠ macKey vlan.vid skb.frame.hSource := by
    rintro rfl
    exact other mine
  simp only [ubrFdbLearned]
  split
  · rw [lookup_learn, if_neg fun both => apart both.2]
  · rfl

theorem destKey_vid : (ubrFdbDestKey cfg env vlan skb).vid = vlan.vid := by
  unfold ubrFdbDestKey
  split
  · rfl
  · split
    · rfl
    · rfl

variable [Jiffies τ]

theorem AgreeOn.filter (agree : AgreeOn v fdb fdb') (mine : vlan.vid = v) :
    ubrFdbFilter cfg fdb' now env vlan skb = ubrFdbFilter cfg fdb now env vlan skb := by
  have same := agree.entries (ubrFdbDestKey cfg env vlan skb) (destKey_vid.trans mine)
  have old (node : UbrFdbNode τ) : ubrFdbNodeIsOld fdb' now node = ubrFdbNodeIsOld fdb now node :=
    isOld_congr agree.timeout node
  simp only [ubrFdbFilter, same, old]

theorem AgreeOn.aged (agree : AgreeOn v fdb fdb') {walk walk' : List WalkItem}
    (same : ∀ k : UbrFdbAddr, k.vid = v → (k ∈ visited walk ↔ k ∈ visited walk')) :
    AgreeOn v (ubrFdbAge fdb now walk) (ubrFdbAge fdb' now walk') := by
  refine ⟨by rw [age_timeout, age_timeout, agree.timeout], ?_⟩
  intro k mine
  have old (node : UbrFdbNode τ) : ageingOp.selects fdb' now node = ageingOp.selects fdb now node :=
    selects_congr agree.timeout node
  simp only [ubrFdbAge, lookup_flush_eq, ← same k mine, agree.entries k mine, old]

end Database

section Frame

variable [Jiffies τ] {v : Vid} {u : Ubr τ} {fdb : UbrFdb τ} {now : τ} {env : FrameEnv} {skb : Skb}

omit [Jiffies τ] in
private theorem delivered_withFdb (skb : Skb) (fdb : UbrFdb τ) :
    (ubrDeliver cfg (u.withFdb fdb) env skb >>= fun _ => pure (u.withFdb fdb, false)) =
      (⟨(ubrDeliver cfg u env skb).log,
        (ubrDeliver cfg u env skb).res.map fun _ => (u.withFdb fdb, false)⟩ : Forwarding (Ubr τ × Bool)) := by
  rw [ubrDeliver_withFdb]
  cases done : (ubrDeliver cfg u env skb).res with
  | error f => exact Logged.bind_error done _
  | ok _ =>
      rw [Logged.bind_ok done, Logged.pure_log, List.append_nil]
      rfl

/-- A frame that is not of another VLAN fares alike in bridges that agree on its VLAN. -/
theorem ubrForward_agree (now : τ) (agree : AgreeOn v u.fdb fdb)
    (mine : ∀ allow copy vlan, ubrVlanIngress cfg u env skb = .ok (allow, some copy) →
      u.vlanAt copy.cb.vlan = .ok vlan → vlan.vid = v) :
    (∃ log handed fdb₁ fdb₂, ubrForward cfg u now env skb = ⟨log, .ok (u.withFdb fdb₁, handed)⟩ ∧
      ubrForward cfg (u.withFdb fdb) now env skb = ⟨log, .ok (u.withFdb fdb₂, handed)⟩ ∧
      AgreeOn v fdb₁ fdb₂) ∨
    ∃ f f', (ubrForward cfg u now env skb).res = .error f ∧
      (ubrForward cfg (u.withFdb fdb) now env skb).res = .error f' := by
  have ingress' : ubrVlanIngress cfg (u.withFdb fdb) env skb = _ := ubrVlanIngress_withFdb u fdb env skb
  cases ingress : ubrVlanIngress cfg u env skb with
  | error f =>
      refine .inr ⟨f, f, ?_, ?_⟩
      · simp only [ubrForward, ingress]
        rfl
      · simp only [ubrForward, ingress'.trans ingress]
        rfl
  | ok out =>
      obtain ⟨allow, left⟩ := out
      cases left with
      | none =>
          exact .inr ⟨.useAfterFree, .useAfterFree, congrArg Logged.res (ubrForward_freed ingress),
            congrArg Logged.res (ubrForward_freed (ingress'.trans ingress))⟩
      | some copy =>
          cases ctrl : copy.cb.ctrl with
          | true =>
              refine .inl ⟨[], true, u.fdb, fdb, ?_, ?_, agree⟩
              · simp only [ubrForward, ingress, Logged.lift_ok_bind, ctrl]
                rfl
              · simp only [ubrForward, ingress'.trans ingress, Logged.lift_ok_bind, ctrl]
                rfl
          | false =>
              cases read : u.vlanAt copy.cb.vlan with
              | error f =>
                  exact .inr ⟨f, f, congrArg Logged.res (ubrForward_fault ingress ctrl read),
                    congrArg Logged.res (ubrForward_fault (ingress'.trans ingress) ctrl read)⟩
              | ok vlan =>
                  have learned : AgreeOn v (ubrFdbLearned u.fdb now env vlan copy)
                      (ubrFdbLearned fdb now env vlan copy) := agree.learned
                  cases allow with
                  | false =>
                      exact .inl ⟨_, false, _, _, ubrForward_rejected ingress ctrl read,
                        ubrForward_rejected (ingress'.trans ingress) ctrl read, learned⟩
                  | true =>
                      have here : ubrForward cfg u now env skb = _ :=
                        (ubrForward_accepted ingress ctrl read).trans
                          (delivered_withFdb _ (ubrFdbLearned u.fdb now env vlan copy))
                      have there : ubrForward cfg (u.withFdb fdb) now env skb = _ :=
                        (ubrForward_accepted (ingress'.trans ingress) ctrl read).trans
                          (delivered_withFdb _ (ubrFdbLearned fdb now env vlan copy))
                      have same : (ubrFdbForward cfg (u.withFdb fdb).fdb now env vlan copy).2 =
                          (ubrFdbForward cfg u.fdb now env vlan copy).2 := by
                        simp only [ubrFdbForward]
                        change ({ copy with cb.vec := _ } : Skb) = _
                        rw [← learned.filter (mine true copy vlan ingress read)]
                        rfl
                      rw [here, there, same, ubrDeliver_withFdb]
                      cases (ubrDeliver cfg u env (ubrFdbForward cfg u.fdb now env vlan copy).2).res with
                      | error f => exact .inr ⟨f, f, rfl, rfl⟩
                      | ok _ => exact .inl ⟨_, false, _, _, rfl, rfl, learned⟩

theorem ubrForward_trace {allow handed : Bool} {copy : Skb} {vlan : UbrVlan} {u' : Ubr τ}
    (ingress : ubrVlanIngress cfg u env skb = .ok (allow, some copy)) (read : u.vlanAt copy.cb.vlan = .ok vlan)
    (done : (ubrForward cfg u now env skb).res = .ok (u', handed)) :
    u' = u ∨ u' = u.withFdb (ubrFdbLearned u.fdb now env vlan copy) := by
  cases ctrl : copy.cb.ctrl with
  | true =>
      simp only [ubrForward, ingress, Logged.lift_ok_bind, ctrl] at done
      cases done
      exact .inl rfl
  | false =>
      refine .inr ?_
      cases allow with
      | false =>
          rw [ubrForward_rejected ingress ctrl read] at done
          cases done
          rfl
      | true =>
          rw [ubrForward_accepted ingress ctrl read] at done
          obtain ⟨_, _, done⟩ := Logged.res_bind_eq_ok done
          cases done
          rfl

end Frame

section System

variable [Jiffies τ] {v : Vid} {s : Sys τ}

theorem exec_rx {dev : Dev} {skb : Skb} {env : FrameEnv} {p : Pidx} (slave : s.slotOf dev = some p) :
    s.exec cfg (.rx dev skb env) =
      if (s.ubr.ports p).ingressCb.pidx = p then
        s.forwarded (ubrForward cfg s.ubr s.jiffies env (s.onPort p skb))
      else .error .wrongBridge := by
  simp only [Sys.exec, slave, ubrPortRxHandler, ubrFromPort]
  split
  · rfl
  · rfl

/-- A frame that gets through the pipeline: nothing is in its way, and its slot is not
    one that a late callback has zeroed. -/
def Sys.Survives (cfg : Config) (s : Sys τ) : Event → Prop
  | .rx dev skb env => ∀ p ∈ s.slotOf dev,
      (s.ubr.ports p).ingressCb.pidx = p ∧ Sound cfg s.ubr s.jiffies env (s.onPort p skb)
  | .xmit skb env => Sound cfg s.ubr s.jiffies env (s.onPort 0 skb)
  | _ => True

instance (s : Sys τ) : (e : Event) → Decidable (s.Survives cfg e)
  | .rx dev skb env => inferInstanceAs (Decidable (∀ p ∈ s.slotOf dev,
      (s.ubr.ports p).ingressCb.pidx = p ∧ Sound cfg s.ubr s.jiffies env (s.onPort p skb)))
  | .xmit skb env => inferInstanceAs (Decidable (Sound cfg s.ubr s.jiffies env (s.onPort 0 skb)))
  | .age .. | .tick .. | .portAdd .. | .portDel .. | .portCleanup .. | .vlanAdd .. | .vlanDel ..
  | .vlanFree .. | .vlanAttach .. | .vlanDetach .. | .portSet .. | .devChange .. => .isTrue trivial

/-- Two systems that differ in the entries of other VLANs at most. -/
def Similar (v : Vid) (s s' : Sys τ) : Prop := ∃ fdb, s' = s.withFdb fdb ∧ AgreeOn v s.ubr.fdb fdb

omit [Jiffies τ] in
theorem foreign_iff {e : Event} {skb : Skb} {env : FrameEnv} (enters : s.entering e = some (skb, env)) :
    s.foreign cfg v e = true ↔ ∃ allow copy vlan, ubrVlanIngress cfg s.ubr env skb = .ok (allow, some copy) ∧
      s.ubr.vlanAt copy.cb.vlan = .ok vlan ∧ vlan.vid ≠ v := by
  simp only [Sys.foreign, Sys.vlanOf, enters, Ubr.vlanAt_eq_ok]
  cases ingress : ubrVlanIngress cfg s.ubr env skb with
  | error f => simp
  | ok out =>
      obtain ⟨allow, left⟩ := out
      cases left with
      | none => simp
      | some copy =>
          cases ref : copy.cb.vlan with
          | none => simp [ref]
          | some r => cases here : s.ubr.heap r <;> simp [ref, here]

omit [Jiffies τ] in
theorem not_foreign {e : Event} (outside : s.entering e = none) : s.foreign cfg v e = false := by
  simp only [Sys.foreign, Sys.vlanOf, outside, Option.any_none]

omit [Jiffies τ] in
theorem own_vlan {e : Event} {skb : Skb} {env : FrameEnv} (enters : s.entering e = some (skb, env))
    (own : s.foreign cfg v e = false) (allow : Bool) (copy : Skb) (vlan : UbrVlan)
    (ingress : ubrVlanIngress cfg s.ubr env skb = .ok (allow, some copy))
    (read : s.ubr.vlanAt copy.cb.vlan = .ok vlan) : vlan.vid = v := by
  by_contra other
  have foreign : s.foreign cfg v e = true := (foreign_iff enters).mpr ⟨allow, copy, vlan, ingress, read, other⟩
  rw [own] at foreign
  cases foreign

theorem forwarded_foreign {skb : Skb} {env : FrameEnv} {fdb : UbrFdb τ}
    (agree : AgreeOn v s.ubr.fdb fdb) (sound : Sound cfg s.ubr s.jiffies env skb)
    (foreign : ∃ allow copy vlan, ubrVlanIngress cfg s.ubr env skb = .ok (allow, some copy) ∧
      s.ubr.vlanAt copy.cb.vlan = .ok vlan ∧ vlan.vid ≠ v) :
    ∃ s₁ r, s.forwarded (ubrForward cfg s.ubr s.jiffies env skb) = .ok (s₁, r) ∧ Similar v s₁ (s.withFdb fdb) := by
  obtain ⟨allow, copy, vlan, ingress, read, other⟩ := foreign
  obtain ⟨⟨u, handed⟩, done⟩ := sound_finishes sound
  refine ⟨{ s with ubr := u }, { log := (ubrForward cfg s.ubr s.jiffies env skb).log }, ?_, fdb, ?_⟩
  · simp only [Sys.forwarded, done]
  · obtain rfl | rfl := ubrForward_trace ingress read done
    · exact ⟨rfl, agree⟩
    · exact ⟨rfl, agree.unlearned other⟩

theorem forwarded_same {skb : Skb} {env : FrameEnv} {fdb : UbrFdb τ} (agree : AgreeOn v s.ubr.fdb fdb)
    (mine : ∀ allow copy vlan, ubrVlanIngress cfg s.ubr env skb = .ok (allow, some copy) →
      s.ubr.vlanAt copy.cb.vlan = .ok vlan → vlan.vid = v) :
    (∃ s₁ s₁' r, s.forwarded (ubrForward cfg s.ubr s.jiffies env skb) = .ok (s₁, r) ∧
      (s.withFdb fdb).forwarded (ubrForward cfg (s.ubr.withFdb fdb) s.jiffies env skb) = .ok (s₁', r) ∧
      Similar v s₁ s₁') ∨
    ∃ f f', s.forwarded (ubrForward cfg s.ubr s.jiffies env skb) = .error f ∧
      (s.withFdb fdb).forwarded (ubrForward cfg (s.ubr.withFdb fdb) s.jiffies env skb) = .error f' := by
  obtain ⟨log, handed, fdb₁, fdb₂, done, done', still⟩ | ⟨f, f', failed, failed'⟩ :=
    ubrForward_agree s.jiffies agree mine
  · refine .inl ⟨s.withFdb fdb₁, s.withFdb fdb₂, { log }, ?_, ?_, fdb₂, rfl, still⟩
    · simp only [Sys.forwarded, done]
      rfl
    · simp only [Sys.forwarded, done']
      rfl
  · refine .inr ⟨f, f', ?_, ?_⟩
    · simp only [Sys.forwarded, failed]
    · simp only [Sys.forwarded, failed']

theorem apart_keeps_fdb {e : Event} {s₁ : Sys τ} {r : Outcome} (apart : e.apart = true)
    (done : s.exec cfg e = .ok (s₁, r)) : s₁.ubr.fdb = s.ubr.fdb := by
  have carried : s.exec cfg e = carrySys s.ubr.fdb (s.exec cfg e) := exec_withFdb s s.ubr.fdb apart
  rw [done] at carried
  simp only [carrySys, Except.ok.injEq, Prod.mk.injEq, and_true] at carried
  rw [carried]
  rfl

theorem apart_same {e : Event} {fdb : UbrFdb τ} (apart : e.apart = true) (agree : AgreeOn v s.ubr.fdb fdb) :
    (∃ s₁ s₁' r, (bridge τ cfg).exec s e = .ok (s₁, r) ∧ (bridge τ cfg).exec (s.withFdb fdb) e = .ok (s₁', r) ∧
      Similar v s₁ s₁') ∨
    ∃ f f', (bridge τ cfg).exec s e = .error f ∧ (bridge τ cfg).exec (s.withFdb fdb) e = .error f' := by
  have carried : (s.withFdb fdb).exec cfg e = carrySys fdb (s.exec cfg e) := exec_withFdb s fdb apart
  cases done : s.exec cfg e with
  | error f =>
      rw [done] at carried
      exact .inr ⟨f, f, done, carried⟩
  | ok out =>
      obtain ⟨s₁, r⟩ := out
      rw [done] at carried
      refine .inl ⟨s₁, s₁.withFdb fdb, r, done, carried, fdb, rfl, ?_⟩
      rw [apart_keeps_fdb apart done]
      exact agree

/-- Removing the frames of the other VLANs goes unnoticed. -/
theorem vlans_unwind (cfg : Config) (v : Vid) :
    (bridge τ cfg).Unwinding (Sys.foreign cfg v) (LikeFor v)
      (fun s e => s.foreign cfg v e = true → s.Survives cfg e) (Similar v) where
  dropped := by
    rintro s _ e ⟨fdb, rfl, agree⟩ foreign survives
    have sound := survives foreign
    cases e with
    | rx dev skb env =>
        cases slave : s.slotOf dev with
        | none =>
          rw [not_foreign] at foreign
          cases foreign
          simp [Sys.entering, slave]
        | some p =>
            obtain ⟨own, sound⟩ := sound p slave
            have enters : s.entering (.rx dev skb env) = some (s.onPort p skb, env) := by
              simp only [Sys.entering, slave, Option.map_some]
            have executed : s.exec cfg (.rx dev skb env) = _ := exec_rx slave
            change ∃ s₁ r, s.exec cfg (.rx dev skb env) = _ ∧ _
            rw [executed, if_pos own]
            exact forwarded_foreign agree sound ((foreign_iff enters).mp foreign)
    | xmit skb env => exact forwarded_foreign agree sound ((foreign_iff rfl).mp foreign)
    | age | tick | portAdd | portDel | portCleanup | vlanAdd | vlanDel | vlanFree | vlanAttach | vlanDetach
      | portSet | devChange => cases foreign
  same := by
    rintro s _ e e' ⟨fdb, rfl, agree⟩ own alike
    cases e with
    | rx dev skb env =>
        cases alike
        cases slave : s.slotOf dev with
        | none =>
            have executed : s.exec cfg (.rx dev skb env) = .ok (s, {}) := by simp only [Sys.exec, slave]
            have executed' : (s.withFdb fdb).exec cfg (.rx dev skb env) = .ok (s.withFdb fdb, {}) := by
              have slave' : (s.withFdb fdb).slotOf dev = none := slave
              simp only [Sys.exec, slave']
            exact .inl ⟨s, s.withFdb fdb, {}, executed, executed', fdb, rfl, agree⟩
        | some p =>
            have enters : s.entering (.rx dev skb env) = some (s.onPort p skb, env) := by
              simp only [Sys.entering, slave, Option.map_some]
            have executed : s.exec cfg (.rx dev skb env) = _ := exec_rx slave
            have executed' : (s.withFdb fdb).exec cfg (.rx dev skb env) = _ := exec_rx (s := s.withFdb fdb) slave
            change (∃ s₁ s₁' r, s.exec cfg (.rx dev skb env) = _ ∧ (s.withFdb fdb).exec cfg (.rx dev skb env) = _ ∧ _) ∨
              ∃ f f', s.exec cfg (.rx dev skb env) = _ ∧ (s.withFdb fdb).exec cfg (.rx dev skb env) = _
            rw [executed, executed']
            have ports : (s.withFdb fdb).ubr.ports = s.ubr.ports := rfl
            rw [ports]
            split
            · exact forwarded_same agree (own_vlan enters own)
            · exact .inr ⟨_, _, rfl, rfl⟩
    | xmit skb env =>
        cases alike
        exact forwarded_same agree (own_vlan rfl own)
    | age walk =>
        obtain ⟨walk', rfl, same⟩ := alike
        exact .inl ⟨_, _, _, rfl, rfl, _, rfl, agree.aged same⟩
    | tick | portAdd | portDel | portCleanup | vlanAdd | vlanDel | vlanFree | vlanAttach | vlanDetach
      | portSet | devChange =>
        cases alike
        exact apart_same rfl agree

/-- While the frames of other VLANs get through, the bridge does with the frames of one
    VLAN, and answers to commands, what it does without them. -/
theorem vlan_traffic_isolated (v : Vid) (s : Sys τ) (es es' : List Event)
    (harmless : (bridge τ cfg).Along (fun s e => s.foreign cfg v e = true → s.Survives cfg e) s es)
    (purged : List.Forall₂ (LikeFor v) (pick ((bridge τ cfg).kept (Sys.foreign cfg v) s es) es) es') :
    (bridge τ cfg).outputs s es' =
      pick ((bridge τ cfg).kept (Sys.foreign cfg v) s es) ((bridge τ cfg).outputs s es) :=
  (vlans_unwind cfg v).outputs ⟨s.ubr.fdb, rfl, rfl, fun _ _ => rfl⟩ harmless purged

end System

/-- Two ports in VLANs 0 and 5; frames that come in on the first one are of VLAN 5. -/
def twoVlans : List Event :=
  [.portAdd 1 {}, .portAdd 2 {}, .vlanAdd 5 false, .vlanAttach 5 1 0, .vlanAttach 5 2 0, .portSet (some 1) 5]

/-- The host sends a broadcast in VLAN 0, then one comes in in VLAN 5. -/
def bothBroadcast : List Event := [.xmit broadcastFrame {}, .rx 1 broadcastFrame {}]

/-- The broadcast in VLAN 5 is forwarded as it is without the one in VLAN 0. -/
theorem vlan_traffic_isolated_x86 :
    (bridge Nat x86).outputs (booted x86) (twoVlans ++ [.rx 1 broadcastFrame {}]) =
      pick ((bridge Nat x86).kept (Sys.foreign x86 5) (booted x86) (twoVlans ++ bothBroadcast))
        ((bridge Nat x86).outputs (booted x86) (twoVlans ++ bothBroadcast)) := by
  have mask : (bridge Nat x86).kept (Sys.foreign x86 5) (booted x86) (twoVlans ++ bothBroadcast) =
      [true, true, true, true, true, true, false, true] := by decide +kernel
  apply vlan_traffic_isolated 5
  · exact of_decide_eq_true (by decide +kernel)
  · rw [mask]
    exact .cons rfl (.cons rfl (.cons rfl (.cons rfl (.cons rfl (.cons rfl (.cons rfl .nil))))))

/-- A frame is of a VLAN that is in the registry. -/
def Sys.Resolves (cfg : Config) (s : Sys τ) (e : Event) : Prop :=
  (s.entering e).isSome → (s.vlanOf cfg e).any fun found => s.ubr.registered cfg found.2.vid

instance (s : Sys τ) (e : Event) : Decidable (s.Resolves cfg e) :=
  inferInstanceAs (Decidable ((s.entering e).isSome → _))

/-- No helper fails while the frame is handled. -/
def Event.Smooth : Event → Prop
  | .rx _ _ env | .xmit _ env => env = {}
  | _ => True

/-- A third port was plugged into VLAN 0 and removed. -/
def thirdGone : List Event := [.portAdd 3 {}, .portDel 3, .portCleanup 3]

/-- The broadcast in VLAN 0 is sent to the port that is gone, and the one in VLAN 5 is not
    forwarded any more. -/
theorem vlan_takes_down_another :
    ¬ ∀ s : Sys Nat, Reachable (bridge Nat x86) s → ∀ v es es', (bridge Nat x86).Along (Sys.Resolves x86) s es →
      (∀ e ∈ es, e.Smooth) →
      List.Forall₂ (LikeFor v) (pick ((bridge Nat x86).kept (Sys.foreign x86 v) s es) es) es' →
      (bridge Nat x86).outputs s es' =
        pick ((bridge Nat x86).kept (Sys.foreign x86 v) s es) ((bridge Nat x86).outputs s es) := by
  intro claim
  have mask : (bridge Nat x86).kept (Sys.foreign x86 5) (booted x86) (twoVlans ++ thirdGone ++ bothBroadcast) =
      [true, true, true, true, true, true, true, true, true, false, true] := by decide +kernel
  have same := claim (booted x86) ⟨[], .init (booted_init x86)⟩ 5 (twoVlans ++ thirdGone ++ bothBroadcast)
    (twoVlans ++ thirdGone ++ [.rx 1 broadcastFrame {}]) (of_decide_eq_true (by decide +kernel))
    (by simp [twoVlans, thirdGone, bothBroadcast, Event.Smooth])
    (by
      rw [mask]
      exact .cons rfl (.cons rfl (.cons rfl (.cons rfl (.cons rfl (.cons rfl (.cons rfl (.cons rfl (.cons rfl
        (.cons rfl .nil))))))))))
  rw [mask] at same
  have alone : (((bridge Nat x86).outputs (booted x86) (twoVlans ++ thirdGone ++
      [.rx 1 broadcastFrame {}])).getLast?.any Option.isSome) = true := by decide +kernel
  rw [same] at alone
  have together : ((pick [true, true, true, true, true, true, true, true, true, false, true]
      ((bridge Nat x86).outputs (booted x86) (twoVlans ++ thirdGone ++ bothBroadcast))).getLast?.any
        Option.isSome) = false := by decide +kernel
  rw [together] at alone
  cases alone

end UnassumingBridge
