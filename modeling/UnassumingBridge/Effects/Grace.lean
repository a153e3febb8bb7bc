import UnassumingBridge.Kernel.Grace
import UnassumingBridge.Effects.Transit

/-! # What one event does to the frames in flight

`Onward` lists, for every event, the state that it leads to, the readers included, as
`UnassumingBridge.Effects.Transit` does for the buffers.
-/

namespace UnassumingBridge

open Support

variable {τ : Type} {cfg : Config}

/-- The slot that a write makes a member. -/
def BitWrite.joins : BitWrite → Option Pidx
  | .setMember _ pidx => some pidx
  | .setTagged .. | .clearMember .. | .clearTagged .. => none

theorem BitWrite.mem_on {w : BitWrite} {v : UbrVlan} {k : Pidx} (inside : k ∈ (w.on v).members) :
    w.joins = some k ∨ k ∈ v.members := by
  cases w with
  | setMember r p =>
      rcases Bitmap.mem_set.mp inside with rfl | old
      · exact .inl rfl
      · exact .inr old
  | clearMember r p => exact .inr (Bitmap.mem_clear.mp inside).2
  | setTagged | clearTagged => exact .inr inside

/-- Only the addition of a port to a VLAN makes a slot a member. -/
theorem joins_of_portAddWrites {r : VlanRef} {p k : Pidx} {tagged : Bool} {w : BitWrite}
    (pending : w ∈ portAddWrites r p tagged) (joins : w.joins = some k) : k = p := by
  cases tagged with
  | true =>
      rcases List.mem_cons.mp pending with rfl | last
      · cases joins
      · cases List.mem_singleton.mp last
        cases joins
        rfl
  | false =>
      cases List.mem_singleton.mp pending
      cases joins
      rfl

theorem joins_of_portDelWrites {r : VlanRef} {p : Pidx} {w : BitWrite} (pending : w ∈ portDelWrites r p) :
    w.joins = none := by
  rcases List.mem_cons.mp pending with rfl | last
  · rfl
  · cases List.mem_singleton.mp last
    rfl

/-- The frame of the event with the control block of the port that it has come in on. -/
inductive Grace.Arrives (s : Grace τ) (env : FrameEnv) : TransitEvent → Skb → Prop where
  | rx {dev skb k} (slot : s.transit.sys.slotOf dev = some k) :
      Arrives s env (.rx dev skb env) { skb with cb := (s.ubr.ports k).ingressCb }
  | xmit {skb} : Arrives s env (.xmit skb env) { skb with cb := (s.ubr.ports 0).ingressCb }

/-- The ways in which a machine with readers goes on. -/
inductive Onward (cfg : Config) (s : Grace τ) : TransitEvent → Grace τ → Prop where
  | around {e sys} (effect : Effect cfg s.transit.sys e sys.ubr) :
      Onward cfg s (.around e) ⟨{ s.transit with sys }, s.readers.map (Reader.behind · s.ubr sys.ubr)⟩
  | began {e writes} (joins : ∀ w ∈ writes, ∀ k ∈ w.joins, k ∈ s.ubr.busy) :
      Onward cfg s e { s with transit.writes := writes }
  | wrote {w rest v} (pending : s.transit.writes = w :: rest) (live : s.ubr.heap w.vlan = some v) :
      Onward cfg s .write
        { s with transit.sys.ubr := s.ubr.putVlan w.vlan (w.on v), transit.writes := rest }
  | stopped {e} (fdb : UbrFdb τ) : Onward cfg s e { s with transit.sys.ubr.fdb := fdb }
  | entered {e env skb copy} {arrived : Skb} {allow : Bool} (fdb : UbrFdb τ)
      (arrives : s.Arrives env e arrived)
      (passed : ubrVlanIngress cfg s.ubr env arrived = .ok (allow, some copy))
      (vlan : skb.cb.vlan = copy.cb.vlan) (classified : skb.Classified s.ubr) :
      Onward cfg s e
        ⟨{ s.transit with
            sys.ubr.fdb := fdb
            flight := s.transit.flight ++ [⟨skb, deliveryOrder skb.cb.vec⟩] },
          s.readers ++ [{ devs := fun k => (s.ubr.ports k).dev }]⟩
  | left {i env} :
      Onward cfg s (.egress i env)
        ⟨{ s.transit with flight := s.transit.flight.eraseIdx i }, s.readers.eraseIdx i⟩
  | moved {i env f p rest} (here : s.transit.flight[i]? = some f) (todo : f.todo = p :: rest) :
      Onward cfg s (.egress i env)
        { s with transit.flight := s.transit.flight.set i { f with todo := rest } }

section Inversion

variable {s : Transit τ} {s' : Transit τ} {o : Outcome} {env : FrameEnv}

theorem egress_moves {i : Nat} {f : Copying} (done : s.egress cfg env i f = .ok (s', o)) :
    s' = { s with flight := s.flight.eraseIdx i } ∨
      ∃ p rest, f.todo = p :: rest ∧ s' = { s with flight := s.flight.set i { f with todo := rest } } := by
  unfold Transit.egress at done
  split at done
  · cases done
    exact .inl rfl
  · simp only at done
    split at done
    · cases done
    · cases done
      exact .inl rfl
  · rename_i p rest _ todo
    split at done
    · cases done
      exact .inl rfl
    · simp only at done
      split at done
      · cases done
      · cases done
        exact .inr ⟨p, rest, todo, rfl⟩

variable [Jiffies τ]

/-- A frame stops at the ingress stage, or is in flight when it has passed it. -/
theorem ingress_enters {skb : Skb} (done : s.ingress cfg env skb = .ok (s', o)) :
    ∃ fdb, s' = { s with sys.ubr.fdb := fdb } ∨
      ∃ allow copy kept, ubrVlanIngress cfg s.sys.ubr env skb = .ok (allow, some copy) ∧
        kept.cb.vlan = copy.cb.vlan ∧
        s' = { s with sys.ubr.fdb := fdb, flight := s.flight ++ [⟨kept, deliveryOrder kept.cb.vec⟩] } := by
  obtain ⟨⟨allow, kept⟩, passed, done⟩ := except_bind_eq_ok done
  cases kept with
  | none => cases done
  | some copy =>
      simp only at done
      split at done
      · cases done
        exact ⟨s.sys.ubr.fdb, .inl rfl⟩
      · obtain ⟨vlan, _, finished⟩ := except_bind_eq_ok done
        split at finished
        · cases finished
          refine ⟨_, .inr ⟨allow, copy, _, passed, ?_, rfl⟩⟩
          rfl
        · cases finished
          exact ⟨_, .inl rfl⟩

theorem classified_of_ingress {skb kept : Skb} (done : s.ingress cfg env skb = .ok (s', o))
    (flying : s'.flight = s.flight ++ [⟨kept, deliveryOrder kept.cb.vec⟩]) : kept.Classified s.sys.ubr := by
  have shifted : ∃ log, Shift cfg s (.xmit skb env) s' log := ⟨_, ingress_shift done⟩
  obtain ⟨log, shift⟩ := shifted
  cases shift with
  | refused | dropped => simp at flying
  | entered fdb classified =>
      cases List.append_cancel_left flying
      exact classified

end Inversion

section Step

variable [Jiffies τ] {s s' : Grace τ} {e : TransitEvent} {o : Outcome}

private theorem ingress_onward {env : FrameEnv} {arrived : Skb} {t : Transit τ}
    (arrives : s.Arrives env e arrived)
    (done : s.transit.ingress cfg env arrived = .ok (t, o)) : Onward cfg s e ⟨t, s.readersAfter t e⟩ := by
  have readers : s.readersAfter t e = if s.transit.flight.length < t.flight.length then
      s.readers ++ [{ devs := fun k => (s.ubr.ports k).dev }] else s.readers := by
    cases arrives with
    | rx | xmit => rfl
  rw [readers]
  obtain ⟨fdb, rfl | ⟨allow, copy, kept, passed, vlan, rfl⟩⟩ := ingress_enters done
  · rw [if_neg (Nat.lt_irrefl _)]
    exact .stopped fdb
  · rw [if_pos (by simp)]
    exact .entered fdb arrives passed vlan (classified_of_ingress done rfl)

/-- Every executed event is one of the listed ways on. -/
theorem exec_onward (enabled : s.Enabled e) (done : s.exec cfg e = .ok (s', o)) : Onward cfg s e s' := by
  obtain ⟨⟨t, out⟩, executed, done⟩ := except_bind_eq_ok done
  cases done
  cases e with
  | around e =>
      obtain ⟨⟨sys, _⟩, happened, done⟩ := except_bind_eq_ok executed
      cases done
      exact .around (exec_effect enabled.1.1 happened)
  | attach vid port tagged =>
      obtain ⟨vlan, walked, executed⟩ := except_bind_eq_ok executed
      split at executed
      · cases executed
        exact .stopped s.ubr.fdb
      · rename_i p slot
        obtain ⟨r, _, rfl, _⟩ := begin_ok executed
        refine .began fun w pending k joins => ?_
        rw [joins_of_portAddWrites pending joins]
        exact (ubrPortFind_ok slot).1
  | detach vid port =>
      obtain ⟨vlan, walked, executed⟩ := except_bind_eq_ok executed
      split at executed
      · cases executed
        exact .stopped s.ubr.fdb
      · obtain ⟨r, _, rfl, _⟩ := begin_ok executed
        refine .began fun w pending k joins => ?_
        rw [joins_of_portDelWrites pending] at joins
        cases joins
  | write =>
      simp only [Transit.exec] at executed
      split at executed
      · cases executed
        exact .stopped s.ubr.fdb
      · rename_i w rest pending
        obtain ⟨ubr, applied, executed⟩ := except_bind_eq_ok executed
        cases executed
        obtain ⟨v, live, rfl⟩ := bitWrite_apply_ok applied
        exact .wrote pending live
  | rx dev skb env =>
      simp only [Transit.exec] at executed
      split at executed
      · cases executed
        have same : s.readersAfter s.transit (.rx dev skb env) = s.readers := if_neg (Nat.lt_irrefl _)
        rw [same]
        exact .stopped s.ubr.fdb
      · rename_i k slot
        obtain ⟨_, _, executed⟩ := except_bind_eq_ok executed
        exact ingress_onward (.rx slot) executed
  | xmit skb env => exact ingress_onward .xmit executed
  | egress i env =>
      have inside : i < s.transit.flight.length := enabled.1
      simp only [Transit.exec] at executed
      split at executed
      · rename_i gone
        exact absurd inside (Nat.not_lt.mpr (List.getElem?_eq_none_iff.mp gone))
      · rename_i f here
        rcases egress_moves executed with rfl | ⟨p, rest, todo, rfl⟩
        · have shorter : (s.transit.flight.eraseIdx i).length < s.transit.flight.length := by
            rw [List.length_eraseIdx_of_lt inside]
            omega
          have gone : s.readersAfter { s.transit with flight := s.transit.flight.eraseIdx i } (.egress i env) =
              s.readers.eraseIdx i := if_pos shorter
          rw [gone]
          exact .left
        · have same : s.readersAfter { s.transit with flight := s.transit.flight.set i { f with todo := rest } }
              (.egress i env) = s.readers := if_neg (by simp)
          rw [same]
          exact .moved here todo

end Step
end UnassumingBridge
