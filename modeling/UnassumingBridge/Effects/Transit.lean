import UnassumingBridge.Kernel.Transit
import UnassumingBridge.Effects.Delivery
import UnassumingBridge.Effects.Step

/-! # What one event does while membership changes

`Shift` lists, for every event, the state that it leads to and what it did with
buffers. Where nothing comes in between, the writes of a command are what
`UnassumingBridge.Kernel.Vlan` does at once, and the copies of a frame are the
delivery of `UnassumingBridge.Kernel.Forward`.
-/

namespace UnassumingBridge

open Support

variable {τ : Type}

/-- What the ingress stage leaves in a frame that is to be copied: the object of its
    VLAN, and recipients that were members of it. -/
def Skb.Classified (s : Ubr τ) (skb : Skb) : Prop :=
  ∃ r v, skb.cb.vlan = some r ∧ s.heap r = some v ∧ ∀ q ∈ skb.cb.vec, q ∈ v.members

/-- What an executed event can have done to a bridge whose bitmaps are written bit by bit. -/
inductive Shift (cfg : Config) (s : Transit τ) : TransitEvent → Transit τ → List SkbEvent → Prop where
  | around {e sys} (free : s.Free e) (effect : Effect cfg s.sys e sys.ubr) : Shift cfg s (.around e) { s with sys } []
  | refused {e} : Shift cfg s e s []
  | attach {vid port tagged r v p} (live : s.sys.ubr.heap r = some v) (same : v.vid = vid)
      (slot : ubrPortFind s.sys.ubr (some port) = .ok p) :
      Shift cfg s (.attach vid port tagged) { s with writes := portAddWrites r p (tagged != 0) } []
  | detach {vid port r v p} (live : s.sys.ubr.heap r = some v) (same : v.vid = vid)
      (slot : ubrPortFind s.sys.ubr (some port) = .ok p) :
      Shift cfg s (.detach vid port) { s with writes := portDelWrites r p } []
  | write {w rest ubr} (pending : s.writes = w :: rest) (applied : w.apply s.sys.ubr = .ok ubr) :
      Shift cfg s .write { s with sys.ubr := ubr, writes := rest } []
  | dropped {e} (fdb : UbrFdb τ) (buf : Buf) : Shift cfg s e { s with sys.ubr.fdb := fdb } [.free buf]
  | entered {e skb} (fdb : UbrFdb τ) (classified : skb.Classified s.sys.ubr) :
      Shift cfg s e
        { s with sys.ubr.fdb := fdb, flight := s.flight ++ [⟨skb, deliveryOrder skb.cb.vec⟩] } []
  | cut {i env log} (unsent : ∀ e ∈ log, e.isFree = true) :
      Shift cfg s (.egress i env) { s with flight := s.flight.eraseIdx i } log
  | last {i env f p} (here : s.flight[i]? = some f) (todo : f.todo = [p]) :
      Shift cfg s (.egress i env) { s with flight := s.flight.eraseIdx i }
        (if p = 0 then ubrDeliverUp cfg s.sys.ubr env f.skb else ubrDeliverDown cfg s.sys.ubr env f.skb p).log
  | copied {i env f p rest} (here : s.flight[i]? = some f) (todo : f.todo = p :: rest) :
      Shift cfg s (.egress i env) { s with flight := s.flight.set i { f with todo := rest } }
        (ubrDeliverDown cfg s.sys.ubr env { f.skb with buf := .clone p } p).log

theorem bitWrite_apply_ok {s u : Ubr τ} {w : BitWrite} (applied : w.apply s = .ok u) :
    ∃ v, s.heap w.vlan = some v ∧ u = s.putVlan w.vlan (w.on v) := by
  obtain ⟨_, v, here, live, same⟩ := Ubr.modVlan_eq_ok.mp applied
  cases here
  exact ⟨v, live, same⟩

theorem mem_deliveryOrder {vec : UbrVec} {q : Pidx} (inside : q ∈ deliveryOrder vec) : q ∈ vec := by
  unfold deliveryOrder at inside
  split at inside
  · exact absurd inside List.not_mem_nil
  · rename_i first lowest
    apply (Bitmap.mem_iff_first lowest).mpr
    rcases List.mem_append.mp inside with above | last
    · exact .inr above
    · exact .inl (List.mem_singleton.mp last)

/-- Clones are for ports above the lowest, which the host would be. -/
theorem ne_zero_of_cloned {vec : UbrVec} {q : Pidx} (inside : q ∈ (deliveryOrder vec).dropLast) : q ≠ 0 := by
  unfold deliveryOrder at inside
  split at inside
  · exact absurd inside List.not_mem_nil
  · rename_i first lowest
    rw [List.dropLast_concat] at inside
    have above : first < q := by simpa using (List.mem_filter.mp inside).2
    exact Fin.ne_zero_of_lt above

section Inversion

variable {cfg : Config} {s s' : Transit τ} {o : Outcome}

theorem begin_ok {writes : VlanRef → List BitWrite} {vlan : Option VlanRef}
    (done : s.begin writes vlan = .ok (s', o)) :
    ∃ r, vlan = some r ∧ s' = { s with writes := writes r } ∧ o.log = [] := by
  cases vlan with
  | none => cases done
  | some r =>
      cases done
      exact ⟨r, rfl, rfl, rfl⟩

theorem egress_shift {env : FrameEnv} {i : Nat} {f : Copying} (here : s.flight[i]? = some f)
    (done : s.egress cfg env i f = .ok (s', o)) : Shift cfg s (.egress i env) s' o.log := by
  unfold Transit.egress at done
  split at done
  · cases done
    exact .cut (by simp)
  · rename_i p todo
    simp only at done
    split at done
    · cases done
    · cases done
      exact .last here todo
  · rename_i p rest _ todo
    split at done
    · cases done
      exact .cut (by simp [SkbEvent.isFree])
    · simp only at done
      split at done
      · cases done
      · cases done
        exact .copied here todo

variable [Jiffies τ]

theorem ingress_shift {e : TransitEvent} {env : FrameEnv} {skb : Skb}
    (done : s.ingress cfg env skb = .ok (s', o)) : Shift cfg s e s' o.log := by
  obtain ⟨⟨allow, kept⟩, passed, done⟩ := except_bind_eq_ok done
  cases kept with
  | none => cases done
  | some copy =>
      simp only at done
      split at done
      · cases done
        exact .refused
      · obtain ⟨vlan, read, finished⟩ := except_bind_eq_ok done
        obtain ⟨r, pointer, live⟩ := Ubr.vlanAt_eq_ok.mp read
        split at finished
        · rename_i delivered
          have allowed : allow = true := by
            have := delivered.1
            simp only [Bool.and_eq_true] at this
            exact this.1.1.1
          subst allowed
          cases finished
          refine .entered _ ⟨r, vlan, pointer, live, fun q inside => ?_⟩
          have member := (Bitmap.mem_and.mp inside).1
          cases ubrVlanIngress_cases passed with
          | unfiltered hub found =>
              obtain ⟨_, pointer', live'⟩ := Ubr.vlanAt_eq_ok.mp found
              cases pointer'.symm.trans pointer
              cases live'.symm.trans live
              exact (Bitmap.mem_and.mp member).2
          | accepted filtering normal found live' inside =>
              cases pointer
              cases live'.symm.trans live
              exact (Bitmap.mem_and.mp member).2
        · cases finished
          exact .dropped _ _

theorem around_log {sys : Sys τ} {e : Event} (free : s.Free e) (done : s.sys.exec cfg e = .ok (sys, o)) :
    o.log = [] := by
  cases e with
  | rx | xmit | vlanAttach | vlanDetach => exact free.elim
  | age | tick | vlanFree | devChange =>
      cases done
      rfl
  | portAdd | portDel | portCleanup =>
      obtain ⟨_, _, done⟩ := except_bind_eq_ok done
      cases done
      rfl
  | vlanAdd | vlanDel | portSet =>
      obtain ⟨_, _, _, rest⟩ := configured_ok done
      rw [rest]

/-- Every executed event is one of the listed shifts. -/
theorem exec_shift {e : TransitEvent} (enabled : s.Enabled e) (done : s.exec cfg e = .ok (s', o)) :
    Shift cfg s e s' o.log := by
  cases e with
  | around e =>
      obtain ⟨⟨sys, out⟩, executed, done⟩ := except_bind_eq_ok done
      cases done
      rw [around_log enabled.2 executed]
      exact .around enabled.2 (exec_effect enabled.1 executed)
  | attach vid port tagged =>
      obtain ⟨vlan, walked, done⟩ := except_bind_eq_ok done
      split at done
      · cases done
        exact .refused
      · rename_i p slot
        obtain ⟨r, rfl, rfl, quiet⟩ := begin_ok done
        obtain ⟨_, v, live, same⟩ := findInBucket_some walked
        rw [quiet]
        exact .attach live same slot
  | detach vid port =>
      obtain ⟨vlan, walked, done⟩ := except_bind_eq_ok done
      split at done
      · cases done
        exact .refused
      · rename_i p slot
        obtain ⟨r, rfl, rfl, quiet⟩ := begin_ok done
        obtain ⟨_, v, live, same⟩ := findInBucket_some walked
        rw [quiet]
        exact .detach live same slot
  | write =>
      simp only [Transit.exec] at done
      split at done
      · cases done
        exact .refused
      · rename_i w rest pending
        obtain ⟨ubr, applied, done⟩ := except_bind_eq_ok done
        cases done
        exact .write pending applied
  | rx dev skb env =>
      simp only [Transit.exec] at done
      split at done
      · cases done
        exact .refused
      · obtain ⟨_, _, done⟩ := except_bind_eq_ok done
        exact ingress_shift done
  | xmit skb env => exact ingress_shift done
  | egress i env =>
      simp only [Transit.exec] at done
      split at done
      · cases done
        exact .refused
      · rename_i f here
        exact egress_shift here done

end Inversion

section Uninterrupted

variable {cfg : Config}

theorem portAddWrites_apply (s : Ubr τ) (r : VlanRef) (p : Pidx) (tagged : Bool) :
    (portAddWrites r p tagged).foldlM BitWrite.apply s = ubrVlanPortAdd s (some r) p tagged := by
  cases live : s.heap r with
  | none =>
      cases tagged <;>
        simp [portAddWrites, BitWrite.apply, BitWrite.vlan, ubrVlanPortAdd, Ubr.modVlan, live, bind, Except.bind]
  | some v =>
      cases tagged with
      | false =>
          simp [portAddWrites, BitWrite.apply, BitWrite.vlan, BitWrite.on, ubrVlanPortAdd, Ubr.modVlan, live,
            bind, Except.bind, pure, Except.pure]
      | true =>
          simp [portAddWrites, BitWrite.apply, BitWrite.vlan, BitWrite.on, ubrVlanPortAdd, Ubr.modVlan, Ubr.putVlan,
            live, bind, Except.bind, pure, Except.pure]

theorem portDelWrites_apply (s : Ubr τ) (r : VlanRef) (p : Pidx) :
    (portDelWrites r p).foldlM BitWrite.apply s = ubrVlanPortDel s (some r) p := by
  cases live : s.heap r with
  | none => simp [portDelWrites, BitWrite.apply, BitWrite.vlan, ubrVlanPortDel, Ubr.modVlan, live, bind, Except.bind]
  | some v =>
      simp [portDelWrites, BitWrite.apply, BitWrite.vlan, BitWrite.on, ubrVlanPortDel, Ubr.modVlan, Ubr.putVlan, live,
        bind, Except.bind, pure, Except.pure]

/-- The `i`-th frame in flight goes on, `n` steps at most. -/
def Transit.drain (cfg : Config) (env : FrameEnv) (i : Nat) : Nat → Transit τ → Except Fault (Transit τ × List SkbEvent)
  | 0, s => .ok (s, [])
  | n + 1, s =>
      match s.flight[i]? with
      | none => .ok (s, [])
      | some f => do
          let (s, out) ← s.egress cfg env i f
          let (s, log) ← s.drain cfg env i n
          .ok (s, out.log ++ log)

/-- The last frame in flight when it has these ports to come to. -/
def Transit.copying (s : Transit τ) (front : List Copying) (skb : Skb) (todo : List Pidx) : Transit τ :=
  { s with flight := front ++ [⟨skb, todo⟩] }

theorem copying_last (s : Transit τ) (front : List Copying) (skb : Skb) (todo : List Pidx) :
    (s.copying front skb todo).flight[front.length]? = some ⟨skb, todo⟩ := by
  simp [Transit.copying]

theorem copying_next (s : Transit τ) (front : List Copying) (skb : Skb) (todo rest : List Pidx) :
    { s.copying front skb todo with
      flight := (s.copying front skb todo).flight.set front.length ⟨skb, rest⟩ } = s.copying front skb rest := by
  simp [Transit.copying]

theorem copying_erase (s : Transit τ) (front : List Copying) (skb : Skb) (todo : List Pidx) :
    { s.copying front skb todo with flight := (s.copying front skb todo).flight.eraseIdx front.length } =
      { s with flight := front } := by
  simp [Transit.copying, List.eraseIdx_append_of_length_le]

theorem drain_done (s : Transit τ) (front : List Copying) (env : FrameEnv) (n : Nat) :
    Transit.drain cfg env front.length n { s with flight := front } = .ok ({ s with flight := front }, []) := by
  cases n with
  | zero => rfl
  | succ n => simp [Transit.drain]

/-- `ubr_deliver` when it has still to come to some clones and to the first port. -/
def deliverRest (cfg : Config) (s : Ubr τ) (env : FrameEnv) (skb : Skb) (first : Pidx) (above : List Pidx) :
    Forwarding Unit := do
  let cloned ← ubrDeliverClones cfg s env skb above
  if cloned then
    if first = 0 then ubrDeliverUp cfg s env skb
    else ubrDeliverDown cfg s env skb first
  else Logged.emit (.free skb.buf)

theorem deliverRest_cons (s : Ubr τ) (env : FrameEnv) (skb : Skb) (first p : Pidx) (above : List Pidx) :
    deliverRest cfg s env skb first (p :: above) =
      if env.cloneFails p then Logged.emit (.free skb.buf)
      else ubrDeliverDown cfg s env { skb with buf := .clone p } p >>= fun _ =>
        deliverRest cfg s env skb first above := by
  simp only [deliverRest, ubrDeliverClones]
  split
  · rfl
  · exact Logged.bind_assoc _ _ _

theorem egress_last (s : Transit τ) (front : List Copying) (skb : Skb) (env : FrameEnv) (first : Pidx) :
    (s.copying front skb [first]).egress cfg env front.length ⟨skb, [first]⟩ =
      (deliverRest cfg s.sys.ubr env skb first []).res.map fun _ =>
        ({ s with flight := front }, { log := (deliverRest cfg s.sys.ubr env skb first []).log }) := by
  have alone : deliverRest cfg s.sys.ubr env skb first [] =
      if first = 0 then ubrDeliverUp cfg s.sys.ubr env skb else ubrDeliverDown cfg s.sys.ubr env skb first := rfl
  rw [alone]
  simp only [Transit.egress, copying_erase]
  have same : (s.copying front skb [first]).sys.ubr = s.sys.ubr := rfl
  rw [same]
  split
  · rename_i e stopped
    rw [stopped]
    rfl
  · rename_i sent
    rw [sent]
    rfl

theorem egress_next (s : Transit τ) (front : List Copying) (skb : Skb) (env : FrameEnv) (first p : Pidx)
    (above : List Pidx) :
    (s.copying front skb (p :: (above ++ [first]))).egress cfg env front.length ⟨skb, p :: (above ++ [first])⟩ =
      if env.cloneFails p then .ok ({ s with flight := front }, { log := [.free skb.buf] })
      else (ubrDeliverDown cfg s.sys.ubr env { skb with buf := .clone p } p).res.map fun _ =>
        (s.copying front skb (above ++ [first]),
          { log := (ubrDeliverDown cfg s.sys.ubr env { skb with buf := .clone p } p).log }) := by
  obtain ⟨x, later, more⟩ :=
    List.exists_cons_of_ne_nil (List.append_ne_nil_of_right_ne_nil above (List.cons_ne_nil first []))
  rw [more]
  simp only [Transit.egress, copying_erase, copying_next]
  have same : (s.copying front skb (p :: x :: later)).sys.ubr = s.sys.ubr := rfl
  rw [same]
  split
  · rfl
  · split
    · rename_i e stopped
      rw [stopped]
      rfl
    · rename_i sent
      rw [sent]
      rfl

theorem drain_succ {s : Transit τ} {env : FrameEnv} {i n : Nat} {f : Copying} (here : s.flight[i]? = some f) :
    s.drain cfg env i (n + 1) = (do
      let (s, out) ← s.egress cfg env i f
      let (s, log) ← s.drain cfg env i n
      .ok (s, out.log ++ log)) := by
  simp only [Transit.drain, here]

theorem drain_deliverRest (s : Transit τ) (front : List Copying) (skb : Skb) (env : FrameEnv) (first : Pidx)
    (above : List Pidx) :
    (s.copying front skb (above ++ [first])).drain cfg env front.length (above.length + 1) =
      (deliverRest cfg s.sys.ubr env skb first above).res.map fun _ =>
        ({ s with flight := front }, (deliverRest cfg s.sys.ubr env skb first above).log) := by
  induction above with
  | nil =>
      rw [List.nil_append, drain_succ (copying_last s front skb [first]), egress_last]
      cases (deliverRest cfg s.sys.ubr env skb first []).res with
      | error e => rfl
      | ok u => simp [Except.map, bind, Except.bind, drain_done]
  | cons p above ih =>
      rw [List.cons_append, List.length_cons, drain_succ (copying_last s front skb _), egress_next, deliverRest_cons]
      split
      · simp only [bind, Except.bind, drain_done]
        rfl
      · cases sent : (ubrDeliverDown cfg s.sys.ubr env { skb with buf := .clone p } p).res with
        | error e =>
            rw [Logged.bind_error sent]
            rfl
        | ok u =>
            rw [Logged.bind_ok sent]
            simp only [Except.map, bind, Except.bind, ih]
            cases (deliverRest cfg s.sys.ubr env skb first above).res with
            | error e => rfl
            | ok u => rfl

/-- A frame whose copies are made with nothing in between is delivered by `ubr_deliver`. -/
theorem copies_uninterrupted (cfg : Config) (s : Transit τ) (front : List Copying) (skb : Skb) (env : FrameEnv)
    (someone : skb.cb.vec.findFirst.isSome) :
    (s.copying front skb (deliveryOrder skb.cb.vec)).drain cfg env front.length (deliveryOrder skb.cb.vec).length =
      (ubrDeliver cfg s.sys.ubr env skb).res.map fun _ =>
        ({ s with flight := front }, (ubrDeliver cfg s.sys.ubr env skb).log) := by
  obtain ⟨first, lowest⟩ := Option.isSome_iff_exists.mp someone
  have whole : ubrDeliver cfg s.sys.ubr env skb =
      deliverRest cfg s.sys.ubr env skb first (skb.cb.vec.toList.filter (first < ·)) := by
    simp only [ubrDeliver, lowest]
    rfl
  rw [whole]
  simp only [deliveryOrder, lowest, List.length_append, List.length_singleton]
  exact drain_deliverRest s front skb env first _

section Frame

variable [Jiffies τ] {s : Transit τ} {env : FrameEnv} {skb copy : Skb} {vlan : UbrVlan}

/-- The frame went through the FDB. -/
def Transit.learned (s : Transit τ) (env : FrameEnv) (vlan : UbrVlan) (copy : Skb) : Transit τ :=
  { s with sys.ubr.fdb := ubrFdbLearned s.sys.ubr.fdb s.sys.jiffies env vlan copy }

theorem ingress_rejected (passed : ubrVlanIngress cfg s.sys.ubr env skb = .ok (false, some copy))
    (ctrl : copy.cb.ctrl = false) (read : s.sys.ubr.vlanAt copy.cb.vlan = .ok vlan) :
    s.ingress cfg env skb = .ok (s.learned env vlan copy, { log := [.free copy.buf] }) := by
  simp only [Transit.ingress, passed, bind, Except.bind, ctrl, read]
  rfl

theorem ingress_accepted (passed : ubrVlanIngress cfg s.sys.ubr env skb = .ok (true, some copy))
    (ctrl : copy.cb.ctrl = false) (read : s.sys.ubr.vlanAt copy.cb.vlan = .ok vlan) {sent : Skb}
    (filtered : (ubrFdbForward cfg s.sys.ubr.fdb s.sys.jiffies env vlan copy).2 = sent) :
    s.ingress cfg env skb = .ok (if sent.cb.vec.findFirst.isSome then
        ((s.learned env vlan copy).copying s.flight sent (deliveryOrder sent.cb.vec), {})
      else (s.learned env vlan copy, { log := [.free copy.buf] })) := by
  subst filtered
  simp only [Transit.ingress, passed, bind, Except.bind, ctrl, read, ubrCtrlIngress, ubrStpIngress, ubrFdbIngress,
    Bool.and_self, true_and, Bool.false_eq_true, if_false]
  split
  · rfl
  · rfl

/-- A frame that nothing comes in between of is forwarded by `ubr_forward`. -/
theorem frame_uninterrupted {u : Ubr τ} {handed : Bool}
    (done : (ubrForward cfg s.sys.ubr s.sys.jiffies env skb).res = .ok (u, handed)) :
    ∃ mid out n log, s.ingress cfg env skb = .ok (mid, out) ∧
      mid.drain cfg env s.flight.length n = .ok ({ s with sys.ubr := u }, log) ∧
      out.log ++ log = (ubrForward cfg s.sys.ubr s.sys.jiffies env skb).log := by
  obtain ⟨⟨allow, kept⟩, passed, rest⟩ := Logged.res_bind_eq_ok done
  simp only [Logged.lift_res] at passed
  cases kept with
  | none => cases rest
  | some copy =>
      cases ctrl : copy.cb.ctrl with
      | true =>
          simp only [ctrl] at rest
          cases rest
          refine ⟨s, {}, 0, [], ?_, rfl, ?_⟩
          · simp [Transit.ingress, passed, ctrl, bind, Except.bind]
          · simp [ubrForward, passed, ctrl]
      | false =>
          simp only [ctrl, Bool.false_eq_true, if_false] at rest
          obtain ⟨vlan, read, _⟩ := Logged.res_bind_eq_ok rest
          simp only [Logged.lift_res] at read
          cases allow with
          | false =>
              rw [ubrForward_rejected passed ctrl read] at done ⊢
              cases done
              exact ⟨_, _, 0, [], ingress_rejected passed ctrl read, rfl, rfl⟩
          | true =>
              have entered := ingress_accepted passed ctrl read rfl
              rw [ubrForward_accepted passed ctrl read] at done ⊢
              obtain ⟨_, delivered, done⟩ := Logged.res_bind_eq_ok done
              cases done
              rw [Logged.bind_ok delivered]
              split at entered
              · rename_i someone
                have whole := copies_uninterrupted cfg (s.learned env vlan copy) s.flight _ env someone
                refine ⟨_, _, _, _, entered, whole.trans (congrArg (Except.map _) delivered), ?_⟩
                simp [Transit.learned]
              · rename_i nobody
                refine ⟨_, _, 0, [], entered, rfl, ?_⟩
                have none :
                    (ubrFdbForward cfg s.sys.ubr.fdb s.sys.jiffies env vlan copy).2.cb.vec.findFirst = none := by
                  simpa using nobody
                simp only [ubrDeliver, none]
                rfl

end Frame

end Uninterrupted

end UnassumingBridge
