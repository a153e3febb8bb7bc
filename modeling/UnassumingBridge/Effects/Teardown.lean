import UnassumingBridge.Kernel.Teardown
import UnassumingBridge.Effects.Nodes

/-! # What one event does until the bridge is gone

`Move` lists, for every event of the machine, the state that it leads to and what it
did to the database in memory. A frame that nobody comes in between of is handled as
in `UnassumingBridge.Kernel.Forward`.
-/

namespace UnassumingBridge

open Support

variable {τ : Type} [Jiffies τ]

/-- What an executed event can have done to a bridge that is torn down, and to the nodes of its
    database. -/
inductive Move (cfg : Config) (s : Teardown τ) : TeardownEvent → Teardown τ → List FdbHandling → Prop where
  | around {e sys out} (enabled : s.sys.Enabled e) (free : s.Free e) (done : s.sys.exec cfg e = .ok (sys, out)) :
      Move cfg s (.around e) { s with sys } []
  /-- A frame that is handed back does not become one in flight. -/
  | handed {e} (arrival : ∀ i, e ≠ .advance i) : Move cfg s e s []
  | arrived {e} {f : InFlight} (arrival : ∀ i, e ≠ .advance i)
      (slave : ∀ dev, f.source = some dev → (s.sys.slotOf dev).isSome) :
      Move cfg s e { s with flight := s.flight ++ [f] } []
  | learn {i f vlan} (here : s.flight[i]? = some f) (stage : f.stage = .learn)
      (found : s.sys.ubr.vlanAt f.skb.cb.vlan = .ok vlan) (learning : (f.skb.cb.saLearning && vlan.saLearning) = true)
      (stage' : Stage) :
      Move cfg s (.advance i)
        { s.setFdb (s.fdb.learnLookup s.sys.jiffies vlan f.skb).1 with
          flight := s.flight.set i { f with stage := stage' } }
        (s.fdb.learnLookup s.sys.jiffies vlan f.skb).2.2
  | pass {i f vlan} (here : s.flight[i]? = some f) (stage : f.stage = .learn)
      (found : s.sys.ubr.vlanAt f.skb.cb.vlan = .ok vlan) (still : (f.skb.cb.saLearning && vlan.saLearning) = false) :
      Move cfg s (.advance i) { s with flight := s.flight.set i { f with stage := .lookup } } []
  | insert {i f key} (here : s.flight[i]? = some f) (stage : f.stage = .insert key) :
      Move cfg s (.advance i)
        { s.setFdb (s.fdb.learnInsert s.sys.jiffies f.env key f.skb.cb.pidx).1 with
          flight := s.flight.set i { f with stage := .lookup } }
        (s.fdb.learnInsert s.sys.jiffies f.env key f.skb.cb.pidx).2
  | look {i f vlan} (here : s.flight[i]? = some f) (stage : f.stage = .lookup)
      (found : s.sys.ubr.vlanAt f.skb.cb.vlan = .ok vlan) (skb : Skb) :
      Move cfg s (.advance i) { s with flight := s.flight.set i { f with skb, stage := .deliver } }
        (s.fdb.filter cfg s.sys.jiffies f.env vlan f.skb).2
  | leave {i f} (here : s.flight[i]? = some f) (stage : f.stage = .deliver) :
      Move cfg s (.advance i) { s with flight := s.flight.eraseIdx i } []
  | age {walk} (early : s.phase.ageing = true) :
      Move cfg s (.age walk) (s.setFdb (s.fdb.flush ageingOp s.sys.jiffies walk).1)
        (s.fdb.flush ageingOp s.sys.jiffies walk).2
  | nodeFree {ref} (queued : ref ∈ s.fdb.rcu.map StoredNode.ref) :
      Move cfg s (.nodeFree ref) (s.setFdb (s.fdb.nodeDeleteRcu ref).1) (s.fdb.nodeDeleteRcu ref).2
  | enter (phase : s.phase = .up) :
      Move cfg s .dellink { s with phase := .removing (List.finRange 256) } []
  | remove {rest pidx later dev ubr nd} (phase : s.phase = .removing rest)
      (next : s.sys.ubr.laterSlaves rest = pidx :: later) (plugged : (s.sys.ubr.ports pidx).dev = some dev)
      (quiet : s.Quiet (some dev)) (deleted : ubrPortDel s.sys.ubr (s.sys.devs dev) = .ok (ubr, nd)) :
      Move cfg s .dellink { s with sys := { s.sys with ubr }.setDev dev nd, phase := .removing later } []
  | cancel {rest} (phase : s.phase = .removing rest) (next : s.sys.ubr.laterSlaves rest = []) :
      Move cfg s .dellink { s with phase := .cancelled } []
  | flush {walk} (phase : s.phase = .cancelled) (complete : s.fdb.Complete walk) :
      Move cfg s (.flush walk) { s.setFdb (s.fdb.flush {} s.sys.jiffies walk).1 with phase := .flushed }
        (s.fdb.flush {} s.sys.jiffies walk).2
  | destroy (phase : s.phase = .flushed) :
      Move cfg s .dellink { s with phase := .destroyed } [.take .table ()]
  | queue (phase : s.phase = .destroyed) : Move cfg s .dellink { s with phase := .queued } []
  | close (phase : s.phase = .queued) (quiet : s.Quiet none) : Move cfg s .dellink { s with phase := .gone } []

section Inversion

variable {cfg : Config} {s s' : Teardown τ} {o : TeardownOutcome}

theorem arrive_move {e : TeardownEvent} {source : Option Dev} {skb : Skb} {env : FrameEnv}
    (arrival : ∀ i, e ≠ .advance i) (slave : ∀ dev, source = some dev → (s.sys.slotOf dev).isSome)
    (done : s.arrive cfg source skb env = .ok (s', o)) : Move cfg s e s' o.handled := by
  obtain ⟨⟨allow, kept⟩, passed, done⟩ := except_bind_eq_ok done
  cases kept with
  | none => cases done
  | some skb =>
      simp only at done
      split at done
      · cases done
        exact .handed arrival
      · cases done
        exact .arrived arrival slave

theorem advance_move {i : Nat} {f : InFlight} (here : s.flight[i]? = some f)
    (done : s.advance cfg i f = .ok (s', o)) : Move cfg s (.advance i) s' o.handled := by
  unfold Teardown.advance at done
  split at done
  · rename_i stage
    obtain ⟨vlan, found, done⟩ := except_bind_eq_ok done
    split at done
    · rename_i learning
      cases done
      exact .learn here stage found learning _
    · rename_i still
      cases done
      exact .pass here stage found (by simpa using still)
  · rename_i key stage
    cases done
    exact .insert here stage
  · rename_i stage
    obtain ⟨vlan, found, done⟩ := except_bind_eq_ok done
    cases done
    exact .look here stage found _
  · rename_i stage
    simp only at done
    split at done
    · cases done
    · cases done
      exact .leave here stage

theorem dellink_move (ready : s.DellinkReady) (done : s.dellink = .ok (s', o)) :
    Move cfg s .dellink s' o.handled := by
  unfold Teardown.dellink at done
  split at done
  · rename_i phase
    cases done
    exact .enter phase
  · rename_i rest phase
    simp only [Teardown.DellinkReady, phase] at ready
    split at done
    · rename_i next
      cases done
      exact .cancel phase next
    · rename_i pidx later next
      split at done
      · cases done
      · rename_i dev plugged
        obtain ⟨⟨ubr, nd⟩, deleted, done⟩ := except_bind_eq_ok done
        cases done
        refine .remove phase next plugged ?_ deleted
        exact plugged ▸ ready pidx (by simp [next])
  · rename_i phase
    cases done
    exact .destroy phase
  · rename_i phase
    cases done
    exact .queue phase
  · rename_i phase
    cases done
    simp only [Teardown.DellinkReady, phase] at ready
    exact .close phase ready
  · rename_i phase
    simp only [Teardown.DellinkReady, phase] at ready
  · rename_i phase
    simp only [Teardown.DellinkReady, phase] at ready

/-- Every executed event is one of the listed moves. -/
theorem exec_move {e : TeardownEvent} (enabled : s.Enabled e) (done : s.exec cfg e = .ok (s', o)) :
    Move cfg s e s' o.handled := by
  cases e with
  | around e =>
      obtain ⟨⟨sys, out⟩, ran, done⟩ := except_bind_eq_ok done
      cases done
      exact .around enabled.1 enabled.2 ran
  | rx dev skb env =>
      simp only [Teardown.exec] at done
      split at done
      · cases done
        exact .handed nofun
      · obtain ⟨_, _, done⟩ := except_bind_eq_ok done
        refine arrive_move nofun (fun d same => ?_) done
        cases same
        exact enabled
  | xmit skb env =>
      refine arrive_move nofun (fun d host => ?_) done
      cases host
  | advance i =>
      simp only [Teardown.exec] at done
      split at done
      · rename_i absent
        have known : i < s.flight.length := enabled
        rw [List.getElem?_eq_getElem known] at absent
        cases absent
      · rename_i f here
        exact advance_move here done
  | age walk =>
      cases done
      exact .age enabled
  | nodeFree ref =>
      cases done
      exact .nodeFree enabled
  | dellink => exact dellink_move enabled done
  | flush walk =>
      cases done
      exact .flush enabled.1 enabled.2

end Inversion

/-- The only frame in flight goes on until it has left. -/
inductive Alone (cfg : Config) : Teardown τ → List SkbEvent → Teardown τ → Prop where
  | left {s} (empty : s.flight = []) : Alone cfg s [] s
  | goes {s s' s'' f o log} (here : s.flight = [f]) (done : s.advance cfg 0 f = .ok (s', o))
      (rest : Alone cfg s' log s'') : Alone cfg s (o.out.log ++ log) s''

section Alone

variable {cfg : Config} {s s' : Teardown τ} {f : InFlight} {vlan : UbrVlan}

theorem Alone.silent {s'' : Teardown τ} {handled : List FdbHandling} {log : List SkbEvent} (here : s.flight = [f])
    (done : s.advance cfg 0 f = .ok (s', { handled })) (rest : Alone cfg s' log s'') : Alone cfg s log s'' :=
  .goes here done rest

/-- What happens to a frame once the database has been asked. -/
def InFlight.delivery (cfg : Config) (u : Ubr τ) (f : InFlight) (skb : Skb) : Forwarding Unit :=
  if f.allow && ubrCtrlIngress skb && ubrStpIngress skb && ubrFdbIngress skb then ubrDeliver cfg u f.env skb
  else Logged.emit (.free skb.buf)

theorem alone_deliver (here : s.flight = [f]) (stage : f.stage = .deliver)
    (passed : (f.delivery cfg s.sys.ubr f.skb).res = .ok ()) :
    Alone cfg s (f.delivery cfg s.sys.ubr f.skb).log { s with flight := [] } := by
  have done : s.advance cfg 0 f =
      .ok ({ s with flight := [] }, { out := { log := (f.delivery cfg s.sys.ubr f.skb).log } }) := by
    simp only [Teardown.advance, stage, here]
    simp only [InFlight.delivery] at passed ⊢
    rw [passed]
    rfl
  have rest : Alone cfg { s with flight := [] } [] { s with flight := [] } := .left rfl
  simpa only [List.append_nil] using Alone.goes here done rest

theorem alone_lookup (here : s.flight = [f]) (stage : f.stage = .lookup)
    (found : s.sys.ubr.vlanAt f.skb.cb.vlan = .ok vlan) {skb : Skb}
    (filtered : skb = { f.skb with
      cb.vec := f.skb.cb.vec.and (s.fdb.filter cfg s.sys.jiffies f.env vlan f.skb).1 })
    (passed : (f.delivery cfg s.sys.ubr skb).res = .ok ()) :
    Alone cfg s (f.delivery cfg s.sys.ubr skb).log { s with flight := [] } := by
  have done : s.advance cfg 0 f = .ok ({ s with flight := [{ f with skb, stage := .deliver }] },
      { handled := (s.fdb.filter cfg s.sys.jiffies f.env vlan f.skb).2 }) := by
    simp only [Teardown.advance, stage, here, found, filtered]
    rfl
  let next : Teardown τ := { s with flight := [{ f with skb, stage := .deliver }] }
  have rest : Alone cfg next (f.delivery cfg s.sys.ubr skb).log { s with flight := [] } :=
    alone_deliver (show next.flight = [{ f with skb, stage := .deliver }] from rfl) rfl passed
  exact .silent here done rest

theorem alone_learn (coupled : s.sys.ubr.fdb = s.fdb.view) (here : s.flight = [f]) (stage : f.stage = .learn)
    (found : s.sys.ubr.vlanAt f.skb.cb.vlan = .ok vlan) :
    ∃ fdb : FdbMemory τ, fdb.view = ubrFdbLearned s.fdb.view s.sys.jiffies f.env vlan f.skb ∧
      ∀ log s', Alone cfg { s.setFdb fdb with flight := [{ f with stage := .lookup }] } log s' →
        Alone cfg s log s' := by
  cases learning : f.skb.cb.saLearning && vlan.saLearning with
  | false =>
      refine ⟨s.fdb, by simp only [ubrFdbLearned, learning]; rfl, fun log s' rest => ?_⟩
      have unchanged : s.setFdb s.fdb = s := by
        simp only [Teardown.setFdb, ← coupled]
      rw [unchanged] at rest
      have done : s.advance cfg 0 f = .ok ({ s with flight := [{ f with stage := .lookup }] }, { handled := [] }) := by
        simp only [Teardown.advance, stage, found, here, bind, Except.bind, learning]
        rfl
      exact .silent here done rest
  | true =>
      have view := s.fdb.view_learn s.sys.jiffies f.env vlan f.skb
      have begun (out : FdbMemory τ × Option UbrFdbAddr × List FdbHandling)
          (same : s.fdb.learnLookup s.sys.jiffies vlan f.skb = out) :
          s.advance cfg 0 f = .ok ({ s.setFdb out.1 with flight := [{ f with stage := .afterLookup out.2.1 }] },
            { handled := out.2.2 }) := by
        simp only [Teardown.advance, stage, found, here, bind, Except.bind, learning, same]
        rfl
      cases out : s.fdb.learnLookup s.sys.jiffies vlan f.skb with
      | mk fdb rest =>
          obtain ⟨key, handled⟩ := rest
          have begun := begun _ out
          rw [out] at view
          cases key with
          | none =>
              refine ⟨fdb, by rw [view]; simp only [ubrFdbLearned, learning]; rfl, fun log s' rest => ?_⟩
              exact .silent here begun rest
          | some key =>
              refine ⟨(fdb.learnInsert s.sys.jiffies f.env key f.skb.cb.pidx).1,
                by rw [view]; simp only [ubrFdbLearned, learning]; rfl, fun log s' rest => ?_⟩
              exact .silent here begun (.silent rfl rfl rest)

theorem ubrForward_delivery {u : Ubr τ} (now : τ) (source : Option Dev) {env : FrameEnv} {skb copy : Skb} {allow : Bool}
    (ingress : ubrVlanIngress cfg u env skb = .ok (allow, some copy)) (ctrl : copy.cb.ctrl = false)
    (found : u.vlanAt copy.cb.vlan = .ok vlan) :
    ubrForward cfg u now env skb =
      let fdb := ubrFdbLearned u.fdb now env vlan copy
      let f : InFlight := { source, skb := copy, env, allow }
      let skb := { copy with cb.vec := copy.cb.vec.and (ubrFdbFilter cfg fdb now env vlan copy) }
      f.delivery cfg { u with fdb } skb >>= fun _ => pure ({ u with fdb }, false) := by
  simp only [ubrForward, ingress, Logged.lift_ok_bind]
  rw [if_neg (by simp [ctrl]), found, Logged.lift_ok_bind]
  rfl

/-- A frame that meets nobody on its way is handled as `ubr_forward` handles it. -/
theorem uninterrupted {source : Option Dev} {skb : Skb} {env : FrameEnv} {sys : Sys τ} {o : Outcome}
    (coupled : s.sys.ubr.fdb = s.fdb.view) (empty : s.flight = [])
    (done : s.sys.forwarded (ubrForward cfg s.sys.ubr s.sys.jiffies env skb) = .ok (sys, o)) :
    ∃ s₁ o₁ s₂, s.arrive cfg source skb env = .ok (s₁, o₁) ∧ Alone cfg s₁ o.log s₂ ∧
      s₂.sys = sys ∧ s₂.sys.ubr.fdb = s₂.fdb.view := by
  obtain ⟨u, handed, whole, rfl, same⟩ := forwarded_ok done
  rw [same]
  obtain ⟨⟨allow, kept⟩, ingress, ran⟩ := Logged.res_bind_eq_ok whole
  cases kept with
  | none => cases ran
  | some copy =>
      simp only [Logged.lift_res] at ingress
      cases ctrl : copy.cb.ctrl with
      | true =>
          simp only [ctrl] at ran
          cases ran
          refine ⟨s, {}, s, ?_, ?_, rfl, coupled⟩
          · simp only [Teardown.arrive, ingress]
            simp only [bind, Except.bind, ctrl]
            rfl
          · have log : (ubrForward cfg s.sys.ubr s.sys.jiffies env skb).log = [] := by
              simp only [ubrForward, ingress, Logged.lift_ok_bind, ctrl]
              rfl
            rw [log]
            exact .left empty
      | false =>
          simp only [ctrl] at ran
          obtain ⟨vlan, found, _⟩ := Logged.res_bind_eq_ok ran
          simp only [Logged.lift_res] at found
          let f : InFlight := { source, skb := copy, env, allow }
          have arrived : s.arrive cfg source skb env = .ok ({ s with flight := [f] }, {}) := by
            simp only [Teardown.arrive, ingress, bind, Except.bind, ctrl, empty]
            rfl
          let arrival : Teardown τ := { s with flight := [f] }
          obtain ⟨fdb, learned, rest⟩ := alone_learn (show arrival.sys.ubr.fdb = arrival.fdb.view from coupled)
            (show arrival.flight = [f] from rfl) rfl found
          have forward := ubrForward_delivery s.sys.jiffies source ingress ctrl found
          have learned : ubrFdbLearned s.sys.ubr.fdb s.sys.jiffies env vlan copy = fdb.view := by
            rw [coupled]
            exact learned.symm
          rw [learned] at forward
          rw [forward] at whole ⊢
          obtain ⟨_, passed, done⟩ := Logged.res_bind_eq_ok whole
          cases done
          rw [Logged.bind_ok passed, Logged.pure_log, List.append_nil]
          let asked : InFlight := { f with stage := .lookup }
          let asking : Teardown τ := { s.setFdb fdb with flight := [asked] }
          have goes := alone_lookup (show asking.flight = [asked] from rfl) rfl found rfl passed
          exact ⟨_, _, _, arrived, rest _ _ goes, rfl, rfl⟩

end Alone

end UnassumingBridge
