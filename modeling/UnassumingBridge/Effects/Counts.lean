import UnassumingBridge.Effects.Step

/-! # The counts on devices

A device counts who wants it promiscuous, and others than the bridge change the counts.
The bridge adds and subtracts one and never looks at them.
-/

namespace UnassumingBridge

open Support

variable {τ : Type} {cfg : Config}

def NetDev.recount (nd : NetDev) (promiscuity allmulti : Int) : NetDev := { nd with promiscuity, allmulti }

theorem recount_same (nd : NetDev) : nd = nd.recount nd.promiscuity nd.allmulti := rfl

/-- The same system, but for the counts on its devices. -/
structure Alike (s t : Sys τ) : Prop where
  ubr : s.ubr = t.ubr
  clock : s.jiffies = t.jiffies
  devs : ∀ dev, ∃ p m, s.devs dev = (t.devs dev).recount p m

section Devices

variable {nd nd' : NetDev} {p m : Int} {ubr ubr' : Ubr τ}

theorem ubrPortEnslave_recount (b : Dev) (k : Pidx) (env : PortAddEnv) (nd : NetDev) (p m : Int) :
    ∃ p' m', ubrPortEnslave b k env (nd.recount p m) =
      ((ubrPortEnslave b k env nd).1.recount p' m', (ubrPortEnslave b k env nd).2) := by
  unfold ubrPortEnslave
  cases env.link with
  | some e => exact ⟨p, m, rfl⟩
  | none =>
      cases env.promisc with
      | some e => exact ⟨p, m, rfl⟩
      | none =>
          cases env.allmulti with
          | some e => exact ⟨p + 1 - 1, m, rfl⟩
          | none =>
              cases owned : nd.rxHandler with
              | some handler =>
                  refine ⟨p + 1 - 1, m + 1 - 1, ?_⟩
                  simp [rxHandlerRegister, NetDev.recount, owned, NetDev.clearAllmulti, NetDev.clearPromisc,
                    NetDev.unlink]
              | none =>
                  cases failed : env.rxRegister with
                  | some e =>
                      refine ⟨p + 1 - 1, m + 1 - 1, ?_⟩
                      simp [rxHandlerRegister, NetDev.recount, owned, failed, NetDev.clearAllmulti, NetDev.clearPromisc,
                        NetDev.unlink]
                  | none =>
                      refine ⟨p + 1, m + 1, ?_⟩
                      simp [rxHandlerRegister, NetDev.recount, owned, failed]

theorem ubrPortAdd_recount {dev : Dev} {env : PortAddEnv} {ret : Ret}
    (done : ubrPortAdd cfg ubr dev env nd = .ok (ubr', nd', ret)) (p m : Int) :
    ∃ p' m', ubrPortAdd cfg ubr dev env (nd.recount p m) = .ok (ubr', nd'.recount p' m', ret) := by
  unfold ubrPortAdd at done ⊢
  have verdict : ubrPortAddAllowed (nd.recount p m) = ubrPortAddAllowed nd := rfl
  rw [verdict]
  cases allowed : ubrPortAddAllowed nd with
  | error e =>
      simp only [allowed] at done ⊢
      cases done
      exact ⟨p, m, rfl⟩
  | ok u =>
      simp only [allowed] at done ⊢
      cases zero : ubr.busy.findFirstZero with
      | none =>
          simp only [zero] at done ⊢
          cases done
          exact ⟨p, m, rfl⟩
      | some k =>
          simp only [zero] at done ⊢
          obtain ⟨mid, plugged, done⟩ := except_bind_eq_ok done
          obtain ⟨_, room, done⟩ := except_bind_eq_ok done
          obtain ⟨p', m', enslaved⟩ := ubrPortEnslave_recount mid.dev k env nd p m
          refine ⟨p', m', ?_⟩
          rw [plugged]
          change (ubrUpdateHeadroom mid >>= _) = _
          rw [room]
          simp only [bind, Except.bind, enslaved]
          split at done
          · rename_i whole
            cases done
            rw [whole]
          · rename_i failed
            obtain ⟨_, zeroed, done⟩ := except_bind_eq_ok done
            cases done
            simp only [failed, zeroed]

theorem ubrPortDel_recount (done : ubrPortDel ubr nd = .ok (ubr', nd')) (p m : Int) :
    ∃ p' m', ubrPortDel ubr (nd.recount p m) = .ok (ubr', nd'.recount p' m') := by
  unfold ubrPortDel at done ⊢
  have handlers : (nd.recount p m).rxHandler = nd.rxHandler := rfl
  rw [handlers]
  split at done
  · rename_i b slot handler
    obtain ⟨_, cleaned, done⟩ := except_bind_eq_ok done
    cases done
    refine ⟨p - 1, m - 1, ?_⟩
    simp only [cleaned]
    rfl
  · cases done

end Devices

namespace Alike

variable {s t : Sys τ} {dev : Dev}

theorem refl (s : Sys τ) : Alike s s := ⟨rfl, rfl, fun _ => ⟨_, _, rfl⟩⟩

theorem symm (alike : Alike s t) : Alike t s := by
  refine ⟨alike.ubr.symm, alike.clock.symm, fun dev => ?_⟩
  obtain ⟨p, m, same⟩ := alike.devs dev
  exact ⟨(t.devs dev).promiscuity, (t.devs dev).allmulti, by rw [same]; rfl⟩

theorem slotOf (alike : Alike s t) (dev : Dev) : s.slotOf dev = t.slotOf dev := by
  obtain ⟨p, m, same⟩ := alike.devs dev
  unfold Sys.slotOf
  rw [same, alike.ubr]
  rfl

theorem initSlot (alike : Alike s t) (dev : Dev) : s.initSlot dev = t.initSlot dev := by
  obtain ⟨p, m, same⟩ := alike.devs dev
  unfold Sys.initSlot
  rw [same, alike.ubr]
  rfl

theorem completes (alike : Alike s t) (dev : Dev) (env : PortAddEnv) (k : Pidx) :
    s.completes dev env k = t.completes dev env k := by
  obtain ⟨p, m, same⟩ := alike.devs dev
  unfold Sys.completes
  rw [same, alike.ubr]
  obtain ⟨_, _, enslaved⟩ := ubrPortEnslave_recount t.ubr.dev k env (t.devs dev) p m
  rw [enslaved]

theorem enabled (alike : Alike s t) {e : Event} (enabled : t.Enabled e) : s.Enabled e := by
  have slots := alike.slotOf
  cases e with
  | rx dev _ _ | portDel dev =>
      change (s.slotOf dev).isSome = true
      rw [slots]
      exact enabled
  | portCleanup slot => exact (congrArg (fun ubr : Ubr τ => slot ∈ ubr.portRcu) alike.ubr).mpr enabled
  | vlanFree vlan => exact (congrArg (fun ubr : Ubr τ => vlan ∈ ubr.vlanRcu) alike.ubr).mpr enabled
  | devChange dev nd =>
      refine ⟨(slots dev).trans enabled.1, ?_⟩
      rw [alike.ubr]
      exact enabled.2
  | _ => trivial

theorem setDev (alike : Alike s t) (ubr : Ubr τ) (dev : Dev) {nd nd' : NetDev} {p m : Int}
    (same : nd' = nd.recount p m) : Alike ({ s with ubr }.setDev dev nd') ({ t with ubr }.setDev dev nd) := by
  refine ⟨rfl, alike.clock, fun d => ?_⟩
  by_cases here : d = dev
  · refine ⟨p, m, ?_⟩
    rw [here]
    simp only [Sys.setDev, Function.update_self, same]
  · obtain ⟨p', m', before⟩ := alike.devs d
    refine ⟨p', m', ?_⟩
    simp only [Sys.setDev, Function.update_of_ne here, before]

variable [Jiffies τ]

theorem exec (alike : Alike s t) {t' : Sys τ} {e : Event} {o : Outcome} (done : t.exec cfg e = .ok (t', o)) :
    ∃ s', s.exec cfg e = .ok (s', o) ∧ Alike s' t' := by
  obtain ⟨ubr, clock, devs⟩ := alike
  obtain ⟨u, d, j⟩ := s
  obtain ⟨u', d', j'⟩ := t
  cases ubr
  cases clock
  have alike : Alike ⟨u, d, j⟩ ⟨u, d', j⟩ := ⟨rfl, rfl, devs⟩
  have configured {result : Except Fault (Ubr τ × Ret)} (done : (Sys.mk u d' j).configured result = .ok (t', o)) :
      ∃ s', (Sys.mk u d j).configured result = .ok (s', o) ∧ Alike s' t' := by
    obtain ⟨ubr, ran, rfl, same⟩ := configured_ok done
    refine ⟨⟨ubr, d, j⟩, ?_, rfl, rfl, devs⟩
    rw [ran, same]
    rfl
  have forwarded {run : Forwarding (Ubr τ × Bool)} (done : (Sys.mk u d' j).forwarded run = .ok (t', o)) :
      ∃ s', (Sys.mk u d j).forwarded run = .ok (s', o) ∧ Alike s' t' := by
    obtain ⟨ubr, handed, ran, rfl, same⟩ := forwarded_ok done
    refine ⟨⟨ubr, d, j⟩, ?_, rfl, rfl, devs⟩
    simp only [Sys.forwarded, ran, same]
  cases e with
  | rx dev skb env =>
      have slot := alike.slotOf dev
      simp only [Sys.exec, slot] at done ⊢
      split at done
      · cases done
        exact ⟨_, rfl, alike⟩
      · exact forwarded done
  | xmit skb env => exact forwarded done
  | age walk =>
      cases done
      exact ⟨_, rfl, rfl, rfl, devs⟩
  | tick n =>
      cases done
      exact ⟨_, rfl, rfl, rfl, devs⟩
  | vlanFree vlan =>
      cases done
      exact ⟨_, rfl, rfl, rfl, devs⟩
  | portAdd dev env =>
      obtain ⟨⟨ubr, nd, ret⟩, added, done⟩ := except_bind_eq_ok done
      cases done
      obtain ⟨p, m, same⟩ := devs dev
      obtain ⟨p', m', added'⟩ := ubrPortAdd_recount added p m
      refine ⟨{ Sys.mk u d j with ubr }.setDev dev (nd.recount p' m'), ?_, alike.setDev ubr dev rfl⟩
      rw [← same] at added'
      exact congrArg (· >>= _) added'
  | portDel dev =>
      obtain ⟨⟨ubr, nd⟩, deleted, done⟩ := except_bind_eq_ok done
      cases done
      obtain ⟨p, m, same⟩ := devs dev
      obtain ⟨p', m', deleted'⟩ := ubrPortDel_recount deleted p m
      refine ⟨{ Sys.mk u d j with ubr }.setDev dev (nd.recount p' m'), ?_, alike.setDev ubr dev rfl⟩
      rw [← same] at deleted'
      exact congrArg (· >>= _) deleted'
  | portCleanup slot =>
      obtain ⟨ubr, cleaned, done⟩ := except_bind_eq_ok done
      cases done
      refine ⟨⟨ubr, d, j⟩, ?_, rfl, rfl, devs⟩
      exact congrArg (· >>= _) cleaned
  | vlanAdd | vlanDel | vlanAttach | vlanDetach | portSet => exact configured done
  | devChange dev nd =>
      cases done
      exact ⟨_, rfl, alike.setDev u dev (recount_same nd)⟩

end Alike
end UnassumingBridge
