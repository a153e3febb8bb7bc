import UnassumingBridge.Effects.Genl
import UnassumingBridge.Effects.Network
import UnassumingBridge.Invariants.Ports

/-! # Who is a slave of whom

Five things on a device and two in a bridge say that the device is a slave. They are
set and taken back one after the other, on several paths, and agree after each of them.
-/

namespace UnassumingBridge

open Support

variable {τ : Type} {cfg : Config}

/-- The device is the slave of bridge `b` at slot `k`, whatever one looks at. -/
structure Linked (net : Net τ) (dev b : Dev) (k : Pidx) : Prop where
  flag : (net.devs dev).ubrPort = true
  handler : (net.devs dev).rxHandler = some (.ubrPort b k)
  master : (net.devs dev).master = some b
  promisc : (net.devs dev).promiscuity = net.othersPromisc dev + 1
  allmulti : (net.devs dev).allmulti = net.othersAllmulti dev + 1
  notHost : k ≠ 0
  slot : ∃ ubr, net.ubrs b = some ubr ∧ k ∈ ubr.busy ∧ (ubr.ports k).dev = some dev

/-- The device is no slave, whatever one looks at. -/
structure Unlinked (net : Net τ) (dev : Dev) : Prop where
  outside : (net.devs dev).outside = true
  master : net.foreignMaster (net.devs dev) = true
  promisc : (net.devs dev).promiscuity = net.othersPromisc dev
  allmulti : (net.devs dev).allmulti = net.othersAllmulti dev

/-- The bookkeeping is consistent. -/
structure Bookkept (net : Net τ) : Prop where
  device : ∀ dev, Unlinked net dev ∨ ∃ b k, Linked net dev b k
  owner : ∀ b ubr k, net.ubrs b = some ubr → k ∈ ubr.busy → k ≠ 0 → ∃ dev, Linked net dev b k
  self : ∀ b ubr, net.ubrs b = some ubr → ubr.dev = b
  host : ∀ b ubr, net.ubrs b = some ubr → 0 ∈ ubr.busy
  pending : ∀ b ubr, net.ubrs b = some ubr → ∀ k ∈ ubr.portRcu, k ∉ ubr.busy
  bridges : ∀ b, (net.ubrs b).isSome → b < net.nextDev
  known : ∀ dev, (net.devs dev).ubrPort = true → dev < net.nextDev

section Linked

variable {net net' : Net τ} {dev d b : Dev} {j k : Pidx}

theorem Linked.unique (first : Linked net dev b k) (second : Linked net d b k) : dev = d := by
  obtain ⟨ubr, here, _, plugged⟩ := first.slot
  obtain ⟨ubr', here', _, plugged'⟩ := second.slot
  cases here.symm.trans here'
  cases plugged.symm.trans plugged'
  rfl

theorem Linked.slot_unique {b' : Dev} (first : Linked net dev b j) (second : Linked net dev b' k) : b = b' ∧ j = k := by
  have handler := first.handler.symm.trans second.handler
  cases handler
  exact ⟨rfl, rfl⟩

theorem Linked.plugged {ubr : Ubr τ} (linked : Linked net dev b k) (here : net.ubrs b = some ubr) :
    k ∈ ubr.busy ∧ (ubr.ports k).dev = some dev := by
  obtain ⟨u, found, inUse, plugged⟩ := linked.slot
  cases here.symm.trans found
  exact ⟨inUse, plugged⟩

theorem Linked.not_outside (linked : Linked net dev b k) : (net.devs dev).outside = false := by
  simp [NetDev.outside, linked.flag]

theorem Linked.not_unlinked (linked : Linked net dev b k) : ¬ Unlinked net dev := by
  intro unlinked
  have inside := linked.not_outside
  rw [unlinked.outside] at inside
  cases inside

/-- The rest of the kernel and the devices around have no part in it. -/
structure SameDev (net net' : Net τ) (dev : Dev) : Prop where
  nd : net'.devs dev = net.devs dev
  promisc : net'.othersPromisc dev = net.othersPromisc dev
  allmulti : net'.othersAllmulti dev = net.othersAllmulti dev

theorem Linked.transport (linked : Linked net dev b k) (same : SameDev net net' dev)
    (slot : ∀ ubr, net.ubrs b = some ubr → k ∈ ubr.busy → (ubr.ports k).dev = some dev →
      ∃ ubr', net'.ubrs b = some ubr' ∧ k ∈ ubr'.busy ∧ (ubr'.ports k).dev = some dev) : Linked net' dev b k := by
  obtain ⟨flag, handler, master, promisc, allmulti, notHost, ubr, here, inUse, plugged⟩ := linked
  refine ⟨?_, ?_, ?_, ?_, ?_, notHost, slot ubr here inUse plugged⟩
  · rw [same.nd, flag]
  · rw [same.nd, handler]
  · rw [same.nd, master]
  · rw [same.nd, same.promisc, promisc]
  · rw [same.nd, same.allmulti, allmulti]

theorem foreignMaster_iff {nd : NetDev} :
    net.foreignMaster nd = true ↔ ∀ m, nd.master = some m → m < net.nextDev ∧ net.ubrs m = none := by
  cases master : nd.master with
  | none => simp [Net.foreignMaster, master]
  | some m => simp [Net.foreignMaster, master]

theorem Unlinked.transport (unlinked : Unlinked net dev) (same : SameDev net net' dev)
    (masters : ∀ m, m < net.nextDev → net.ubrs m = none → m < net'.nextDev ∧ net'.ubrs m = none) :
    Unlinked net' dev := by
  refine ⟨?_, ?_, ?_, ?_⟩
  · rw [same.nd, unlinked.outside]
  · rw [same.nd, foreignMaster_iff]
    intro m master
    obtain ⟨old, free⟩ := foreignMaster_iff.mp unlinked.master m master
    exact masters m old free
  · rw [same.nd, same.promisc, unlinked.promisc]
  · rw [same.nd, same.allmulti, unlinked.allmulti]

end Linked

/-- A change of a bridge that leaves its busy ports where they are. -/
structure KeepsPorts (ubr ubr' : Ubr τ) : Prop where
  dev : ubr'.dev = ubr.dev
  busy : ubr'.busy = ubr.busy
  rcu : ∀ k ∈ ubr'.portRcu, k ∈ ubr.portRcu
  ports : ∀ k ∈ ubr.busy, (ubr'.ports k).dev = (ubr.ports k).dev

namespace Bookkept

variable {net net' : Net τ} {b dev : Dev} {k : Pidx} {ubr ubr' : Ubr τ}

/-- One bridge changes, and one device at most: it was no slave of another bridge. The
    slots of the other slaves of the bridge stay, and new ones belong to the device. -/
theorem change (net' : Net τ) (dev : Dev) (ubr' : Ubr τ) (ok : Bookkept net) (here : net.ubrs b = some ubr)
    (ubrs : net'.ubrs = Function.update net.ubrs b (some ubr'))
    (next : net'.nextDev = net.nextDev) (around : ∀ d, d ≠ dev → SameDev net net' d)
    (own : ∀ m j, Linked net dev m j → m = b)
    (stay : ∀ d j, d ≠ dev → Linked net d b j → j ∈ ubr'.busy ∧ (ubr'.ports j).dev = some d)
    (device : Unlinked net' dev ∨ ∃ j, Linked net' dev b j)
    (owner : ∀ j ∈ ubr'.busy, j ≠ 0 → (∃ d, d ≠ dev ∧ Linked net d b j) ∨ Linked net' dev b j)
    (self : ubr'.dev = ubr.dev) (host : 0 ∈ ubr'.busy) (pending : ∀ j ∈ ubr'.portRcu, j ∉ ubr'.busy)
    (known : (net'.devs dev).ubrPort = true → dev < net.nextDev) : Bookkept net' := by
  have at_b : net'.ubrs b = some ubr' := by rw [ubrs, Function.update_self]
  have elsewhere {m : Dev} (other : m ≠ b) : net'.ubrs m = net.ubrs m := by rw [ubrs, Function.update_of_ne other]
  have masters (m : Dev) (old : m < net.nextDev) (free : net.ubrs m = none) :
      m < net'.nextDev ∧ net'.ubrs m = none := by
    have other : m ≠ b := by
      intro same
      rw [same, here] at free
      cases free
    exact ⟨next ▸ old, (elsewhere other).trans free⟩
  have linked {d m : Dev} {j : Pidx} (other : d ≠ dev) (old : Linked net d m j) : Linked net' d m j := by
    refine old.transport (around d other) fun u found inUse plugged => ?_
    by_cases same : m = b
    · subst same
      obtain ⟨inUse', plugged'⟩ := stay d j other old
      exact ⟨ubr', at_b, inUse', plugged'⟩
    · exact ⟨u, (elsewhere same).trans found, inUse, plugged⟩
  have which {m : Dev} {u : Ubr τ} (found : net'.ubrs m = some u) : m = b ∧ u = ubr' ∨ m ≠ b ∧ net.ubrs m = some u := by
    by_cases same : m = b
    · subst same
      exact .inl ⟨rfl, Option.some.inj (found.symm.trans at_b)⟩
    · exact .inr ⟨same, (elsewhere same).symm.trans found⟩
  refine ⟨?_, ?_, ?_, ?_, ?_, ?_, ?_⟩
  · intro d
    by_cases same : d = dev
    · subst same
      rcases device with unlinked | ⟨j, new⟩
      · exact .inl unlinked
      · exact .inr ⟨b, j, new⟩
    · rcases ok.device d with unlinked | ⟨m, j, old⟩
      · exact .inl (unlinked.transport (around d same) masters)
      · exact .inr ⟨m, j, linked same old⟩
  · intro m u j found inUse notHost
    rcases which found with ⟨rfl, rfl⟩ | ⟨apart, old⟩
    · rcases owner j inUse notHost with ⟨d, other, old⟩ | new
      · exact ⟨d, linked other old⟩
      · exact ⟨dev, new⟩
    · obtain ⟨d, old⟩ := ok.owner m u j old inUse notHost
      have other : d ≠ dev := by
        intro this
        subst this
        exact apart (own m j old)
      exact ⟨d, linked other old⟩
  · intro m u found
    rcases which found with ⟨rfl, rfl⟩ | ⟨_, old⟩
    · exact self.trans (ok.self m ubr here)
    · exact ok.self m u old
  · intro m u found
    rcases which found with ⟨rfl, rfl⟩ | ⟨_, old⟩
    · exact host
    · exact ok.host m u old
  · intro m u found
    rcases which found with ⟨rfl, rfl⟩ | ⟨_, old⟩
    · exact pending
    · exact ok.pending m u old
  · intro m found
    by_cases same : m = b
    · exact next ▸ ok.bridges m (by rw [same, here]; rfl)
    · exact next ▸ ok.bridges m (by rwa [elsewhere same] at found)
  · intro d flag
    by_cases same : d = dev
    · subst same
      exact next ▸ known flag
    · exact next ▸ ok.known d (by rwa [(around d same).nd] at flag)

theorem fresh_unlinked (ok : Bookkept net) : Unlinked net net.nextDev := by
  rcases ok.device net.nextDev with unlinked | ⟨b, k, linked⟩
  · exact unlinked
  · exact absurd (ok.known _ linked.flag) (Nat.lt_irrefl _)

theorem setUbr (ok : Bookkept net) (here : net.ubrs b = some ubr) (keeps : KeepsPorts ubr ubr') :
    Bookkept (net.setUbr b ubr') := by
  have fresh := ok.fresh_unlinked
  have never {m : Dev} {j : Pidx} (linked : Linked net net.nextDev m j) : False := linked.not_unlinked fresh
  apply change (net.setUbr b ubr') net.nextDev ubr' ok here rfl rfl
  · exact fun d _ => ⟨rfl, rfl, rfl⟩
  · exact fun m j linked => (never linked).elim
  · intro d j _ linked
    obtain ⟨inUse, plugged⟩ := linked.plugged here
    exact ⟨keeps.busy ▸ inUse, (keeps.ports j inUse).trans plugged⟩
  · refine .inl (fresh.transport ⟨rfl, rfl, rfl⟩ fun m old free => ⟨old, ?_⟩)
    have other : m ≠ b := by
      intro same
      rw [same, here] at free
      cases free
    exact (Function.update_of_ne other _ _).trans free
  · intro j inUse notHost
    obtain ⟨d, linked⟩ := ok.owner b ubr j here (keeps.busy ▸ inUse) notHost
    refine .inl ⟨d, ?_, linked⟩
    intro same
    exact never (same ▸ linked)
  · exact keeps.dev
  · exact keeps.busy ▸ ok.host b ubr here
  · intro j queued inUse
    exact ok.pending b ubr here j (keeps.rcu j queued) (keeps.busy ▸ inUse)
  · intro flag
    exact ok.known _ flag

end Bookkept

/-- One bridge and one device change together. -/
def Net.relink (net : Net τ) (b dev : Dev) (ubr : Ubr τ) (nd : NetDev) : Net τ :=
  { net with
    devs := Function.update net.devs dev nd
    ubrs := Function.update net.ubrs b (some ubr) }

/-- A device that `ubr_port_del` has released. -/
def NetDev.released (nd : NetDev) : NetDev :=
  { nd with
    ubrPort := false
    rxHandler := none
    master := none
    promiscuity := nd.promiscuity - 1
    allmulti := nd.allmulti - 1 }

theorem ubrPortDel_released {s s' : Ubr τ} {nd nd' : NetDev} (done : ubrPortDel s nd = .ok (s', nd')) :
    nd' = nd.released := by
  unfold ubrPortDel at done
  split at done
  · obtain ⟨_, _, done⟩ := except_bind_eq_ok done
    cases done
    rfl
  · cases done

namespace Bookkept

variable {net : Net τ} {b dev : Dev} {k : Pidx} {ubr : Ubr τ}

theorem deleted (ok : Bookkept net) (here : net.ubrs b = some ubr) (linked : Linked net dev b k)
    {ubr' : Ubr τ} {nd : NetDev} (done : ubrPortDel ubr (net.devs dev) = .ok (ubr', nd)) :
    Bookkept (net.relink b dev ubr' nd) := by
  have nd_eq := ubrPortDel_released done
  obtain ⟨m, j, handler, owned, idle, rfl, _⟩ := ubrPortDel_ok done
  cases linked.handler.symm.trans handler
  subst nd_eq
  have devs : (net.relink b dev (ubr.vacate k) (net.devs dev).released).devs =
      Function.update net.devs dev (net.devs dev).released := rfl
  apply change (net.relink b dev (ubr.vacate k) (net.devs dev).released) dev (ubr.vacate k) ok here rfl rfl
  · intro d other
    exact ⟨by rw [devs, Function.update_of_ne other], rfl, rfl⟩
  · intro m j old
    exact (linked.slot_unique old).1.symm
  · intro d j other old
    obtain ⟨inUse, same⟩ := old.plugged here
    refine ⟨Bitmap.mem_clear.mpr ⟨?_, inUse⟩, same⟩
    intro this
    subst this
    exact other (old.unique linked)
  · refine .inl ⟨?_, ?_, ?_, ?_⟩
    · rw [devs, Function.update_self]
      rfl
    · rw [devs, Function.update_self]
      rfl
    · rw [devs, Function.update_self]
      change (net.devs dev).promiscuity - 1 = net.othersPromisc dev
      have counted := linked.promisc
      omega
    · rw [devs, Function.update_self]
      change (net.devs dev).allmulti - 1 = net.othersAllmulti dev
      have counted := linked.allmulti
      omega
  · intro j inUse notHost
    obtain ⟨other, inUse⟩ := Bitmap.mem_clear.mp inUse
    obtain ⟨d, old⟩ := ok.owner b ubr j here inUse notHost
    refine .inl ⟨d, ?_, old⟩
    intro same
    subst same
    exact other (linked.slot_unique old).2.symm
  · rfl
  · exact Bitmap.mem_clear.mpr ⟨linked.notHost.symm, ok.host b ubr here⟩
  · intro j queued inUse
    obtain ⟨other, inUse⟩ := Bitmap.mem_clear.mp inUse
    rcases List.mem_append.mp queued with before | now
    · exact ok.pending b ubr here j before inUse
    · exact other (List.mem_singleton.mp now)
  · intro flag
    exact ok.known dev linked.flag

theorem added (ok : Bookkept net) (here : net.ubrs b = some ubr) (known : dev < net.nextDev)
    {ubr' : Ubr τ} {nd : NetDev} {env : PortAddEnv} {ret : Ret}
    (idle : ∀ k ∈ (net.sys ubr).initSlot dev, k ∉ ubr.portRcu)
    (done : ubrPortAdd cfg ubr dev env (net.devs dev) = .ok (ubr', nd, ret)) :
    Bookkept (net.relink b dev ubr' nd) := by
  have same : net.relink b dev ubr' (net.devs dev) = net.setUbr b ubr' := by
    simp [Net.relink, Net.setUbr]
  rcases ubrPortAdd_cases done with ⟨rfl, rfl, _⟩ | ⟨k, r, v, allowed, zero, _, _, rfl, enslaved, _⟩ |
    ⟨k, r, v, _, _, zero, _, _, _, rfl, _, rfl, _⟩
  · rw [same]
    exact ok.setUbr here ⟨rfl, rfl, fun _ queued => queued, fun _ _ => rfl⟩
  · have free := Bitmap.notMem_of_findFirstZero zero
    have notHost : k ≠ 0 := fun host => free (host ▸ ok.host b ubr here)
    obtain ⟨_, rfl⟩ := ubrPortEnslave_ok enslaved
    have loose : Unlinked net dev := by
      rcases ok.device dev with unlinked | ⟨m, j, linked⟩
      · exact unlinked
      · have master := ubrPortAddAllowed_master allowed
        rw [linked.master] at master
        cases master
    generalize slave : ({ net.devs dev with
      master := some ubr.dev
      promiscuity := (net.devs dev).promiscuity + 1
      allmulti := (net.devs dev).allmulti + 1
      rxHandler := some (.ubrPort ubr.dev k)
      ubrPort := true } : NetDev) = nd
    have devs : (net.relink b dev (ubr.plug k dev r v) nd).devs = Function.update net.devs dev nd := rfl
    have link : Linked (net.relink b dev (ubr.plug k dev r v) nd) dev b k := by
      refine ⟨?_, ?_, ?_, ?_, ?_, notHost, ubr.plug k dev r v, Function.update_self _ _ _,
        Bitmap.mem_set.mpr (.inl rfl), by rw [plug_self]; rfl⟩
      · rw [devs, Function.update_self, ← slave]
      · rw [devs, Function.update_self, ← slave, ok.self b ubr here]
      · rw [devs, Function.update_self, ← slave, ok.self b ubr here]
      · rw [devs, Function.update_self, ← slave]
        exact congrArg (· + 1) loose.promisc
      · rw [devs, Function.update_self, ← slave]
        exact congrArg (· + 1) loose.allmulti
    apply change (net.relink b dev (ubr.plug k dev r v) nd) dev (ubr.plug k dev r v) ok here rfl rfl
    · intro d other
      exact ⟨by rw [devs, Function.update_of_ne other], rfl, rfl⟩
    · intro m j old
      exact absurd loose old.not_unlinked
    · intro d j _ old
      obtain ⟨inUse, same⟩ := old.plugged here
      have other : j ≠ k := fun this => free (this ▸ inUse)
      exact ⟨Bitmap.mem_set.mpr (.inr inUse), by rw [plug_other _ _ other, same]⟩
    · exact .inr ⟨k, link⟩
    · intro j inUse notHost'
      rcases Bitmap.mem_set.mp inUse with rfl | old
      · exact .inr link
      · obtain ⟨d, linked⟩ := ok.owner b ubr j here old notHost'
        refine .inl ⟨d, ?_, linked⟩
        intro this
        exact linked.not_unlinked (this ▸ loose)
    · rfl
    · exact Bitmap.mem_set.mpr (.inr (ok.host b ubr here))
    · intro j queued inUse
      rcases Bitmap.mem_set.mp inUse with rfl | old
      · exact idle j (initSlot_some.mpr ⟨allowed, zero⟩) queued
      · exact ok.pending b ubr here j queued old
    · exact fun _ => known
  · rw [same]
    have free := Bitmap.notMem_of_findFirstZero zero
    refine ok.setUbr here ⟨rfl, ?_, fun _ queued => queued, ?_⟩
    · apply Bitmap.ext_mem
      intro j
      simp only [Ubr.unplug, Ubr.putPort, Ubr.plug, Bitmap.mem_clear, Bitmap.mem_set]
      grind
    · intro j inUse
      have other : j ≠ k := fun this => free (this ▸ inUse)
      simp [Ubr.unplug, Ubr.putPort, Ubr.plug, Ubr.putVlan, other]

end Bookkept

namespace Bookkept

variable {net net' : Net τ} {b dev : Dev}

theorem besides (ok : Bookkept net) (next : net.nextDev ≤ net'.nextDev) (around : ∀ d, d ≠ dev → SameDev net net' d)
    (ubrs : ∀ m, m < net.nextDev → net'.ubrs m = net.ubrs m)
    (born : ∀ m ubr, net'.ubrs m = some ubr → m < net.nextDev ∨
      (m < net'.nextDev ∧ ubr.dev = m ∧ (∀ k, k ∈ ubr.busy ↔ k = 0) ∧ ubr.portRcu = []))
    (old : Unlinked net dev) (new : Unlinked net' dev) : Bookkept net' := by
  have linked {d m : Dev} {j : Pidx} (link : Linked net d m j) : Linked net' d m j := by
    have other : d ≠ dev := by
      intro same
      exact link.not_unlinked (same ▸ old)
    refine link.transport (around d other) fun u found inUse plugged => ⟨u, ?_, inUse, plugged⟩
    rw [ubrs m (ok.bridges m (by rw [found]; rfl)), found]
  have known {m : Dev} (below : m < net.nextDev) {ubr : Ubr τ} (found : net'.ubrs m = some ubr) :
      net.ubrs m = some ubr := (ubrs m below).symm.trans found
  refine ⟨?_, ?_, ?_, ?_, ?_, ?_, ?_⟩
  · intro d
    by_cases same : d = dev
    · exact .inl (same ▸ new)
    · rcases ok.device d with unlinked | ⟨m, j, link⟩
      · refine .inl (unlinked.transport (around d same) fun m below free => ?_)
        exact ⟨Nat.lt_of_lt_of_le below next, (ubrs m below).trans free⟩
      · exact .inr ⟨m, j, linked link⟩
  · intro m u j found inUse notHost
    rcases born m u found with below | ⟨_, _, only, _⟩
    · obtain ⟨d, link⟩ := ok.owner m u j (known below found) inUse notHost
      exact ⟨d, linked link⟩
    · exact absurd ((only j).mp inUse) notHost
  · intro m u found
    rcases born m u found with below | ⟨_, self, _⟩
    · exact ok.self m u (known below found)
    · exact self
  · intro m u found
    rcases born m u found with below | ⟨_, _, only, _⟩
    · exact ok.host m u (known below found)
    · exact (only 0).mpr rfl
  · intro m u found
    rcases born m u found with below | ⟨_, _, _, idle⟩
    · exact ok.pending m u (known below found)
    · rw [idle]
      exact nofun
  · intro m found
    obtain ⟨u, found⟩ := Option.isSome_iff_exists.mp found
    rcases born m u found with below | ⟨below, _⟩
    · exact Nat.lt_of_lt_of_le below next
    · exact below
  · intro d flag
    by_cases same : d = dev
    · have outside := new.outside
      rw [← same] at outside
      simp [NetDev.outside, flag] at outside
    · exact Nat.lt_of_lt_of_le (ok.known d (by rwa [(around d same).nd] at flag)) next

theorem congr (ok : Bookkept net) (devs : net'.devs = net.devs) (ubrs : net'.ubrs = net.ubrs)
    (next : net.nextDev ≤ net'.nextDev) (promisc : net'.othersPromisc = net.othersPromisc)
    (allmulti : net'.othersAllmulti = net.othersAllmulti) : Bookkept net' := by
  have same (d : Dev) : SameDev net net' d := ⟨by rw [devs], by rw [promisc], by rw [allmulti]⟩
  have fresh := ok.fresh_unlinked
  refine ok.besides next (fun d _ => same d) (fun m _ => by rw [ubrs]) ?_ fresh ?_
  · intro m u found
    rw [ubrs] at found
    exact .inl (ok.bridges m (by rw [found]; rfl))
  · exact fresh.transport (same _) fun m below free => ⟨Nat.lt_of_lt_of_le below next, by rw [ubrs, free]⟩

theorem enlisted (ok : Bookkept net) {ifindex : BitVec 32} {nd : NetDev} (outside : nd.outside = true)
    (master : net.foreignMaster nd = true) : Bookkept (net.enlist ifindex nd) := by
  have fresh := ok.fresh_unlinked
  refine ok.besides (Nat.le_succ _) ?_ (fun m _ => rfl) ?_ fresh ?_
  · intro d other
    exact ⟨Function.update_of_ne other _ _, Function.update_of_ne other _ _, Function.update_of_ne other _ _⟩
  · intro m u found
    exact .inl (ok.bridges m (Option.isSome_iff_exists.mpr ⟨u, found⟩))
  · have here : (net.enlist ifindex nd).devs net.nextDev = nd := Function.update_self _ _ _
    refine ⟨?_, ?_, ?_, ?_⟩
    · rw [here, outside]
    · rw [here, foreignMaster_iff]
      intro m chosen
      obtain ⟨below, free⟩ := foreignMaster_iff.mp master m chosen
      exact ⟨Nat.lt_succ_of_lt below, free⟩
    · simp [Net.enlist, Net.setDev]
    · simp [Net.enlist, Net.setDev]

theorem created (ok : Bookkept net) {ifindex : BitVec 32} {devAddr : Mac} :
    Bookkept ((net.enlist ifindex { devAddr }).setUbr net.nextDev (freshUbr cfg net.nextDev devAddr)) := by
  have fresh := ok.fresh_unlinked
  have ubrs (m : Dev) :
      ((net.enlist ifindex { devAddr }).setUbr net.nextDev (freshUbr cfg net.nextDev devAddr)).ubrs m =
        if m = net.nextDev then some (freshUbr cfg net.nextDev devAddr) else net.ubrs m := by
    simp [Net.setUbr, Net.enlist, Net.setDev, Function.update_apply]
  refine ok.besides (Nat.le_succ _) ?_ ?_ ?_ fresh ?_
  · intro d other
    exact ⟨Function.update_of_ne other _ _, Function.update_of_ne other _ _, Function.update_of_ne other _ _⟩
  · intro m below
    rw [ubrs, if_neg (Nat.ne_of_lt below)]
  · intro m u found
    rw [ubrs] at found
    split at found
    · rename_i same
      subst same
      cases found
      exact .inr ⟨Nat.lt_succ_self _, rfl, fun k => fresh_busy _ _ k, rfl⟩
    · exact .inl (ok.bridges m (Option.isSome_iff_exists.mpr ⟨u, found⟩))
  · have here : ((net.enlist ifindex { devAddr }).setUbr net.nextDev
        (freshUbr cfg net.nextDev devAddr)).devs net.nextDev = { devAddr } := Function.update_self _ _ _
    refine ⟨?_, ?_, ?_, ?_⟩
    · rw [here]
      rfl
    · rw [here]
      rfl
    · simp [Net.enlist, Net.setDev, Net.setUbr]
    · simp [Net.enlist, Net.setDev, Net.setUbr]

theorem reconfigured (ok : Bookkept net) {nd : NetDev} (before : (net.devs dev).outside = true)
    (outside : nd.outside = true) (master : net.foreignMaster nd = true) : Bookkept (net.setDev dev nd) := by
  have old : Unlinked net dev := by
    rcases ok.device dev with unlinked | ⟨m, j, linked⟩
    · exact unlinked
    · rw [linked.not_outside] at before
      cases before
  have here : (net.setDev dev nd).devs dev = nd := Function.update_self _ _ _
  refine ok.besides (Nat.le_refl _) ?_ (fun m _ => rfl) ?_ old ⟨?_, ?_, ?_, ?_⟩
  · intro d other
    exact ⟨Function.update_of_ne other _ _, Function.update_of_ne other _ _, Function.update_of_ne other _ _⟩
  · intro m u found
    exact .inl (ok.bridges m (Option.isSome_iff_exists.mpr ⟨u, found⟩))
  · rw [here, outside]
  · rw [here]
    exact master
  · simp [Net.setDev]
  · simp [Net.setDev]

theorem counted (ok : Bookkept net) (promisc allmulti : Int) : Bookkept (net.counted dev promisc allmulti) := by
  have devs (d : Dev) : (net.counted dev promisc allmulti).devs d =
      if d = dev then { net.devs dev with
        promiscuity := (net.devs dev).promiscuity + promisc
        allmulti := (net.devs dev).allmulti + allmulti } else net.devs d := by
    simp [Net.counted, Function.update_apply]
  have others (d : Dev) (other : d ≠ dev) : SameDev net (net.counted dev promisc allmulti) d :=
    ⟨by rw [devs, if_neg other], Function.update_of_ne other _ _, Function.update_of_ne other _ _⟩
  have linked {d m : Dev} {j : Pidx} (link : Linked net d m j) : Linked (net.counted dev promisc allmulti) d m j := by
    by_cases same : d = dev
    · subst same
      obtain ⟨flag, handler, master, promisc', allmulti', notHost, slot⟩ := link
      refine ⟨?_, ?_, ?_, ?_, ?_, notHost, slot⟩
      · rw [devs, if_pos rfl, flag]
      · rw [devs, if_pos rfl, handler]
      · rw [devs, if_pos rfl, master]
      · simp only [Net.counted, Function.update_self]
        omega
      · simp only [Net.counted, Function.update_self]
        omega
    · exact link.transport (others d same) fun u found inUse plugged => ⟨u, found, inUse, plugged⟩
  have unlinked {d : Dev} (loose : Unlinked net d) : Unlinked (net.counted dev promisc allmulti) d := by
    by_cases same : d = dev
    · subst same
      obtain ⟨outside, master, promisc', allmulti'⟩ := loose
      refine ⟨?_, ?_, ?_, ?_⟩
      · rw [devs, if_pos rfl]
        exact outside
      · rw [devs, if_pos rfl]
        exact master
      · simp only [Net.counted, Function.update_self]
        omega
      · simp only [Net.counted, Function.update_self]
        omega
    · exact loose.transport (others d same) fun m below free => ⟨below, free⟩
  refine ⟨?_, ?_, ok.self, ok.host, ok.pending, ok.bridges, ?_⟩
  · intro d
    rcases ok.device d with loose | ⟨m, j, link⟩
    · exact .inl (unlinked loose)
    · exact .inr ⟨m, j, linked link⟩
  · intro m u j found inUse notHost
    obtain ⟨d, link⟩ := ok.owner m u j found inUse notHost
    exact ⟨d, linked link⟩
  · intro d flag
    apply ok.known d
    rw [devs] at flag
    split at flag
    · rename_i same
      rw [same]
      exact flag
    · exact flag

end Bookkept

/-- The events of a bridge that do not touch devices. -/
def Event.still : Event → Bool
  | .portAdd .. | .portDel .. | .devChange .. | .tick .. => false
  | _ => true

/-- No device is a slave of the bridge. -/
def Net.Slaveless (net : Net τ) (b : Dev) : Prop :=
  ∀ dev, (net.devs dev).master ≠ some b ∧ ∀ k, (net.devs dev).rxHandler ≠ some (.ubrPort b k)

namespace Bookkept

section Bridge

variable {net net' : Net τ} {b dev : Dev} {k : Pidx} {ubr : Ubr τ}

theorem withSys_still {s : Sys τ} (devs : s.devs = net.devs) : net.withSys b s = net.setUbr b s.ubr := by
  simp only [Net.withSys, Net.setUbr, devs]

/-- An event that does not touch devices keeps the busy ports where they are. -/
theorem keepsPorts (ok : Bookkept net) (here : net.ubrs b = some ubr) {e : Event} {ubr' : Ubr τ}
    (still : e.still = true)
    (effect : Effect cfg (net.sys ubr) e ubr') : KeepsPorts ubr ubr' := by
  have dev := effect.dev
  cases effect.ports with
  | kept busy rcu wiring _ =>
      exact ⟨dev, busy, fun k queued => rcu ▸ queued, fun k _ => (wiring k).dev⟩
  | added => cases still
  | addFailed => cases still
  | deleted => cases still
  | @cleaned k _ queued busy rcu ports =>
      refine ⟨dev, busy, fun j left => ?_, fun j inUse => ?_⟩
      · rw [rcu] at left
        exact List.mem_of_mem_erase left
      · have other : j ≠ k := by
          intro same
          exact ok.pending b ubr here k queued (same ▸ inUse)
        rw [ports, Function.update_of_ne other]
        rfl

variable [Jiffies τ] {o : Outcome}

theorem onBridge_still (ok : Bookkept net) {e : Event} (still : e.still = true)
    (enabled : ∀ ubr, net.ubrs b = some ubr → (net.sys ubr).Enabled e)
    (done : net.onBridge cfg b e = .ok (net', o)) : Bookkept net' := by
  unfold Net.onBridge at done
  split at done
  · cases done
  · rename_i ubr here
    obtain ⟨⟨s, _⟩, ran, done⟩ := except_bind_eq_ok done
    cases done
    have keeps := ok.keepsPorts here still (exec_effect (enabled ubr here) ran)
    cases exec_around ran with
    | still devs _ _ =>
        rw [withSys_still devs]
        exact ok.setUbr here keeps
    | ticked => cases still
    | device onDevice _ =>
        cases e with
        | portAdd | portDel | devChange => cases still
        | _ => exact onDevice.elim

theorem onBridge_portAdd (ok : Bookkept net) {env : PortAddEnv} (known : dev < net.nextDev)
    (idle : ∀ ubr ∈ net.ubrs b, ∀ k ∈ (net.sys ubr).initSlot dev, k ∉ ubr.portRcu)
    (done : net.onBridge cfg b (.portAdd dev env) = .ok (net', o)) : Bookkept net' := by
  unfold Net.onBridge at done
  split at done
  · cases done
  · rename_i ubr here
    obtain ⟨_, ran, done⟩ := except_bind_eq_ok done
    obtain ⟨⟨ubr', nd, ret⟩, added, ran⟩ := except_bind_eq_ok ran
    cases ran
    cases done
    exact ok.added here known (idle ubr here) added

theorem onBridge_portDel (ok : Bookkept net) (linked : Linked net dev b k)
    (done : net.onBridge cfg b (.portDel dev) = .ok (net', o)) :
    Bookkept net' ∧ ∃ ubr, net' = net.relink b dev ubr (net.devs dev).released := by
  unfold Net.onBridge at done
  split at done
  · cases done
  · rename_i ubr here
    obtain ⟨_, ran, done⟩ := except_bind_eq_ok done
    obtain ⟨⟨ubr', nd⟩, deleted, ran⟩ := except_bind_eq_ok ran
    cases ran
    cases done
    have released : nd = (net.devs dev).released := ubrPortDel_released deleted
    refine ⟨ok.deleted here linked deleted, ubr', ?_⟩
    rw [← released]
    rfl

theorem deviceEvent (ok : Bookkept net) (done : ubrDeviceEvent cfg net dev = .ok (net', o)) :
    Bookkept net' ∧ ∀ m, net.Slaveless m → net'.Slaveless m := by
  unfold ubrDeviceEvent at done
  split at done
  · cases done
    exact ⟨ok, fun _ slaveless => slaveless⟩
  · rename_i flag
    rcases ok.device dev with loose | ⟨b, k, linked⟩
    · have outside := loose.outside
      simp only [NetDev.outside, Bool.and_eq_true] at outside
      exact absurd outside.1 flag
    · rw [linked.handler] at done
      obtain ⟨kept, ubr, rfl⟩ := ok.onBridge_portDel linked done
      refine ⟨kept, fun m slaveless d => ?_⟩
      by_cases same : d = dev
      · subst same
        have released : (net.relink b d ubr (net.devs d).released).devs d = (net.devs d).released :=
          Function.update_self _ _ _
        rw [released]
        exact ⟨nofun, fun _ => nofun⟩
      · have still : (net.relink b dev ubr (net.devs dev).released).devs d = net.devs d :=
          Function.update_of_ne same _ _
        rw [still]
        exact slaveless d

theorem unregistered (ok : Bookkept net) (done : net.unregister cfg dev = .ok (net', o)) :
    Bookkept net' ∧ ∀ m, net.Slaveless m → net'.Slaveless m := by
  obtain ⟨⟨mid, _⟩, noticed, done⟩ := except_bind_eq_ok done
  cases done
  obtain ⟨kept, slaveless⟩ := ok.deviceEvent noticed
  exact ⟨kept.congr rfl rfl (Nat.le_refl _) rfl rfl, slaveless⟩

omit [Jiffies τ] in
/-- The loop of `ubr_dev_dellink` leaves no busy port behind among those it has visited. -/
theorem dellinkPorts_ok {ports : List Pidx} {s s' : Sys τ} (ok : Bookkept (net.withSys b s))
    (done : dellinkPorts s ports = .ok s') :
    Bookkept (net.withSys b s') ∧ (∀ k, k ∈ s'.ubr.busy → k ∈ s.ubr.busy) ∧
      ∀ k ∈ ports, k ∈ s'.ubr.busy → k = 0 := by
  induction ports generalizing s with
  | nil =>
      cases done
      exact ⟨ok, fun _ inUse => inUse, nofun⟩
  | cons pidx rest ih =>
      simp only [dellinkPorts] at done
      split at done
      · rename_i skipped
        obtain ⟨kept, fewer, gone⟩ := ih ok done
        refine ⟨kept, fewer, fun k visited inUse => ?_⟩
        rcases List.mem_cons.mp visited with rfl | later
        · rcases skipped with idle | host
          · exact absurd (fewer k inUse) idle
          · exact host
        · exact gone k later inUse
      · rename_i chosen
        obtain ⟨busy, notHost⟩ := not_or.mp chosen
        have here : (net.withSys b s).ubrs b = some s.ubr := Function.update_self _ _ _
        obtain ⟨dev, linked⟩ := ok.owner b s.ubr pidx here (not_not.mp busy) notHost
        obtain ⟨_, found, _, plugged⟩ := linked.slot
        cases here.symm.trans found
        simp only [plugged] at done
        obtain ⟨⟨ubr', nd⟩, deleted, done⟩ := except_bind_eq_ok done
        have again : (net.withSys b s).relink b dev ubr' nd =
            net.withSys b ({ s with ubr := ubr' }.setDev dev nd) := by
          simp [Net.relink, Net.withSys, Sys.setDev]
        have next := ok.deleted here linked deleted
        rw [again] at next
        obtain ⟨kept, fewer, gone⟩ := ih next done
        obtain ⟨_, j, handler, _, _, rfl, _⟩ := ubrPortDel_ok deleted
        cases linked.handler.symm.trans handler
        refine ⟨kept, fun k inUse => (Bitmap.mem_clear.mp (fewer k inUse)).2, fun k visited inUse => ?_⟩
        rcases List.mem_cons.mp visited with rfl | later
        · exact absurd rfl (Bitmap.mem_clear.mp (fewer k inUse)).1
        · exact gone k later inUse

omit [Jiffies τ] in
theorem dropped (ok : Bookkept net) (here : net.ubrs b = some ubr) (empty : ∀ k ∈ ubr.busy, k = 0) :
    Bookkept { net with ubrs := Function.update net.ubrs b none } ∧ net.Slaveless b := by
  have elsewhere {d m : Dev} {j : Pidx} (linked : Linked net d m j) : m ≠ b := by
    intro same
    obtain ⟨u, found, inUse, _⟩ := linked.slot
    rw [same, here] at found
    cases found
    exact linked.notHost (empty j inUse)
  have left {m : Dev} {u : Ubr τ} (found : Function.update net.ubrs b none m = some u) : net.ubrs m = some u := by
    by_cases same : m = b
    · rw [same, Function.update_self] at found
      cases found
    · rwa [Function.update_of_ne same] at found
  have linked {d m : Dev} {j : Pidx} (old : Linked net d m j) :
      Linked { net with ubrs := Function.update net.ubrs b none } d m j := by
    refine old.transport ⟨rfl, rfl, rfl⟩ fun u found inUse plugged => ⟨u, ?_, inUse, plugged⟩
    exact (Function.update_of_ne (elsewhere old) _ _).trans found
  refine ⟨⟨?_, ?_, ?_, ?_, ?_, ?_, ok.known⟩, ?_⟩
  · intro d
    rcases ok.device d with loose | ⟨m, j, old⟩
    · refine .inl (loose.transport ⟨rfl, rfl, rfl⟩ fun m below free => ⟨below, ?_⟩)
      change Function.update net.ubrs b none m = none
      by_cases same : m = b
      · rw [same, Function.update_self]
      · rw [Function.update_of_ne same, free]
    · exact .inr ⟨m, j, linked old⟩
  · intro m u j found inUse notHost
    obtain ⟨d, old⟩ := ok.owner m u j (left found) inUse notHost
    exact ⟨d, linked old⟩
  · exact fun m u found => ok.self m u (left found)
  · exact fun m u found => ok.host m u (left found)
  · exact fun m u found => ok.pending m u (left found)
  · intro m found
    obtain ⟨u, found⟩ := Option.isSome_iff_exists.mp found
    exact ok.bridges m (Option.isSome_iff_exists.mpr ⟨u, left found⟩)
  · intro d
    rcases ok.device d with loose | ⟨m, j, old⟩
    · constructor
      · intro master
        have free := (foreignMaster_iff.mp loose.master b master).2
        rw [here] at free
        cases free
      · intro k handler
        have outside := loose.outside
        simp [NetDev.outside, handler] at outside
    · constructor
      · intro master
        cases old.master.symm.trans master
        exact elsewhere old rfl
      · intro k handler
        cases old.handler.symm.trans handler
        exact elsewhere old rfl

omit [Jiffies τ] in
theorem dellinked (ok : Bookkept net) (done : ubrDevDellink net b = .ok net') : Bookkept net' ∧ net'.Slaveless b := by
  unfold ubrDevDellink at done
  split at done
  · cases done
  · rename_i ubr here
    obtain ⟨s, emptied, done⟩ := except_bind_eq_ok done
    cases done
    have whole : net.withSys b (net.sys ubr) = net := by
      rw [withSys_still rfl]
      exact setUbr_same here
    obtain ⟨kept, _, gone⟩ := dellinkPorts_ok (b := b) (whole.symm ▸ ok) emptied
    have dropped := kept.dropped (Function.update_self _ _ _) fun k inUse => gone k (List.mem_finRange k) inUse
    have same : { net.withSys b s with ubrs := Function.update (net.withSys b s).ubrs b none } =
        ({ net with devs := s.devs, ubrs := Function.update net.ubrs b none } : Net τ) := by
      simp [Net.withSys]
    rw [same] at dropped
    exact dropped

end Bridge

end Bookkept

/-- A port's cleanup has run before its index is taken again. -/
def Net.CleansFirst (net : Net τ) : NetEvent → Prop
  | .addSlave bridge dev env => ∀ ubr ∈ net.ubrs bridge, (net.sys ubr).AddsOntoIdle (.portAdd dev env)
  | _ => True

instance (net : Net τ) : (e : NetEvent) → Decidable (net.CleansFirst e)
  | .addSlave bridge dev env =>
      inferInstanceAs (Decidable (∀ ubr ∈ net.ubrs bridge, (net.sys ubr).AddsOntoIdle (.portAdd dev env)))
  | .newlink .. | .appear .. | .delSlave .. | .unregister .. | .dellink .. | .request .. | .rx .. | .xmit ..
  | .age .. | .portCleanup .. | .vlanFree .. | .tick .. | .devChange .. | .counted .. => .isTrue trivial

namespace Bookkept

variable [Jiffies τ] {net net' : Net τ} {o : Outcome}

omit [Jiffies τ] in
theorem init (start : net.Init) : Bookkept net := by
  have nobody (b : Dev) : net.ubrs b = none := congrFun start.ubrs b
  refine ⟨?_, ?_, ?_, ?_, ?_, ?_, ?_⟩
  · intro dev
    exact .inl ⟨start.outside dev, start.masters dev, (start.promisc dev).symm, (start.allmulti dev).symm⟩
  · intro b ubr k found
    rw [nobody] at found
    cases found
  · intro b ubr found
    rw [nobody] at found
    cases found
  · intro b ubr found
    rw [nobody] at found
    cases found
  · intro b ubr found
    rw [nobody] at found
    cases found
  · intro b found
    rw [nobody] at found
    cases found
  · intro dev flag
    have outside := start.outside dev
    simp [NetDev.outside, flag] at outside

theorem handled (ok : Bookkept net) {admin : Bool} {req : Request} {ret : Ret}
    (done : genlRcvMsg cfg net admin req = .ok (net', ret)) : Bookkept net' := by
  have held (leak : Option Dev) : Bookkept (net.held leak) := by
    cases leak with
    | none => exact ok
    | some dev => exact ok.congr rfl rfl (Nat.le_refl _) rfl rfl
  rcases genlRcvMsg_ok done with ⟨rfl, _⟩ | ⟨dev, ubr, e, s', named, order, ran, rfl⟩
  · exact held _
  · have command := order_command order
    have enabled : (net.sys ubr).Enabled e := by
      cases e with
      | vlanAdd | vlanDel | vlanAttach | vlanDetach | portSet => trivial
      | _ => cases command
    have still : e.still = true := by
      cases e with
      | vlanAdd | vlanDel | vlanAttach | vlanDetach | portSet => rfl
      | _ => cases command
    have keeps := ok.keepsPorts (bridgeOf_eq named) still (exec_effect enabled ran)
    exact (held _).setUbr ((congrFun (held_ubrs net _) dev).trans (bridgeOf_eq named)) keeps

theorem dellink (ok : Bookkept net) {b : Dev} (done : net.exec cfg (.dellink b) = .ok (net', o)) :
    Bookkept net' ∧ net'.Slaveless b := by
  obtain ⟨mid, linked, done⟩ := except_bind_eq_ok done
  obtain ⟨kept, slaveless⟩ := ok.dellinked linked
  obtain ⟨kept, still⟩ := kept.unregistered done
  exact ⟨kept, still b slaveless⟩

theorem step (ok : Bookkept net) {e : NetEvent} (enabled : net.Enabled e) (guard : net.CleansFirst e)
    (done : net.exec cfg e = .ok (net', o)) : Bookkept net' := by
  cases e with
  | newlink ifindex devAddr env =>
      obtain ⟨made, linked, done⟩ := except_bind_eq_ok done
      cases made with
      | error e =>
          cases done
          exact ok.congr rfl rfl (Nat.le_succ _) rfl rfl
      | ok ubr =>
          cases done
          cases ubrDevNewlink_made linked
          exact ok.created
  | appear ifindex nd =>
      cases done
      exact ok.enlisted enabled.2.1 enabled.2.2
  | addSlave bridge dev env => exact ok.onBridge_portAdd enabled.2 guard done
  | delSlave bridge dev =>
      obtain ⟨alive, master⟩ := enabled
      rcases ok.device dev with loose | ⟨b, k, linked⟩
      · have free := (foreignMaster_iff.mp loose.master bridge master).2
        rw [free] at alive
        cases alive
      · cases linked.master.symm.trans master
        exact (ok.onBridge_portDel linked done).1
  | unregister dev => exact (ok.unregistered done).1
  | dellink bridge => exact (ok.dellink done).1
  | request admin req =>
      obtain ⟨_, handled, done⟩ := except_bind_eq_ok done
      cases done
      exact ok.handled handled
  | rx dev skb env =>
      rcases ok.device dev with loose | ⟨b, k, linked⟩
      · cases loose.outside.symm.trans enabled
      · simp only [Net.exec, linked.handler] at done
        refine ok.onBridge_still rfl (fun ubr here => ?_) done
        have slave : (net.sys ubr).slotOf dev = some k :=
          slotOf_some.mpr ((ok.self b ubr here).symm ▸ linked.handler)
        exact Option.isSome_iff_exists.mpr ⟨k, slave⟩
  | xmit bridge skb env => exact ok.onBridge_still (e := .xmit skb env) rfl (fun _ _ => trivial) done
  | age bridge walk => exact ok.onBridge_still (e := .age walk) rfl (fun _ _ => trivial) done
  | portCleanup bridge slot =>
      refine ok.onBridge_still rfl (fun ubr here => ?_) done
      obtain ⟨u, found, queued⟩ := enabled
      cases here.symm.trans found
      exact queued
  | vlanFree bridge vlan =>
      refine ok.onBridge_still rfl (fun ubr here => ?_) done
      obtain ⟨u, found, queued⟩ := enabled
      cases here.symm.trans found
      exact queued
  | tick n =>
      cases done
      exact ok.congr rfl rfl (Nat.le_refl _) rfl rfl
  | devChange dev nd =>
      cases done
      obtain ⟨_, before, _, outside, master⟩ := enabled
      exact ok.reconfigured before outside master
  | counted dev promisc allmulti =>
      cases done
      exact ok.counted promisc allmulti

end Bookkept

variable [Jiffies τ] {tr : List (Transition (Net τ) NetEvent Outcome)} {net : Net τ}

theorem bookkept_of_run (run : Run (bridges τ cfg) Net.CleansFirst tr net) :
    Bookkept net ∧ ∀ t ∈ tr, ∀ b, t.event = .dellink b → t.post.Slaveless b := by
  apply run.invariant (I := fun tr net => Bookkept net ∧ ∀ t ∈ tr, ∀ b, t.event = .dellink b → t.post.Slaveless b)
  · exact fun _ start => ⟨.init start, fun _ taken => absurd taken List.not_mem_nil⟩
  · intro tr s e s' o _ ok enabled guard done
    obtain ⟨ok, before⟩ := ok
    refine ⟨ok.step enabled guard done, fun t taken b deleted => ?_⟩
    rcases List.mem_cons.mp taken with rfl | earlier
    · cases deleted
      exact (ok.dellink done).2
    · exact before t earlier b deleted

/-- Every device is all or nothing of a slave, every busy index but the host's has exactly
    one slave, and a deleted bridge has none. -/
theorem enslavement_consistent (run : Run (bridges τ cfg) Net.CleansFirst tr net) :
    (∀ dev, Unlinked net dev ∨ ∃ b k, Linked net dev b k) ∧
      (∀ d d' b k, Linked net d b k → Linked net d' b k → d = d') ∧
      (∀ b ubr k, net.ubrs b = some ubr → k ∈ ubr.busy → k ≠ 0 → ∃! dev, Linked net dev b k) ∧
      ∀ t ∈ tr, ∀ b, t.event = .dellink b → t.post.Slaveless b := by
  obtain ⟨ok, slaveless⟩ := bookkept_of_run run
  refine ⟨ok.device, fun d d' b k first second => first.unique second, ?_, slaveless⟩
  intro b ubr k here inUse notHost
  obtain ⟨dev, linked⟩ := ok.owner b ubr k here inUse notHost
  exact ⟨dev, linked, fun d other => other.unique linked⟩

/-- Two bridges; a slave is refused, moved from one to the other, and left there when the
    first one is deleted. -/
theorem enslavement_consistent_x86 :
    ∃ tr net, Run (bridges Nat x86) Net.CleansFirst tr net ∧ tr.length = 8 ∧
      (∀ dev, Unlinked net dev ∨ ∃ b k, Linked net dev b k) ∧
      (∀ d d' b k, Linked net d b k → Linked net d' b k → d = d') ∧
      (∀ b ubr k, net.ubrs b = some ubr → k ∈ ubr.busy → k ≠ 0 → ∃! dev, Linked net dev b k) ∧
      ∀ t ∈ tr, ∀ b, t.event = .dellink b → t.post.Slaveless b := by
  obtain ⟨tr, net, run, test⟩ := run_loaded x86 Net.CleansFirst
    [.newlink 1000 0x02ed00000001 {}, .newlink 1001 0x02ed00000002 {},
      .addSlave 1000 1 { allmulti := some .enomem }, .addSlave 1000 1 {}, .addSlave 1000 2 {},
      .delSlave 1000 1, .addSlave 1001 1 {}, .dellink 1000]
    (fun tr _ => tr.length == 8) (by decide +kernel)
  exact ⟨tr, net, run, by simpa using test, enslavement_consistent run⟩

end UnassumingBridge
