import UnassumingBridge.Invariants.Registry

/-! # The VLAN registry as a finite map

What the add and delete commands have returned so far says which VIDs are
present. The registry agrees with it until the first VLAN is deleted, which
leaves the object in its bucket.
-/

namespace UnassumingBridge

open Support

variable {τ : Type} {cfg : Config}

/-- Presence by the commands that succeeded; VLAN 0 comes with the bridge. -/
def present : History τ → Vid → Bool
  | [], vid => vid == 0
  | t :: tr, vid =>
      match t.event, t.ret.ret with
      | .vlanAdd w _, .ok () => vid == w || present tr vid
      | .vlanDel w, .ok () => vid != w && present tr vid
      | _, _ => present tr vid

/-- Lookups return the live object of a VID that is present and nothing else. -/
def LookupsAgree (cfg : Config) (has : Vid → Bool) (s : Ubr τ) : Prop :=
  ∀ vid, if has vid then ∃ r, ubrVlanFind cfg s vid = .ok (some r) ∧ s.LiveVid vid r
    else ubrVlanFind cfg s vid = .ok none

section Commands

variable [Jiffies τ]

/-- `kzalloc` may fail; otherwise adding succeeds for absent VIDs only. -/
def AddBehaves (cfg : Config) (has : Vid → Bool) (s : Sys τ) (vid : Vid) : Prop :=
  if has vid then ∀ zallocFails, s.exec cfg (.vlanAdd vid zallocFails) = .ok (s, { ret := .error .ebusy })
  else s.exec cfg (.vlanAdd vid true) = .ok (s, { ret := .error .enomem }) ∧
    ∃ s', s.exec cfg (.vlanAdd vid false) = .ok (s', {}) ∧
      (∃ r, ubrVlanFind cfg s'.ubr vid = .ok (some r) ∧ s'.ubr.LiveVid vid r) ∧
      ∀ w ≠ vid, ubrVlanFind cfg s'.ubr w = ubrVlanFind cfg s.ubr w

def DelBehaves (cfg : Config) (has : Vid → Bool) (s : Sys τ) (vid : Vid) : Prop :=
  if has vid then ∃ s', s.exec cfg (.vlanDel vid) = .ok (s', {}) ∧ ubrVlanFind cfg s'.ubr vid = .ok none ∧
      ∀ w ≠ vid, ubrVlanFind cfg s'.ubr w = ubrVlanFind cfg s.ubr w
  else s.exec cfg (.vlanDel vid) = .ok (s, { ret := .error .enoent })

end Commands

/-- No delete command names a registered VID. -/
def Sys.KeepsVlans (cfg : Config) (s : Sys τ) : Event → Prop
  | .vlanDel vid => s.ubr.registered cfg vid = false
  | _ => True

instance (s : Sys τ) : (e : Event) → Decidable (s.KeepsVlans cfg e)
  | .vlanDel vid => inferInstanceAs (Decidable (s.ubr.registered cfg vid = false))
  | .rx .. | .xmit .. | .age .. | .tick .. | .portAdd .. | .portDel .. | .portCleanup .. | .vlanAdd ..
  | .vlanFree .. | .vlanAttach .. | .vlanDetach .. | .portSet .. | .devChange .. => .isTrue trivial

/-- A registry from which nothing was deleted. -/
structure NoneDeleted (s : Ubr τ) : Prop where
  empty : s.vlanRcu = []
  readable : ∀ h, ∀ r ∈ s.vlans h, (s.heap r).isSome

namespace NoneDeleted

section Lookup

variable {s : Ubr τ} {r : VlanRef} {v w : UbrVlan} {vid : Vid}

theorem find_some (ok : NoneDeleted s) (vlans : VlansOk cfg s) :
    ubrVlanFind cfg s vid = .ok (some r) ↔ s.LiveVid vid r := by
  have alive (x : VlanRef) : x ∉ s.vlanRcu := by
    rw [ok.empty]
    exact List.not_mem_nil
  constructor
  · intro found
    exact liveVid_of_find found (alive r)
  · intro live
    obtain ⟨found, walked⟩ := findInBucket_ok vid (ok.readable (cfg.vlanHash vid))
    cases found with
    | none => exact absurd live (not_liveVid_of_find_none vlans walked)
    | some x =>
        cases liveVid_unique vlans (liveVid_of_find walked (alive x)) live
        exact walked

theorem find_none (ok : NoneDeleted s) (vlans : VlansOk cfg s) :
    ubrVlanFind cfg s vid = .ok none ↔ ∀ r, ¬ s.LiveVid vid r := by
  constructor
  · intro missing r
    exact not_liveVid_of_find_none vlans missing
  · intro absent
    obtain ⟨found, walked⟩ := findInBucket_ok vid (ok.readable (cfg.vlanHash vid))
    cases found with
    | none => exact walked
    | some x => exact absurd ((ok.find_some vlans).mp walked) (absent x)

theorem find_congr {u : Ubr τ} (ok : NoneDeleted s) (ok' : NoneDeleted u) (vlans : VlansOk cfg s)
    (vlans' : VlansOk cfg u) (same : ∀ r, u.LiveVid vid r ↔ s.LiveVid vid r) :
    ubrVlanFind cfg u vid = ubrVlanFind cfg s vid := by
  by_cases registered : ∃ r, s.LiveVid vid r
  · obtain ⟨r, live⟩ := registered
    rw [(ok.find_some vlans).mpr live, (ok'.find_some vlans').mpr ((same r).mpr live)]
  · have absent : ∀ r, ¬ s.LiveVid vid r := fun r live => registered ⟨r, live⟩
    have absent' : ∀ r, ¬ u.LiveVid vid r := fun r live => absent r ((same r).mp live)
    rw [(ok.find_none vlans).mpr absent, (ok'.find_none vlans').mpr absent']

theorem put (ok : NoneDeleted s) (r : VlanRef) (w : UbrVlan) : NoneDeleted (s.putVlan r w) where
  empty := ok.empty
  readable h x inside := by
    by_cases here : x = r
    · simp [Ubr.putVlan, here]
    · simpa [Ubr.putVlan, here] using ok.readable h x inside

theorem add (ok : NoneDeleted s) (vid : Vid) : NoneDeleted (s.addVlan cfg vid) where
  empty := ok.empty
  readable h x inside := by
    by_cases here : x = s.nextVlan
    · simp [Ubr.addVlan, here]
    · have old : x ∈ s.vlans h := by
        by_cases bucket : h = cfg.vlanHash vid
        · subst bucket
          simpa [Ubr.addVlan, here] using inside
        · simpa [Ubr.addVlan, bucket] using inside
      simpa [Ubr.addVlan, here] using ok.readable h x old

theorem register (ok : NoneDeleted s) (vid : Vid) : NoneDeleted (s.register cfg vid) := by
  have added : NoneDeleted (s.addVlan cfg vid) := ok.add vid
  exact ⟨added.empty, added.readable⟩

end Lookup

theorem step {s : Sys τ} {e : Event} {u : Ubr τ} (ok : NoneDeleted s.ubr) (safe : s.KeepsVlans cfg e)
    (effect : Effect cfg s e u) : NoneDeleted u := by
  cases effect with
  | quiet fdb => exact ⟨ok.empty, ok.readable⟩
  | vlanAdded missing => exact ok.register _
  | vlanDeleted found live same fresh =>
      have gone : s.ubr.registered cfg _ = false := safe
      rw [registered_eq found] at gone
      exact absurd fresh (by simpa using gone)
  | vlanFreed queued =>
      rw [ok.empty] at queued
      cases queued
  | attached | detached => exact ok.put _ _
  | pvidSet slot found => exact ⟨ok.empty, ok.readable⟩
  | @portAdded dev env k r v begun whole found live =>
      have joined := ok.put r (v.attach k false)
      exact ⟨joined.empty, joined.readable⟩
  | @portAddFailed dev env k r v begun broken found live idle =>
      have joined := ok.put r (v.attach k false)
      exact ⟨joined.empty, joined.readable⟩
  | portDeleted slave owned idle => exact ⟨ok.empty, ok.readable⟩
  | portCleaned queued once => exact ⟨ok.empty, ok.readable⟩

theorem fresh (dev : Dev) (devAddr : Mac) : NoneDeleted (freshUbr cfg dev devAddr : Ubr τ) := by
  have empty : NoneDeleted (zeroedUbr dev devAddr : Ubr τ) := ⟨rfl, nofun⟩
  have added : NoneDeleted ((zeroedUbr dev devAddr : Ubr τ).addVlan cfg 0) := empty.add 0
  have linked : NoneDeleted (linkedUbr cfg dev devAddr : Ubr τ) := ⟨added.empty, added.readable⟩
  have joined := linked.put 0 ((newVlan 0).attach 0 false)
  exact ⟨joined.empty, joined.readable⟩

end NoneDeleted

/-- A deleted VLAN is still found: `ubr_vlan_del` leaves its object in the bucket. -/
theorem find_after_delete {s : Ubr τ} {r : VlanRef} {v : UbrVlan} (ok : VlansOk cfg s)
    (live : s.heap r = some v) : ubrVlanFind cfg (s.dropVlan r v) v.vid ≠ .ok none := by
  intro missing
  obtain ⟨w, read, other⟩ := findInBucket_none missing r (ok.hashed r v live)
  have emptied : w = { v with members := .zero } := by
    simpa [Ubr.dropVlan, Ubr.putVlan, eq_comm] using read
  rw [emptied] at other
  exact other rfl

/-- Only the add and the delete command change which objects are live. -/
theorem liveVid_kept {s : Sys τ} {e : Event} {u : Ubr τ} (effect : Effect cfg s e u)
    (notAdd : ∀ vid fails, e ≠ .vlanAdd vid fails) (notDel : ∀ vid, e ≠ .vlanDel vid) (vid : Vid)
    (r : VlanRef) : u.LiveVid vid r ↔ s.ubr.LiveVid vid r := by
  cases effect with
  | quiet | pvidSet | portDeleted | portCleaned => exact Iff.rfl
  | vlanAdded => exact absurd rfl (notAdd _ _)
  | vlanDeleted => exact absurd rfl (notDel _)
  | vlanFreed queued => exact liveVid_freed queued
  | attached found live | detached found live => exact liveVid_putVlan live rfl
  | portAdded begun whole found live | portAddFailed begun broken found live =>
      exact liveVid_putVlan live rfl

variable [Jiffies τ]

private theorem agree_step {tr : History τ} {s s' : Sys τ} {e : Event} {o : Outcome}
    (vlans : VlansOk cfg s.ubr)
    (agree : ∀ vid, present tr vid = true ↔ ∃ r, s.ubr.LiveVid vid r) (enabled : s.Enabled e)
    (safe : s.KeepsVlans cfg e) (done : s.exec cfg e = .ok (s', o)) (vid : Vid) :
    present (⟨s, e, o, s'⟩ :: tr) vid = true ↔ ∃ r, s'.ubr.LiveVid vid r := by
  have effect := exec_effect enabled done
  have other (same : present (⟨s, e, o, s'⟩ :: tr) vid = present tr vid)
      (notAdd : ∀ vid fails, e ≠ .vlanAdd vid fails) (notDel : ∀ vid, e ≠ .vlanDel vid) :
      present (⟨s, e, o, s'⟩ :: tr) vid = true ↔ ∃ r, s'.ubr.LiveVid vid r := by
    rw [same, agree vid]
    exact exists_congr fun r => (liveVid_kept effect notAdd notDel vid r).symm
  cases e with
  | vlanAdd w fails =>
      obtain ⟨u, result, rfl, plain⟩ := configured_ok done
      rcases ubrVlanNlAdd_cases result with
        ⟨_, _, rfl, failed⟩ | ⟨_, _, rfl, failed⟩ | ⟨missing, _, rfl, success⟩
      · simp only [present, failed]
        exact agree vid
      · simp only [present, failed]
        exact agree vid
      · simp only [present, success, Bool.or_eq_true, beq_iff_eq]
        simp only [liveVid_register vlans missing]
        by_cases mine : vid = w
        · simp [mine]
        · simp only [mine, false_or, if_false]
          exact agree vid
  | vlanDel w =>
      obtain ⟨u, result, rfl, plain⟩ := configured_ok done
      rcases ubrVlanNlDel_cases result with ⟨_, rfl, failed⟩ | ⟨r, v, found, _, _, fresh, _, _⟩
      · simp only [present, failed]
        exact agree vid
      · have gone : s.ubr.registered cfg w = false := safe
        rw [registered_eq found] at gone
        exact absurd fresh (by simpa using gone)
  | _ => exact other rfl nofun nofun

theorem noneDeleted_of_run {tr : History τ} {s : Sys τ} (run : Run (bridge τ cfg) (Sys.KeepsVlans cfg) tr s) :
    NoneDeleted s.ubr := by
  refine run.invariant (I := fun _ s => NoneDeleted s.ubr) ?_ ?_
  · intro s init
    obtain ⟨dev, devAddr, same⟩ := init_ubr init
    exact same ▸ .fresh dev devAddr
  · intro tr s e s' o _ ok enabled guard done
    exact ok.step guard (exec_effect enabled done)

theorem present_iff_live {tr : History τ} {s : Sys τ} (run : Run (bridge τ cfg) (Sys.KeepsVlans cfg) tr s)
    (vid : Vid) : present tr vid = true ↔ ∃ r, s.ubr.LiveVid vid r := by
  refine run.invariant (I := fun tr s => ∀ vid, present tr vid = true ↔ ∃ r, s.ubr.LiveVid vid r) ?_ ?_ vid
  · intro s init vid
    obtain ⟨dev, devAddr, same⟩ := init_ubr init
    have vlans : VlansOk cfg s.ubr := same ▸ .fresh dev devAddr
    have ok : NoneDeleted s.ubr := same ▸ .fresh dev devAddr
    have found : ubrVlanFind cfg s.ubr 0 = .ok (some 0) := same ▸ fresh_find dev devAddr
    have host := (ok.find_some vlans).mp found
    simp only [present, beq_iff_eq]
    constructor
    · rintro rfl
      exact ⟨0, host⟩
    · rintro ⟨r, v, live, rfl⟩
      have used : s.ubr.nextVlan = 1 := by
        rw [same]
        rfl
      have first : r = 0 := by
        have below := vlans.bounded r v live.1
        rw [used] at below
        exact Nat.lt_one_iff.mp below
      obtain ⟨w, object, zero⟩ := host
      subst first
      cases live.1.symm.trans object.1
      exact zero
  · intro tr s e s' o before agree enabled guard done
    exact agree_step (vlansOk_of_reachable before.reachable) agree enabled guard done

/-- As long as nothing was deleted the registry is the map of the commands, and adding
    works. Deleting works for the VIDs that are absent. -/
theorem registry_is_map {tr : History τ} {s : Sys τ} (run : Run (bridge τ cfg) (Sys.KeepsVlans cfg) tr s) :
    LookupsAgree cfg (present tr) s.ubr ∧ s.ubr.vlanRcu = [] ∧
      ∀ vid, AddBehaves cfg (present tr) s vid ∧ (DelBehaves cfg (present tr) s vid ↔ present tr vid = false) := by
  have vlans := vlansOk_of_reachable run.reachable
  have ok := noneDeleted_of_run run
  have lookups : LookupsAgree cfg (present tr) s.ubr := by
    intro vid
    split
    · rename_i has
      obtain ⟨r, live⟩ := (present_iff_live run vid).mp has
      exact ⟨r, (ok.find_some vlans).mpr live, live⟩
    · rename_i lacks
      refine (ok.find_none vlans).mpr fun r live => ?_
      exact lacks ((present_iff_live run vid).mpr ⟨r, live⟩)
  refine ⟨lookups, ok.empty, fun vid => ?_⟩
  have lookup := lookups vid
  cases has : present tr vid with
  | true =>
      simp only [has, if_true] at lookup
      obtain ⟨r, found, v, live, same⟩ := lookup
      simp only [AddBehaves, DelBehaves, has, if_true, Bool.true_eq_false, iff_false]
      constructor
      · intro fails
        simp only [Sys.exec, ubrVlanNlAdd_busy found]
        rfl
      · rintro ⟨s', done, missing, _⟩
        obtain ⟨u, result, rfl, _⟩ := configured_ok done
        rcases ubrVlanNlDel_cases result with ⟨absent, _⟩ | ⟨x, w, found', read, same', _, rfl, _⟩
        · cases found.symm.trans absent
        · exact find_after_delete vlans read (same'.symm ▸ missing)
  | false =>
      simp only [has, Bool.false_eq_true, if_false] at lookup
      simp only [AddBehaves, DelBehaves, has, Bool.false_eq_true, if_false, iff_true]
      refine ⟨⟨?_, ?_⟩, ?_⟩
      · simp only [Sys.exec, ubrVlanNlAdd_nomem lookup]
        rfl
      · have vlans' := vlans.register lookup
        have ok' : NoneDeleted (s.ubr.register cfg vid) := ok.register vid
        refine ⟨_, by simp only [Sys.exec, ubrVlanNlAdd_added lookup]; rfl, ?_, ?_⟩
        · have live : (s.ubr.register cfg vid).LiveVid vid s.ubr.nextVlan :=
            (liveVid_register vlans lookup vid).mpr (by rw [if_pos rfl])
          exact ⟨s.ubr.nextVlan, (ok'.find_some vlans').mpr live, live⟩
        · intro w other
          refine ok.find_congr ok' vlans vlans' fun r => ?_
          rw [liveVid_register vlans lookup, if_neg other]
      · simp only [Sys.exec, ubrVlanNlDel_noent lookup]
        rfl

/-- Two VIDs, an addition of a present one and a deletion of an absent one. -/
theorem registry_is_map_x86 :
    ∃ tr s, Run (bridge Nat x86) (Sys.KeepsVlans x86) tr s ∧ present tr 5 = true ∧ present tr 7 = false ∧
      LookupsAgree x86 (present tr) s.ubr ∧ s.ubr.vlanRcu = [] ∧
      ∀ vid, AddBehaves x86 (present tr) s vid ∧
        (DelBehaves x86 (present tr) s vid ↔ present tr vid = false) := by
  obtain ⟨tr, s, run, test⟩ := run_booted x86 (Sys.KeepsVlans x86)
    [.vlanAdd 5 false, .vlanAdd 238 false, .vlanAdd 5 false, .vlanDel 7]
    (fun tr _ => present tr 5 && !present tr 7) (by decide +kernel)
  have has : present tr 5 = true ∧ present tr 7 = false := by simpa using test
  exact ⟨tr, s, run, has.1, has.2, registry_is_map run⟩

/-- After a deletion the lookup returns the object that was handed to `call_rcu`. -/
theorem registry_forgets_nothing :
    ¬ ∀ tr s, Run (bridge Nat x86) (fun _ _ => True) tr s →
      LookupsAgree x86 (present tr) s.ubr ∧
        ∀ vid, AddBehaves x86 (present tr) s vid ∧ DelBehaves x86 (present tr) s vid := by
  intro claim
  obtain ⟨tr, s, run, test⟩ := run_booted x86 (fun _ _ => True) [.vlanAdd 5 false, .vlanDel 5]
    (fun tr s => !present tr 5 && s.ubr.stale x86 5) (by decide +kernel)
  obtain ⟨gone, stale⟩ : present tr 5 = false ∧ s.ubr.stale x86 5 = true := by simpa using test
  have missing := (claim tr s run).1 5
  rw [gone, if_neg Bool.false_ne_true] at missing
  simp only [Ubr.stale, missing] at stale
  cases stale

end UnassumingBridge
