import UnassumingBridge.Kernel.Moving
import UnassumingBridge.DataPath.Database

/-! # Stations that move

Between the two writes with which `ubr_fdb_learn` moves a station its entry has no port,
and two learners that are both between them leave it with two.
-/

namespace UnassumingBridge

open Support

variable {τ : Type}

/-- Without interruption the steps are what `ubr_fdb_learn` does to the entry. -/
theorem learn_alone (node : UbrFdbNode τ) (pidx : Pidx) (now : τ) :
    ∃ k, (Learner.step now)^[k] (node, ⟨pidx, .test⟩) = (node.seenOn pidx now, ⟨pidx, .done⟩) := by
  by_cases known : pidx ∈ node.vec
  · exact ⟨2, by simp [Learner.step, UbrFdbNode.seenOn, known]⟩
  · exact ⟨4, by simp [Learner.step, UbrFdbNode.seenOn, known]⟩

namespace Moving

variable {origin : UbrFdbNode τ} {s : Moving τ} {i : Nat} {l : Learner}

/-- The source was seen on the port. -/
def Seen (origin : UbrFdbNode τ) (s : Moving τ) (p : Pidx) : Prop :=
  p ∈ origin.vec ∨ ∃ l ∈ s.learners, l.pidx = p

/-- No learner clears the vector while one on another port has still to set its bit, and no
    forwarder reads it while the bit that a learner is about to set is clear. -/
def Orderly (s : Moving τ) : MovingEvent → Prop
  | .learn i => ∀ mover ∈ s.learners[i]?, mover.next = .zero →
      ∀ l ∈ s.learners, l.next = .set → l.pidx = mover.pidx
  | .read => ∀ l ∈ s.learners, l.next = .set → l.pidx ∈ s.node.vec
  | .receive _ | .tick _ => True

instance (s : Moving τ) : (e : MovingEvent) → Decidable (s.Orderly e)
  | .learn i => inferInstanceAs (Decidable (∀ mover ∈ s.learners[i]?, mover.next = .zero →
      ∀ l ∈ s.learners, l.next = .set → l.pidx = mover.pidx))
  | .read => inferInstanceAs (Decidable (∀ l ∈ s.learners, l.next = .set → l.pidx ∈ s.node.vec))
  | .receive _ | .tick _ => .isTrue trivial

/-- What forwarders have read so far was one port of the station, and one port is left in
    the end. -/
structure Sound (origin : UbrFdbNode τ) (tr : List (Transition (Moving τ) MovingEvent (Option UbrVec)))
    (s : Moving τ) : Prop where
  reads : ∀ t ∈ tr, ∀ vec, t.ret = some vec → ∃ p, vec = Bitmap.zero.set p ∧ t.pre.Seen origin p
  settles : (∀ l ∈ s.learners, l.next = .done) → ∃ p, s.node.vec = Bitmap.zero.set p

/-- The vector has one port, or learners that are all on one port have still to set its bit. -/
structure Coherent (origin : UbrFdbNode τ) (s : Moving τ) : Prop where
  settled : (∀ l ∈ s.learners, l.next ≠ .set) → ∃ p, s.node.vec = Bitmap.zero.set p
  agree : ∀ l ∈ s.learners, l.next = .set → ∀ m ∈ s.learners, m.next = .set → m.pidx = l.pidx
  only : ∀ l ∈ s.learners, l.next = .set → ∀ q ∈ s.node.vec, q = l.pidx
  seen : ∀ q ∈ s.node.vec, s.Seen origin q

section Steps

variable {node : UbrFdbNode τ} {next : LearnStep}

/-- The entry and the learners after a step of the `i`th one. -/
def stepped (s : Moving τ) (node : UbrFdbNode τ) (i : Nat) (l : Learner) : Moving τ :=
  { s with node, learners := s.learners.set i l }

variable (found : s.learners[i]? = some l)

include found

theorem mem_stepped (node : UbrFdbNode τ) (next : LearnStep) {m : Learner} (inside : m ∈ s.learners) :
    m = l ∨ m ∈ (s.stepped node i { l with next }).learners := by
  obtain ⟨j, at_⟩ := List.mem_iff_getElem?.mp inside
  by_cases same : i = j
  · subst same
    exact .inl (Option.some.inj (at_.symm.trans found))
  · have kept : (s.learners.set i { l with next })[j]? = some m := by rw [List.getElem?_set_ne same, at_]
    exact .inr (List.mem_of_getElem? kept)

theorem stepped_mem : { l with next } ∈ (s.stepped node i { l with next }).learners :=
  List.mem_set (List.getElem?_eq_some_iff.mp found).1 _

theorem seen_stepped {p : Pidx} (seen : s.Seen origin p) : (s.stepped node i { l with next }).Seen origin p := by
  cases seen with
  | inl first => exact .inl first
  | inr later =>
      obtain ⟨m, inside, same⟩ := later
      rcases mem_stepped found node next inside with rfl | kept
      · exact .inr ⟨_, stepped_mem found, same⟩
      · exact .inr ⟨m, kept, same⟩

theorem Coherent.aside (ok : s.Coherent origin) (before : l.next ≠ .set) (after : next ≠ .set)
    (same : node.vec = s.node.vec) : (s.stepped node i { l with next }).Coherent origin := by
  have setting {m : Learner} (inside : m ∈ (s.stepped node i { l with next }).learners) (sets : m.next = .set) :
      m ∈ s.learners := by
    rcases List.mem_or_eq_of_mem_set inside with kept | rfl
    · exact kept
    · exact absurd sets after
  constructor
  · intro quiet
    have quiet' (m : Learner) (inside : m ∈ s.learners) : m.next ≠ .set := by
      rcases mem_stepped found node next inside with rfl | kept
      · exact before
      · exact quiet m kept
    obtain ⟨p, single⟩ := ok.settled quiet'
    exact ⟨p, same.trans single⟩
  · intro m inside sets m' inside' sets'
    exact ok.agree m (setting inside sets) sets m' (setting inside' sets') sets'
  · intro m inside sets q member
    exact ok.only m (setting inside sets) sets q (same ▸ member)
  · intro q member
    exact seen_stepped found (ok.seen q (same ▸ member))

theorem coherent_clear (alone : ∀ m ∈ s.learners, m.next = .set → m.pidx = l.pidx) :
    (s.stepped { s.node with vec := .zero } i { l with next := .set }).Coherent origin := by
  have same {m : Learner} (inside : m ∈ (s.stepped { s.node with vec := .zero } i { l with next := .set }).learners)
      (sets : m.next = .set) : m.pidx = l.pidx := by
    rcases List.mem_or_eq_of_mem_set inside with kept | rfl
    · exact alone m kept sets
    · rfl
  constructor
  · intro quiet
    exact absurd rfl (quiet _ (stepped_mem found))
  · intro m inside sets m' inside' sets'
    rw [same inside sets, same inside' sets']
  · intro m inside sets q member
    exact absurd member (Bitmap.mem_zero q)
  · intro q member
    exact absurd member (Bitmap.mem_zero q)

theorem Coherent.moved (ok : s.Coherent origin) (sets : l.next = .set) :
    (s.stepped { s.node with vec := s.node.vec.set l.pidx } i { l with next := .stamp }).Coherent origin := by
  have here : l ∈ s.learners := List.mem_of_getElem? found
  have single : s.node.vec.set l.pidx = Bitmap.zero.set l.pidx := by
    apply Bitmap.ext_mem
    intro q
    simp only [Bitmap.mem_set, Bitmap.mem_zero, or_false]
    exact ⟨fun either => either.elim id (ok.only l here sets q), .inl⟩
  have setting {m : Learner}
      (inside : m ∈ (s.stepped { s.node with vec := s.node.vec.set l.pidx } i { l with next := .stamp }).learners)
      (sets' : m.next = .set) : m ∈ s.learners := by
    rcases List.mem_or_eq_of_mem_set inside with kept | rfl
    · exact kept
    · cases sets'
  constructor
  · intro _
    exact ⟨l.pidx, single⟩
  · intro m inside sets' m' inside' sets''
    exact ok.agree m (setting inside sets') sets' m' (setting inside' sets'') sets''
  · intro m inside sets' q member
    have moved : q = l.pidx := by simpa [stepped, single] using member
    rw [moved]
    exact ok.agree m (setting inside sets') sets' l here sets
  · intro q member
    have moved : q = l.pidx := by simpa [stepped, single] using member
    exact .inr ⟨_, stepped_mem found, moved.symm⟩

end Steps

section Machine

variable [Jiffies τ] {e : MovingEvent} {s' : Moving τ} {r : Option UbrVec}

theorem exec_learn (found : s.learners[i]? = some l) : s.exec (.learn i) =
    .ok (s.stepped (Learner.step s.jiffies (s.node, l)).1 i (Learner.step s.jiffies (s.node, l)).2, none) := by
  simp only [exec, found]
  rfl

omit [Jiffies τ] in
theorem Coherent.receive (ok : s.Coherent origin) (p : Pidx) :
    Coherent origin { s with learners := s.learners ++ [begin s.node p] } := by
  have fresh : (begin s.node p).next ≠ .set := by
    unfold begin
    split
    · nofun
    · nofun
  have setting {m : Learner} (inside : m ∈ s.learners ++ [begin s.node p]) (sets : m.next = .set) :
      m ∈ s.learners := by
    rcases List.mem_append.mp inside with old | new
    · exact old
    · cases List.mem_singleton.mp new
      exact absurd sets fresh
  constructor
  · intro quiet
    exact ok.settled fun l inside => quiet l (List.mem_append_left _ inside)
  · intro l inside sets m inside' sets'
    exact ok.agree l (setting inside sets) sets m (setting inside' sets') sets'
  · intro l inside sets q member
    exact ok.only l (setting inside sets) sets q member
  · intro q member
    exact (ok.seen q member).imp id fun ⟨l, inside, same⟩ => ⟨l, List.mem_append_left _ inside, same⟩

theorem Coherent.exec (ok : s.Coherent origin) (orderly : s.Orderly e) (done : s.exec e = .ok (s', r)) :
    s'.Coherent origin := by
  cases e with
  | receive p =>
      cases done
      exact ok.receive p
  | read =>
      cases done
      exact ok
  | tick n =>
      cases done
      exact ⟨ok.settled, ok.agree, ok.only, ok.seen⟩
  | learn i =>
      cases found : s.learners[i]? with
      | none =>
          simp only [Moving.exec, found] at done
          cases done
          exact ok
      | some l =>
          rw [exec_learn found] at done
          cases done
          obtain ⟨p, next⟩ := l
          cases next with
          | test =>
              apply ok.aside found nofun
              · split
                · nofun
                · nofun
              · rfl
          | zero => exact coherent_clear found (orderly ⟨p, .zero⟩ found rfl)
          | set => exact ok.moved found rfl
          | stamp => exact ok.aside found nofun nofun rfl
          | done => exact ok.aside found nofun nofun rfl

omit [Jiffies τ] in
theorem Coherent.read (ok : s.Coherent origin) (orderly : s.Orderly .read) :
    ∃ p, s.node.vec = Bitmap.zero.set p ∧ s.Seen origin p := by
  have one : ∃ p, s.node.vec = Bitmap.zero.set p := by
    by_cases halfway : ∃ l ∈ s.learners, l.next = .set
    · obtain ⟨l, inside, sets⟩ := halfway
      have there : l.pidx ∈ s.node.vec := orderly l inside sets
      refine ⟨l.pidx, Bitmap.ext_mem fun q => ?_⟩
      simp only [Bitmap.mem_set, Bitmap.mem_zero, or_false]
      constructor
      · intro member
        exact ok.only l inside sets q member
      · intro same
        exact same ▸ there
    · exact ok.settled fun l inside sets => halfway ⟨l, inside, sets⟩
  obtain ⟨p, single⟩ := one
  exact ⟨p, single, ok.seen p (by simp [single])⟩

theorem coherent_of_run (station : origin.IsStation) {tr} (run : Run (moving τ origin) Orderly tr s) :
    s.Coherent origin := by
  refine run.invariant (I := fun _ s => s.Coherent origin) ?_ ?_
  · intro s ⟨same, empty⟩
    obtain ⟨_, _, p, single⟩ := station
    exact ⟨fun _ => ⟨p, by rw [same, single]⟩, by simp [empty], by simp [empty], fun q member => .inl (same ▸ member)⟩
  · intro tr s e s' r _ ok _ orderly done
    exact ok.exec orderly done

/-- Only forwarders are told the vector. -/
theorem read_of_exec {vec : UbrVec} (done : s.exec e = .ok (s', some vec)) :
    e = .read ∧ vec = s.node.vec := by
  cases e with
  | read =>
      cases done
      exact ⟨rfl, rfl⟩
  | learn i =>
      cases found : s.learners[i]? with
      | none =>
          simp only [Moving.exec, found] at done
          cases done
      | some l =>
          rw [exec_learn found] at done
          cases done
  | receive p => cases done
  | tick n => cases done

theorem sound_of_run (station : origin.IsStation) {tr} (run : Run (moving τ origin) Orderly tr s) :
    s.Sound origin tr where
  reads := by
    induction run with
    | init start =>
        intro t inside
        cases inside
    | @step tr s e s' r before enabled orderly done ih =>
        intro t inside vec read
        rcases List.mem_cons.mp inside with rfl | earlier
        · have returned : r = some vec := read
          subst returned
          obtain ⟨rfl, rfl⟩ := read_of_exec done
          exact (coherent_of_run station before).read orderly
        · exact ih t earlier vec read
  settles finished := by
    apply (coherent_of_run station run).settled
    intro l inside sets
    cases sets.symm.trans (finished l inside)

section Continue

variable {C : Moving τ → MovingEvent → Prop} {tr : List (Transition (Moving τ) MovingEvent (Option UbrVec))}
  (run : Run (moving τ origin) C tr s)

include run

theorem run_learn (found : s.learners[i]? = some l) (unfinished : l.next ≠ .done) (allowed : C s (.learn i)) :
    Run (moving τ origin) C
      (⟨s, .learn i, none, s.stepped (Learner.step s.jiffies (s.node, l)).1 i (Learner.step s.jiffies (s.node, l)).2⟩ ::
        tr)
      (s.stepped (Learner.step s.jiffies (s.node, l)).1 i (Learner.step s.jiffies (s.node, l)).2) :=
  run.step ⟨l, found, unfinished⟩ allowed (exec_learn found)

theorem run_read (allowed : C s .read) :
    Run (moving τ origin) C (⟨s, .read, some s.node.vec, s⟩ :: tr) s :=
  run.step trivial allowed rfl

end Continue

/-- After a step that is not orderly a forwarder can read a vector that is not one port. -/
theorem disorder_shows {tr} (ok : s.Coherent origin) (run : Run (moving τ origin) (fun _ _ => True) tr s)
    (disorder : ¬ s.Orderly e) :
    ∃ newer r s₁ s', Run (moving τ origin) (fun _ _ => True) (newer ++ ⟨s, e, r, s₁⟩ :: tr) s' ∧
      ¬ s'.Sound origin (newer ++ ⟨s, e, r, s₁⟩ :: tr) := by
  cases e with
  | receive p => exact absurd trivial disorder
  | tick n => exact absurd trivial disorder
  | read =>
      refine ⟨[], _, _, _, run_read run trivial, fun sound => ?_⟩
      obtain ⟨p, single, _⟩ := sound.reads _ List.mem_cons_self s.node.vec rfl
      apply disorder
      intro l inside sets
      have moved := ok.only l inside sets p (by simp [single])
      simp [single, moved]
  | learn i =>
      simp only [Orderly, not_forall] at disorder
      obtain ⟨⟨p, _⟩, found, rfl, ⟨q, _⟩, inside, rfl, other⟩ := disorder
      obtain ⟨j, at_⟩ := List.mem_iff_getElem?.mp inside
      have apart : i ≠ j := by
        intro same
        cases (same ▸ at_).symm.trans found
      have length : i < s.learners.length := (List.getElem?_eq_some_iff.mp found).1
      have cleared := run_learn run found nofun trivial
      have mine := run_learn cleared (l := ⟨p, .set⟩) (List.getElem?_set_self length) nofun trivial
      have others := run_learn mine (i := j) (l := ⟨q, .set⟩)
        (by simp only [stepped, List.getElem?_set_ne apart, at_]) nofun trivial
      refine ⟨[_, _, _], _, _, _, run_read others trivial, fun sound => ?_⟩
      obtain ⟨a, single, _⟩ := sound.reads _ List.mem_cons_self _ rfl
      have both (x : Pidx) : x = q ∨ x = p ↔ x = a := by
        simpa [stepped, Learner.step] using congrArg (x ∈ ·) single
      apply other
      rw [(both q).mp (.inl rfl), (both p).mp (.inr rfl)]

end Machine

end Moving

open Moving

/-- As long as all steps are orderly the entry is sound, and any other step can make it unsound. -/
theorem moving_station_sound [Jiffies τ] {origin : UbrFdbNode τ} {s : Moving τ} {tr} (station : origin.IsStation)
    (run : Run (moving τ origin) Orderly tr s) :
    s.Sound origin tr ∧ ∀ e, ¬ s.Orderly e →
      ∃ newer r s₁ s', Run (moving τ origin) (fun _ _ => True) (newer ++ ⟨s, e, r, s₁⟩ :: tr) s' ∧
        ¬ s'.Sound origin (newer ++ ⟨s, e, r, s₁⟩ :: tr) := by
  constructor
  · exact sound_of_run station run
  · intro e disorder
    have unguarded := run.mono (D := fun _ _ => True) fun _ _ _ => trivial
    exact disorder_shows (coherent_of_run station run) unguarded disorder

/-- The entry of a station that was seen on port 1. -/
def stationNode : UbrFdbNode Nat := ⟨macKey 0 stationFrame.frame.hSource, Bitmap.zero.set 1, .dynamic, 0⟩

theorem stationNode_isStation : stationNode.IsStation := .new 0 1 (by decide)

/-- The station moves to port 2, and on to port 3 before its first frame there has been learned. -/
theorem moving_station_sound_twice : ∃ tr s, Run (moving Nat stationNode) Orderly tr s ∧
    s.node.vec = Bitmap.zero.set 3 ∧ s.Sound stationNode tr ∧ ∀ e, ¬ s.Orderly e →
      ∃ newer r s₁ s', Run (moving Nat stationNode) (fun _ _ => True) (newer ++ ⟨s, e, r, s₁⟩ :: tr) s' ∧
        ¬ s'.Sound stationNode (newer ++ ⟨s, e, r, s₁⟩ :: tr) := by
  obtain ⟨tr, s, run, test⟩ := Machine.exists_run_of_play (M := moving Nat stationNode) (C := Orderly)
    [.receive 2, .learn 0, .receive 3, .learn 1, .learn 0, .learn 0, .read, .learn 1, .learn 0, .learn 1, .read]
    (s := ⟨stationNode, 0, []⟩) ⟨rfl, rfl⟩ (fun _ (s : Moving Nat) => s.node.vec == Bitmap.zero.set 3)
    (by decide +kernel)
  exact ⟨tr, s, run, eq_of_beq test, moving_station_sound stationNode_isStation run⟩

/-- A forwarder reads no port while one frame is learned; after two frames on different ports
    have been learned at the same time the entry has both. -/
theorem moving_station_corrupted :
    (¬ ∀ tr s, Run (moving Nat stationNode) (fun _ _ => True) tr s → ∀ t ∈ tr, ∀ vec, t.ret = some vec →
      ∃ p, vec = Bitmap.zero.set p ∧ t.pre.Seen stationNode p) ∧
    ¬ ∀ tr s, Run (moving Nat stationNode) (fun _ _ => True) tr s → (∀ l ∈ s.learners, l.next = .done) →
      ∃ p, s.node.vec = Bitmap.zero.set p := by
  constructor
  · intro claim
    obtain ⟨tr, s, run, test⟩ := Machine.exists_run_of_play (M := moving Nat stationNode) (C := fun _ _ => True)
      [.receive 2, .learn 0, .learn 0, .read] (s := ⟨stationNode, 0, []⟩) ⟨rfl, rfl⟩
      (fun tr (_ : Moving Nat) => tr.any fun t => t.ret == some Bitmap.zero) (by decide +kernel)
    obtain ⟨t, inside, read⟩ := List.any_eq_true.mp test
    obtain ⟨p, single, _⟩ := claim tr s run t inside Bitmap.zero (eq_of_beq read)
    have member : p ∈ (Bitmap.zero : UbrVec).set p := Bitmap.mem_set.mpr (.inl rfl)
    rw [← single] at member
    exact absurd member (Bitmap.mem_zero p)
  · intro claim
    obtain ⟨tr, s, run, test⟩ := Machine.exists_run_of_play (M := moving Nat stationNode) (C := fun _ _ => True)
      [.receive 2, .receive 3, .learn 0, .learn 1, .learn 0, .learn 1, .learn 0, .learn 1, .learn 0, .learn 1]
      (s := ⟨stationNode, 0, []⟩) ⟨rfl, rfl⟩
      (fun _ (s : Moving Nat) => decide (∀ l ∈ s.learners, l.next = .done) &&
        s.node.vec == (Bitmap.zero.set 2).set 3) (by decide +kernel)
    obtain ⟨finished, both⟩ := (Bool.and_eq_true _ _).mp test
    obtain ⟨p, single⟩ := claim tr s run (of_decide_eq_true finished)
    have same (x : Pidx) : x ∈ (Bitmap.zero.set 2).set 3 ↔ x ∈ Bitmap.zero.set p := by
      rw [← eq_of_beq both, single]
    simp only [Bitmap.mem_set, Bitmap.mem_zero, or_false] at same
    exact absurd (((same 3).mp (.inl rfl)).trans ((same 2).mp (.inr rfl)).symm) (by decide)

end UnassumingBridge
