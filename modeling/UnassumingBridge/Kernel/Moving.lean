import UnassumingBridge.Kernel.System

/-! # Learning in steps

The machine of one FDB entry with `ubr_fdb_learn` taken apart. Frames of its station are
received on any port and learned at the same time, and `ubr_fdb_forward` reads the vector
between any two of their steps.
-/

namespace UnassumingBridge

open Support

variable {τ : Type}

/-- What `ubr_fdb_learn` does next with the entry that it has found. -/
inductive LearnStep where
  /-- `ubr_vec_test` of the port's bit -/
  | test
  | zero
  | set
  /-- `node->tstamp = jiffies` -/
  | stamp
  | done
  deriving DecidableEq, Repr

/-- A frame that was received on the port and is being learned, or has been. -/
structure Learner where
  pidx : Pidx
  next : LearnStep
  deriving DecidableEq, Repr

/-- One step of `ubr_fdb_learn`. -/
def Learner.step (now : τ) : UbrFdbNode τ × Learner → UbrFdbNode τ × Learner
  | (node, ⟨pidx, .test⟩) => (node, ⟨pidx, if pidx ∈ node.vec then .stamp else .zero⟩)
  | (node, ⟨pidx, .zero⟩) => ({ node with vec := .zero }, ⟨pidx, .set⟩)
  | (node, ⟨pidx, .set⟩) => ({ node with vec := node.vec.set pidx }, ⟨pidx, .stamp⟩)
  | (node, ⟨pidx, .stamp⟩) => ({ node with tstamp := now }, ⟨pidx, .done⟩)
  | (node, ⟨pidx, .done⟩) => (node, ⟨pidx, .done⟩)

/-- The entry of a station, which frames on several CPUs refresh at the same time. -/
structure Moving (τ : Type) where
  node : UbrFdbNode τ
  jiffies : τ
  /-- Every frame since the start, those that have been learned included. -/
  learners : List Learner := []

/-- What one of the CPUs does to the entry next. -/
inductive MovingEvent where
  /-- a frame of the station, for which the entry is found -/
  | receive (pidx : Pidx)
  | learn (i : Nat)
  /-- `ubr_fdb_forward` of a frame to the station reads the vector -/
  | read
  | tick (n : Nat)

namespace Moving

/-- What `ubr_fdb_learn` starts with: only dynamic entries are learned. -/
def begin (node : UbrFdbNode τ) (pidx : Pidx) : Learner := ⟨pidx, if node.proto = .dynamic then .test else .done⟩

def Enabled (s : Moving τ) : MovingEvent → Prop
  | .learn i => ∃ l ∈ s.learners[i]?, l.next ≠ .done
  | .receive _ | .read | .tick _ => True

variable [Jiffies τ]

/-- A read returns the vector. -/
def exec (s : Moving τ) : MovingEvent → Except Fault (Moving τ × Option UbrVec)
  | .receive pidx => .ok ({ s with learners := s.learners ++ [begin s.node pidx] }, none)
  | .learn i =>
      match s.learners[i]? with
      | none => .ok (s, none)
      | some l =>
          let (node, l) := Learner.step s.jiffies (s.node, l)
          .ok ({ s with node, learners := s.learners.set i l }, none)
  | .read => .ok (s, some s.node.vec)
  | .tick n => .ok ({ s with jiffies := Jiffies.later s.jiffies n }, none)

end Moving

/-- The machine of the entry that was there before the frames. -/
def moving (τ : Type) [Jiffies τ] (origin : UbrFdbNode τ) :
    Machine (Moving τ) MovingEvent (Option UbrVec) Fault where
  Init s := s.node = origin ∧ s.learners = []
  Enabled := Moving.Enabled
  exec := Moving.exec

instance [Jiffies τ] (origin : UbrFdbNode τ) (s : Moving τ) :
    (e : MovingEvent) → Decidable ((moving τ origin).Enabled s e)
  | .learn i => inferInstanceAs (Decidable (∃ l ∈ s.learners[i]?, l.next ≠ .done))
  | .receive _ | .read | .tick _ => .isTrue trivial

end UnassumingBridge
