import UnassumingBridge.Support.Machine
import Mathlib.Algebra.GroupWithZero.Nat
import Mathlib.Data.Set.Insert
import Mathlib.Logic.Function.Basic

/-! # Learning switches with VLANs

What a switch is for, over any VLANs, ports and addresses: a frame goes to the port
where its destination was seen lately, and to all members of the VLAN when that is
not known. What a VLAN does depends on nothing but what happens in it.
-/

namespace Support.LearningSwitch

/-- The parameters of a switch. -/
structure Design (ν κ α : Type) where
  /-- How many ticks a sighting counts. -/
  timeout : Nat
  /-- The VLAN of every new port, and of the ports that do not filter. -/
  home : ν
  host : κ
  /-- The addresses that can belong to a station. -/
  station : α → Bool

/-- A switch: who is in which VLAN, and where the stations were seen. -/
structure State (ν κ α : Type) where
  ports : Set κ
  /-- The VLAN of untagged frames; `none` when the port does not filter. -/
  pvid : κ → Option ν
  /-- The members of the VLANs that there are. -/
  members : ν → Option (Set κ)
  /-- Where a station was last seen, and how many ticks ago. -/
  stations : ν → α → Option (κ × Nat)

/-- What happens to a switch. -/
inductive Event (ν κ α : Type) where
  | frame (k : κ) (tag : Option ν) (src dst : α)
  | tick (n : Nat)
  | add (v : ν)
  | attach (v : ν) (k : κ)
  | detach (v : ν) (k : κ)
  | filter (k : κ) (pvid : Option ν)
  | plug (k : κ)
  | unplug (k : κ)
  | idle

/-- What one VLAN is to a switch. -/
structure View (κ α : Type) where
  members : Option (Set κ) := none
  stations : α → Option (κ × Nat) := fun _ => none

/-- What can happen in a VLAN. -/
inductive Sight (κ α : Type) where
  /-- `hub`: the port does not filter. -/
  | frame (k : κ) (hub : Bool) (src dst : α)
  | tick (n : Nat)
  | add
  | attach (k : κ)
  | detach (k : κ)
  | unplug (k : κ)
  deriving DecidableEq

variable {ν κ α : Type} [DecidableEq ν] [DecidableEq κ] [DecidableEq α]

/-- Time goes on for a sighting. -/
def older (n : Nat) : Option (κ × Nat) → Option (κ × Nat) := Option.map fun seen => (seen.1, seen.2 + n)

/-- Nothing was seen at a port that is gone. -/
def without (k : κ) : Option (κ × Nat) → Option (κ × Nat) := Option.filter fun seen => seen.1 ≠ k

namespace View

variable (d : Design ν κ α)

def learn (w : View κ α) (k : κ) (src : α) : View κ α :=
  if d.station src then { w with stations := Function.update w.stations src (some (k, 0)) } else w

/-- The port of a station, if it was seen lately. -/
def place (w : View κ α) (m : α) : Option κ :=
  (w.stations m).bind fun seen => if seen.2 ≤ d.timeout then some seen.1 else none

/-- The members other than `k`, and of these only the port of the destination if that is known. -/
def recipients (w : View κ α) (k : κ) (dst : α) : Set κ :=
  { q | q ≠ k ∧ (∃ m, w.members = some m ∧ q ∈ m) ∧ ∀ p ∈ w.place d dst, q = p }

def admits (w : View κ α) (k : κ) (hub : Bool) : Prop := hub = true ∨ ∃ m, w.members = some m ∧ k ∈ m

/-- Where a frame goes. A frame that is not admitted goes nowhere, but its source has been seen. -/
def serve (w : View κ α) (k : κ) (hub : Bool) (src dst : α) : Set κ :=
  { q | w.admits k hub ∧ q ∈ (w.learn d k src).recipients d k dst }

def join (w : View κ α) (k : κ) : View κ α := { w with members := w.members.map (insert k) }

def leave (w : View κ α) (k : κ) : View κ α := { w with members := w.members.map fun m => m \ {k} }

def after (w : View κ α) : Sight κ α → View κ α
  | .frame k _ src _ => w.learn d k src
  | .tick n => { w with stations := fun m => older n (w.stations m) }
  | .add => { w with members := some ∅ }
  | .attach k => w.join k
  | .detach k => w.leave k
  | .unplug k => { w.leave k with stations := fun m => without k (w.stations m) }

def serves (w : View κ α) : Sight κ α → Option (Set κ)
  | .frame k hub src dst => some (w.serve d k hub src dst)
  | _ => none

end View

/-- The VLAN of a frame. -/
def vlanOf (d : Design ν κ α) (pvid : κ → Option ν) (k : κ) (tag : Option ν) : ν :=
  match pvid k with
  | none => d.home
  | some v => tag.getD v

/-- What an event is to a VLAN; `none` when it does not concern the VLAN. -/
def sight (d : Design ν κ α) (v : ν) (pvid : κ → Option ν) : Event ν κ α → Option (Sight κ α)
  | .frame k tag src dst => if vlanOf d pvid k tag = v then some (.frame k (pvid k).isNone src dst) else none
  | .tick n => some (.tick n)
  | .add w => if w = v then some .add else none
  | .attach w k => if w = v then some (.attach k) else none
  | .detach w k => if w = v then some (.detach k) else none
  | .plug k => if d.home = v then some (.attach k) else none
  | .unplug k => some (.unplug k)
  | .filter .. | .idle => none

namespace State

variable (d : Design ν κ α) (a : State ν κ α)

def view (v : ν) : View κ α := ⟨a.members v, a.stations v⟩

/-- Each VLAN takes notice of what concerns it. -/
def vlansAfter (e : Event ν κ α) (v : ν) : View κ α :=
  match sight d v a.pvid e with
  | some x => (a.view v).after d x
  | none => a.view v

def portsAfter : Event ν κ α → Set κ
  | .plug k => insert k a.ports
  | .unplug k => a.ports \ {k}
  | _ => a.ports

def pvidAfter : Event ν κ α → κ → Option ν
  | .filter k pvid => Function.update a.pvid k pvid
  | .plug k => Function.update a.pvid k none
  | _ => a.pvid

def next (e : Event ν κ α) : State ν κ α where
  ports := a.portsAfter e
  pvid := a.pvidAfter e
  members v := (a.vlansAfter d e v).members
  stations v := (a.vlansAfter d e v).stations

/-- A frame is served in its VLAN. -/
def answer : Event ν κ α → Option (Set κ)
  | .frame k tag src dst =>
      some ((a.view (vlanOf d a.pvid k tag)).serve d k (a.pvid k).isNone src dst)
  | _ => none

def Enabled : Event ν κ α → Prop
  | .frame k tag _ _ => k ∈ a.ports ∧ (a.members (vlanOf d a.pvid k tag)).isSome
  | .add v => a.members v = none
  | .attach v k | .detach v k => k ∈ a.ports ∧ (a.members v).isSome
  | .filter k _ | .unplug k => k ∈ a.ports
  | .plug k => k ∉ a.ports
  | .tick _ | .idle => True

end State

/-- A new switch, with the host as the only port. -/
def fresh (d : Design ν κ α) : State ν κ α where
  ports := {d.host}
  pvid _ := none
  members := Function.update (fun _ => none) d.home (some {d.host})
  stations _ _ := none

def switch (d : Design ν κ α) : Machine (State ν κ α) (Event ν κ α) (Option (Set κ)) Empty where
  Init a := a = fresh d
  Enabled := State.Enabled d
  exec a e := .ok (a.next d e, a.answer d e)

omit [DecidableEq ν] [DecidableEq κ] in
theorem learn_members (d : Design ν κ α) (w : View κ α) (k : κ) (src : α) : (w.learn d k src).members = w.members := by
  unfold View.learn
  split
  · rfl
  · rfl

section Next

variable {d : Design ν κ α} {a : State ν κ α} {v : ν} {k : κ}

theorem members_add : (a.next d (.add v)).members = Function.update a.members v (some ∅) := by
  funext w
  by_cases here : v = w
  · subst here
    simp [State.next, State.vlansAfter, sight, View.after]
  · simp [State.next, State.vlansAfter, sight, State.view, here, Ne.symm here]

theorem members_attach {m : Set κ} (known : a.members v = some m) :
    (a.next d (.attach v k)).members = Function.update a.members v (some (insert k m)) := by
  funext w
  by_cases here : v = w
  · subst here
    simp [State.next, State.vlansAfter, sight, View.after, View.join, State.view, known]
  · simp [State.next, State.vlansAfter, sight, State.view, here, Ne.symm here]

theorem members_detach {m : Set κ} (known : a.members v = some m) :
    (a.next d (.detach v k)).members = Function.update a.members v (some (m \ {k})) := by
  funext w
  by_cases here : v = w
  · subst here
    simp [State.next, State.vlansAfter, sight, View.after, View.leave, State.view, known]
  · simp [State.next, State.vlansAfter, sight, State.view, here, Ne.symm here]

theorem members_plug {m : Set κ} (known : a.members d.home = some m) :
    (a.next d (.plug k)).members = Function.update a.members d.home (some (insert k m)) := by
  funext w
  by_cases here : d.home = w
  · subst here
    simp [State.next, State.vlansAfter, sight, View.after, View.join, State.view, known]
  · simp [State.next, State.vlansAfter, sight, State.view, here, Ne.symm here]

theorem members_frame {tag : Option ν} {src dst : α} : (a.next d (.frame k tag src dst)).members = a.members := by
  funext w
  by_cases here : vlanOf d a.pvid k tag = w
  · simp [State.next, State.vlansAfter, sight, View.after, learn_members, State.view, here]
  · simp [State.next, State.vlansAfter, sight, State.view, here]

theorem view_frame {tag : Option ν} {src dst : α} : (a.next d (.frame k tag src dst)).view (vlanOf d a.pvid k tag) =
    (a.view (vlanOf d a.pvid k tag)).learn d k src := by
  simp [State.next, State.vlansAfter, sight, View.after, State.view]

theorem stations_frame {tag : Option ν} {src dst : α} (w : ν) (m : α) :
    (a.next d (.frame k tag src dst)).stations w m =
      if d.station src = true ∧ w = vlanOf d a.pvid k tag ∧ m = src then some (k, 0) else a.stations w m := by
  by_cases here : vlanOf d a.pvid k tag = w
  · subst here
    by_cases station : d.station src = true
    · by_cases mine : m = src
      · subst mine
        simp [State.next, State.vlansAfter, sight, View.after, View.learn, station]
      · simp [State.next, State.vlansAfter, sight, View.after, View.learn, State.view, station, mine]
    · simp [State.next, State.vlansAfter, sight, View.after, View.learn, State.view, station]
  · simp [State.next, State.vlansAfter, sight, State.view, here, Ne.symm here]

theorem stations_kept {e : Event ν κ α}
    (command : (∃ v, e = .add v) ∨ (∃ v k, e = .attach v k) ∨ (∃ v k, e = .detach v k) ∨
    ∃ k, e = .plug k) : (a.next d e).stations = a.stations := by
  funext w
  rcases command with ⟨v, rfl⟩ | ⟨v, k, rfl⟩ | ⟨v, k, rfl⟩ | ⟨k, rfl⟩
  all_goals
    simp only [State.next, State.vlansAfter, sight]
    split
    · rename_i seen
      split at seen
      · cases seen
        rfl
      · cases seen
    · rfl

end Next

section Replay

variable (d : Design ν κ α) (v : ν)

/-- What a list of sights makes of a VLAN, newest first. -/
def View.replay (w : View κ α) : List (Sight κ α) → View κ α
  | [] => w
  | x :: xs => (w.replay xs).after d x

/-- What the frames among the sights get, newest first. -/
def View.replies (w : View κ α) : List (Sight κ α) → List (Set κ)
  | [] => []
  | x :: xs => ((w.replay d xs).serves d x).toList ++ w.replies xs

/-- What the steps of a run are to a VLAN. -/
def sights (tr : List (Transition (State ν κ α) (Event ν κ α) (Option (Set κ)))) : List (Sight κ α) :=
  tr.filterMap fun t => sight d v t.pre.pvid t.event

/-- The event is a frame of the VLAN. -/
def ofVlan (pvid : κ → Option ν) : Event ν κ α → Bool
  | .frame k tag _ _ => decide (vlanOf d pvid k tag = v)
  | _ => false

/-- What the frames of a VLAN got in a run. -/
def served (tr : List (Transition (State ν κ α) (Event ν κ α) (Option (Set κ)))) : List (Set κ) :=
  tr.filterMap fun t => if ofVlan d v t.pre.pvid t.event then t.ret else none

variable {d v} {tr : List (Transition (State ν κ α) (Event ν κ α) (Option (Set κ)))} {a : State ν κ α}

omit [DecidableEq κ] in
theorem serves_sight (a : State ν κ α) (e : Event ν κ α) :
    (sight d v a.pvid e).bind ((a.view v).serves d) = if ofVlan d v a.pvid e then a.answer d e else none := by
  cases e with
  | frame k tag src dst =>
      by_cases mine : vlanOf d a.pvid k tag = v
      · simp [sight, ofVlan, mine, View.serves, State.answer]
      · simp [sight, ofVlan, mine]
  | tick | filter | idle | unplug => rfl
  | add w | attach w _ | detach w _ =>
      by_cases mine : w = v
      · simp [sight, ofVlan, mine, View.serves]
      · simp [sight, ofVlan, mine]
  | plug k =>
      by_cases home : d.home = v
      · simp [sight, ofVlan, home, View.serves]
      · simp [sight, ofVlan, home]

omit [DecidableEq κ] [DecidableEq α] in
theorem sight_frame {pvid : κ → Option ν} {e : Event ν κ α} {k : κ} {hub : Bool} {src dst : α}
    (seen : sight d v pvid e = some (.frame k hub src dst)) :
    ∃ tag, e = .frame k tag src dst ∧ vlanOf d pvid k tag = v ∧ (pvid k).isNone = hub := by
  cases e with
  | frame j tag src' dst' =>
      simp only [sight] at seen
      split at seen
      · rename_i mine
        cases seen
        exact ⟨tag, rfl, mine, rfl⟩
      · cases seen
  | tick | unplug | filter | idle => cases seen
  | add | attach | detach | plug =>
      simp only [sight] at seen
      split at seen
      · cases seen
      · cases seen

theorem view_next (a : State ν κ α) (e : Event ν κ α) (v : ν) : (a.next d e).view v = a.vlansAfter d e v := rfl

/-- A VLAN is what its sights have made of it, and its frames got what the sights say. -/
theorem replay_of_run (run : Run (switch d) (fun _ _ => True) tr a) (v : ν) :
    a.view v = ((fresh d).view v).replay d (sights d v tr) ∧
      served d v tr = ((fresh d).view v).replies d (sights d v tr) := by
  induction run with
  | init start =>
      rw [start]
      exact ⟨rfl, rfl⟩
  | @step tr a e a' r before enabled _ executed ih =>
      obtain ⟨view, replies⟩ := ih
      cases executed
      have reply := serves_sight (d := d) (v := v) a e
      simp only [served, sights, List.filterMap_cons] at replies ⊢
      rw [view_next, State.vlansAfter]
      cases seen : sight d v a.pvid e with
      | none =>
          rw [seen] at reply
          rw [← reply]
          exact ⟨view, replies⟩
      | some x =>
          rw [seen] at reply
          rw [← reply]
          simp only [Option.bind_some, View.replay, View.replies]
          rw [view]
          refine ⟨rfl, ?_⟩
          rw [replies]
          simp only [sights]
          cases View.serves d _ x with
          | none => rfl
          | some out => rfl

/-- What the frames of a VLAN get depends on nothing but what happens in the VLAN. -/
theorem served_congr {tr' : List (Transition (State ν κ α) (Event ν κ α) (Option (Set κ)))} {a' : State ν κ α}
    (run : Run (switch d) (fun _ _ => True) tr a) (run' : Run (switch d) (fun _ _ => True) tr' a')
    (same : sights d v tr = sights d v tr') : served d v tr = served d v tr' ∧ a.view v = a'.view v := by
  obtain ⟨view, replies⟩ := replay_of_run run v
  obtain ⟨view', replies'⟩ := replay_of_run run' v
  exact ⟨by rw [replies, replies', same], by rw [view, view', same]⟩

end Replay

section Stations

omit [DecidableEq ν]

variable {d : Design ν κ α} {w : View κ α} {m : α} {k : κ}

def Sight.ticks : Sight κ α → Nat
  | .tick n => n
  | _ => 0

/-- The sight tells where station `m` is, or that port `k` is gone. -/
def Sight.resets (m : α) (k : κ) : Sight κ α → Bool
  | .frame _ _ src _ => decide (src = m)
  | .unplug q => decide (q = k)
  | _ => false

omit [DecidableEq κ] in
theorem learn_other {src : α} {q : κ} (other : src ≠ m) : (w.learn d q src).stations m = w.stations m := by
  simp only [View.learn]
  split
  · exact Function.update_of_ne other.symm _ _
  · rfl

/-- A sighting is kept by everything but another sighting and the removal of the port. -/
theorem stations_after {x : Sight κ α} {age : Nat} (known : w.stations m = some (k, age))
    (keeps : x.resets m k = false) : (w.after d x).stations m = some (k, age + x.ticks) := by
  cases x with
  | frame q hub src dst =>
      have other : src ≠ m := by simpa [Sight.resets] using keeps
      exact (learn_other other).trans known
  | tick n => simp [View.after, older, known, Sight.ticks]
  | add | attach q | detach q => exact known
  | unplug q =>
      have other : k ≠ q := by simpa [Sight.resets, eq_comm] using keeps
      simp [View.after, without, known, other, Sight.ticks]

theorem stations_replay {later before : List (Sight κ α)} {hub : Bool} {dst : α} (station : d.station m = true)
    (keeps : ∀ x ∈ later, x.resets m k = false) :
    (w.replay d (later ++ .frame k hub m dst :: before)).stations m = some (k, (later.map Sight.ticks).sum) := by
  induction later with
  | nil =>
      change ((w.replay d before).learn d k m).stations m = some (k, 0)
      rw [View.learn, if_pos station]
      exact Function.update_self ..
  | cons x later ih =>
      have kept := ih fun y inside => keeps y (List.mem_cons_of_mem _ inside)
      rw [List.cons_append, View.replay, stations_after kept (keeps x List.mem_cons_self), List.map_cons, List.sum_cons,
        Nat.add_comm]

omit [DecidableEq κ] in
/-- A station is answered at its port: what is sent to it goes there and nowhere else. -/
theorem serve_known {src : α} {p : κ} {hub : Bool} {age : Nat} (known : w.stations m = some (k, age))
    (lately : age ≤ d.timeout) (other : src ≠ m) (q : κ) :
    q ∈ w.serve d p hub src m ↔ w.admits p hub ∧ q = k ∧ q ≠ p ∧ ∃ all, w.members = some all ∧ q ∈ all := by
  have place : (w.learn d p src).place d m = some k := by
    simp only [View.place, learn_other other, known, Option.bind_some, if_pos lately]
  change w.admits p hub ∧ q ≠ p ∧ (∃ all, (w.learn d p src).members = some all ∧ q ∈ all) ∧ _ ↔ _
  rw [place, learn_members]
  simp only [Option.mem_some_iff, forall_eq']
  grind

end Stations

end Support.LearningSwitch
