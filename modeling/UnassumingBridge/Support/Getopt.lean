import Mathlib.Tactic.Common

/-! # Options of a command line

What `getopt_long` of the C library finds in the arguments of a program when it is
called until it returns -1. Elements that are not options are moved behind the
options, in their order, unless the environment asks for POSIX behaviour; then the
first of them ends the options.
-/

namespace Support.Getopt

abbrev Arg := List Char

/-- `struct option`, with `required_argument` or `no_argument`. -/
structure LongOption where
  name : Arg
  takesArg : Bool := false
  val : Char

/-- The characters of the option string, with those followed by a colon marked. -/
structure Options where
  short : List (Char × Bool)
  long : List LongOption := []

/-- One return of `getopt_long`. -/
inductive Found where
  | option (val : Char) (arg : Option Arg)
  /-- `'?'` -/
  | invalid
  deriving DecidableEq, Repr

/-- What one element of the arguments is; `wants` is an option whose argument is the
    next element. -/
inductive Element where
  | operand
  /-- `--` -/
  | stop
  | options (found : List Found) (wants : Option Char)

/-- What `getopt_long` has made of the arguments. -/
structure Scanned where
  found : List Found := []
  /-- The elements that `optind` has passed in the end. -/
  front : List Arg := []
  operands : List Arg := []

namespace Options

variable (o : Options)

/-- The characters behind a single dash. -/
def cluster : Arg → List Found × Option Char
  | [] => ([], none)
  | c :: rest =>
      match o.short.lookup c with
      | none => let (found, wants) := cluster rest; (.invalid :: found, wants)
      | some false => let (found, wants) := cluster rest; (.option c none :: found, wants)
      | some true => if rest.isEmpty then ([], some c) else ([.option c (some rest)], none)

/-- The options that an abbreviated name may mean. An exact match goes before the others. -/
def candidates (name : Arg) : List LongOption :=
  match o.long.find? fun l => l.name = name with
  | some exact => [exact]
  | none => o.long.filter fun l => name.isPrefixOf l.name

/-- The characters behind two dashes. -/
def longOption (body : Arg) : List Found × Option Char :=
  let name := body.takeWhile (· ≠ '=')
  let value := if '=' ∈ body then some (body.drop (name.length + 1)) else none
  match o.candidates name with
  | [] => ([.invalid], none)
  | l :: others =>
      if others.all fun m => m.takesArg = l.takesArg ∧ m.val = l.val then
        match l.takesArg, value with
        | false, none => ([.option l.val none], none)
        | false, some _ => ([.invalid], none)
        | true, some arg => ([.option l.val (some arg)], none)
        | true, none => ([], some l.val)
      else ([.invalid], none)

def element : Arg → Element
  | ['-', '-'] => .stop
  | '-' :: '-' :: body => let (found, wants) := o.longOption body; .options found wants
  | '-' :: c :: rest => let (found, wants) := o.cluster (c :: rest); .options found wants
  | _ => .operand

/-- `posix`: the first operand ends the options. -/
def scan (posix : Bool) : List Arg → Scanned
  | [] => {}
  | a :: rest =>
      match o.element a with
      | .operand =>
          if posix then { operands := a :: rest }
          else let after := scan posix rest; { after with operands := a :: after.operands }
      | .stop => { front := [a], operands := rest }
      | .options found none =>
          let after := scan posix rest
          { after with found := found ++ after.found, front := a :: after.front }
      | .options found (some c) =>
          match rest with
          | [] => { found := found ++ [.invalid], front := [a] }
          | arg :: rest =>
              let after := scan posix rest
              { after with
                found := found ++ .option c (some arg) :: after.found
                front := a :: arg :: after.front }

/-- The characters that `getopt_long` can return for an option. -/
def vals : List Char := o.short.map Prod.fst ++ o.long.map LongOption.val

variable {o} {c : Char} {arg : Option Arg}

theorem val_of_short {b : Bool} (found : o.short.lookup c = some b) : c ∈ o.vals := by
  obtain ⟨before, after, split, _⟩ := List.lookup_eq_some_iff.mp found
  simp [vals, split]

theorem val_of_candidates {name : Arg} {l : LongOption} (may : l ∈ o.candidates name) : l.val ∈ o.vals := by
  have listed : l ∈ o.long := by
    unfold candidates at may
    split at may
    · rename_i exact found
      rw [List.mem_singleton.mp may]
      exact List.mem_of_find?_eq_some found
    · exact (List.mem_filter.mp may).1
  exact List.mem_append_right _ (List.mem_map_of_mem listed)

theorem val_of_cluster (s : Arg) :
    (.option c arg ∈ (o.cluster s).1 → c ∈ o.vals) ∧ ((o.cluster s).2 = some c → c ∈ o.vals) := by
  induction s with
  | nil => simp [cluster]
  | cons d rest ih =>
      simp only [cluster]
      cases known : o.short.lookup d with
      | none => simpa using ih
      | some takes =>
          have listed := val_of_short known
          cases takes with
          | false =>
              simp only [List.mem_cons, Found.option.injEq]
              grind
          | true =>
              simp only
              split <;> grind

theorem val_of_longOption (body : Arg) :
    (.option c arg ∈ (o.longOption body).1 → c ∈ o.vals) ∧ ((o.longOption body).2 = some c → c ∈ o.vals) := by
  unfold longOption
  simp only
  split
  · simp
  · rename_i l others may
    have listed : l.val ∈ o.vals := val_of_candidates (may ▸ List.mem_cons_self)
    split
    · split <;> grind
    · simp

theorem val_of_element (arg : Option Arg) {a : Arg} {found : List Found} {wants : Option Char}
    (is : o.element a = .options found wants) :
    (.option c arg ∈ found → c ∈ o.vals) ∧ (wants = some c → c ∈ o.vals) := by
  unfold element at is
  split at is
  · cases is
  · cases is
    exact val_of_longOption _
  · rename_i d rest _ _
    cases is
    exact val_of_cluster (d :: rest)
  · cases is

/-- Nothing but the options of the tables is found. -/
theorem val_of_scan {posix : Bool} {args : List Arg} (inside : .option c arg ∈ (o.scan posix args).found) :
    c ∈ o.vals := by
  fun_induction o.scan posix args with
  | case1 => cases inside
  | case2 => cases inside
  | case3 a rest is _ after ih => exact ih inside
  | case4 => cases inside
  | case5 a rest found is after ih =>
      rcases List.mem_append.mp inside with here | later
      · exact (val_of_element _ is).1 here
      · exact ih later
  | case6 a found d is =>
      rcases List.mem_append.mp inside with here | later
      · exact (val_of_element _ is).1 here
      · cases List.mem_singleton.mp later
  | case7 a found d is b rest after ih =>
      rcases List.mem_append.mp inside with here | later
      · exact (val_of_element _ is).1 here
      · rcases List.mem_cons.mp later with this | later
        · cases this
          exact (val_of_element none is).2 rfl
        · exact ih later

end Options

end Support.Getopt
