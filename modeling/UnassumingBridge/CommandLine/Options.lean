import UnassumingBridge.CommandLine.Words
import UnassumingBridge.Support.Assignments

/-! # The options of a command

The grammar of what may follow a command, and how far its parser keeps to it. The
parser counts a key that lacks its value as an option, and goes on behind the end of
the arguments.
-/

namespace UnassumingBridge

open Support Assignments

section Grammar

variable {opts table : List Opt} {word : Str} {flag : OptFlag} {i : Nat}

/-- The word is the beginning of this option's key and of no other one, and the option
    is of this kind. -/
def Names (opts : List Opt) (word : Str) (flag : OptFlag) (i : Nat) : Prop :=
  ∃ o, Selects Opt.key word opts i o ∧ o.flag = flag

/-- The words are a list of options; for each of them the place in the table and the value. -/
inductive Items (opts : List Opt) : List Str → List (Nat × Str) → Prop where
  | nil : Items opts [] []
  | key {word : Str} {i : Nat} {rest : List Str} {items : List (Nat × Str)} :
      Names opts word .key i → Items opts rest items → Items opts (word :: rest) ((i, word) :: items)
  | keyval {word val : Str} {i : Nat} {rest : List Str} {items : List (Nat × Str)} :
      Names opts word .keyval i → Items opts rest items → Items opts (word :: val :: rest) ((i, val) :: items)

/-- The last word is a key whose value is missing. -/
def EndsInKey (opts : List Opt) (args : List Str) : Prop :=
  ∃ init key items i, args = init ++ [key] ∧ Items opts init items ∧ Names opts key .keyval i

/-- The table after the options: each holds the value it was given last. -/
def stored (opts : List Opt) (items : List (Nat × Str)) : List Opt :=
  opts.mapIdx fun i o => { o with val := (last items i).or o.val }

/-- What the parser never writes. -/
def shape (opts : List Opt) : List (Str × OptFlag) := opts.map fun o => (o.key, o.flag)

theorem findOpt_eq_some : findOpt opts word = some i ↔ ∃ o, Selects Opt.key word opts i o := by
  simp [findOpt, findPrefix_eq_some]

theorem names_iff : Names opts word flag i ↔ findOpt opts word = some i ∧ (opts[i]?).map Opt.flag = some flag := by
  rw [findOpt_eq_some]
  constructor
  · rintro ⟨o, selects, same⟩
    exact ⟨⟨o, selects⟩, by rw [selects.1, Option.map_some, same]⟩
  · rintro ⟨⟨o, selects⟩, same⟩
    rw [selects.1] at same
    exact ⟨o, selects, Option.some_inj.mp same⟩

theorem names_of_shape (same : shape table = shape opts) : Names table word flag i ↔ Names opts word flag i := by
  have entry (j : Nat) : (table[j]?).map (fun o => (o.key, o.flag)) = (opts[j]?).map fun o => (o.key, o.flag) := by
    rw [← List.getElem?_map, ← List.getElem?_map]
    exact congrArg (·[j]?) same
  have goes {a b : List Opt}
    (entry : ∀ j : Nat, (a[j]?).map (fun o => (o.key, o.flag)) = (b[j]?).map fun o => (o.key, o.flag))
      (names : Names a word flag i) : Names b word flag i := by
    obtain ⟨o, ⟨at_, matching, unique⟩, kind⟩ := names
    have here := entry i
    rw [at_, Option.map_some] at here
    obtain ⟨o', at', pair⟩ := Option.map_eq_some_iff.mp here.symm
    obtain ⟨key, flag⟩ := Prod.mk.inj pair
    refine ⟨o', ⟨at', by rwa [key], fun j b' atJ matchingJ => ?_⟩, flag.trans kind⟩
    have there := entry j
    rw [atJ, Option.map_some] at there
    obtain ⟨a', atJ', pair'⟩ := Option.map_eq_some_iff.mp there
    apply unique j a' atJ'
    rwa [(Prod.mk.inj pair').1]
  exact ⟨goes entry, goes fun j => (entry j).symm⟩

theorem shape_modify (opts : List Opt) (i : Nat) (val : Option Str) :
    shape (opts.modify i fun o => { o with val }) = shape opts := by
  unfold shape
  apply List.ext_getElem?
  intro j
  simp only [List.getElem?_map, List.getElem?_modify]
  cases opts[j]? with
  | none => rfl
  | some o =>
      by_cases here : i = j
      · simp [here]
      · simp [here]

@[simp] theorem stored_nil (opts : List Opt) : stored opts [] = opts := by
  unfold stored
  apply List.ext_getElem?
  intro j
  rw [List.getElem?_mapIdx]
  cases opts[j]? with
  | none => rfl
  | some o => rfl

theorem stored_cons (opts : List Opt) (i : Nat) (val : Str) (items : List (Nat × Str)) :
    stored opts ((i, val) :: items) = stored (opts.modify i fun o => { o with val := some val }) items := by
  unfold stored
  apply List.ext_getElem?
  intro j
  simp only [List.getElem?_mapIdx, List.getElem?_modify, last_cons]
  cases opts[j]? with
  | none => rfl
  | some o =>
      by_cases here : i = j
      · cases last items j <;> simp [here]
      · simp [here]

end Grammar

section Loop

variable {opts table : List Opt} {init : List Str} {items : List (Nat × Str)}

theorem Items.parseLoop_append (is : Items opts init items) (same : shape table = shape opts) (more : List Str)
    (optind : Nat) (cnt : Int) :
    parseLoop (init ++ more) table optind cnt =
      parseLoop more (stored table items) (optind + init.length) (cnt + items.length) := by
  induction is generalizing table optind cnt with
  | nil => simp
  | @key word i rest items names _ ih =>
      obtain ⟨found, kind⟩ := names_iff.mp ((names_of_shape same).mpr names)
      have step : parseLoop (word :: (rest ++ more)) table optind cnt =
          parseLoop (rest ++ more) (table.modify i fun o => { o with val := some word }) (optind + 1) (cnt + 1) := by
        simp only [parseLoop, found, kind]
      rw [List.cons_append, step, ih ((shape_modify _ _ _).trans same), stored_cons]
      congr 1
      · simp only [List.length_cons]
        omega
      · push_cast [List.length_cons]
        omega
  | @keyval word val i rest items names _ ih =>
      obtain ⟨found, kind⟩ := names_iff.mp ((names_of_shape same).mpr names)
      have step : parseLoop (word :: val :: (rest ++ more)) table optind cnt =
          parseLoop (rest ++ more) (table.modify i fun o => { o with val := some val }) (optind + 2) (cnt + 1) := by
        simp only [parseLoop, found, kind]
      rw [List.cons_append, List.cons_append, step, ih ((shape_modify _ _ _).trans same), stored_cons]
      congr 1
      · simp only [List.length_cons]
        omega
      · push_cast [List.length_cons]
        omega

theorem shape_stored (opts : List Opt) (items : List (Nat × Str)) : shape (stored opts items) = shape opts := by
  induction items generalizing opts with
  | nil => rw [stored_nil]
  | cons item items ih => rw [stored_cons, ih, shape_modify]

/-- A word that names no option, where an option is expected. -/
def Stumbles (opts : List Opt) (args : List Str) : Prop :=
  ∃ init items word rest, args = init ++ word :: rest ∧ Items opts init items ∧ findOpt opts word = none

/-- An item of the grammar before the rest changes nothing about how the rest ends. -/
private theorem ends_append (before : List Str) (given : List (Nat × Str)) {rest : List Str}
    (prepend : ∀ init items, Items opts init items → Items opts (before ++ init) (given ++ items))
    (ends : (∃ items, Items opts rest items) ∨ EndsInKey opts rest ∨ Stumbles opts rest) :
    (∃ items, Items opts (before ++ rest) items) ∨ EndsInKey opts (before ++ rest) ∨
    Stumbles opts (before ++ rest) := by
  rcases ends with ⟨items, is⟩ | ⟨init, key, items, i, rfl, is, names⟩ | ⟨init, items, word, rest, rfl, is, missing⟩
  · exact .inl ⟨_, prepend _ _ is⟩
  · exact .inr (.inl ⟨before ++ init, key, _, i, by simp, prepend _ _ is, names⟩)
  · exact .inr (.inr ⟨before ++ init, _, word, rest, by simp, prepend _ _ is, missing⟩)

theorem items_or_not (opts : List Opt) :
    ∀ args, (∃ items, Items opts args items) ∨ EndsInKey opts args ∨ Stumbles opts args
  | [] => .inl ⟨_, .nil⟩
  | word :: rest => by
      cases found : findOpt opts word with
      | none => exact .inr (.inr ⟨[], [], word, rest, rfl, .nil, found⟩)
      | some i =>
          obtain ⟨o, selects⟩ := findOpt_eq_some.mp found
          cases kind : o.flag with
          | key =>
              exact ends_append [word] [(i, word)] (fun _ _ is => .key ⟨o, selects, kind⟩ is)
                (items_or_not opts rest)
          | keyval =>
              cases rest with
              | nil => exact .inr (.inl ⟨[], word, [], i, rfl, .nil, o, selects, kind⟩)
              | cons val rest =>
                  exact ends_append [word, val] [(i, val)] (fun _ _ is => .keyval ⟨o, selects, kind⟩ is)
                    (items_or_not opts rest)

end Loop

section Parser

variable {opts : List Opt} {cmdl : Cmdl} {items : List (Nat × Str)}

theorem parseOpts_of_items (is : Items opts cmdl.left items) :
    parseOpts opts cmdl =
      ⟨[], .ok (items.length, stored opts items, { cmdl with optind := cmdl.optind + cmdl.left.length })⟩ := by
  have run := is.parseLoop_append rfl [] cmdl.optind 0
  rw [List.append_nil, parseLoop, Int.zero_add] at run
  unfold parseOpts
  rw [← Cmdl.left, run, Logged.pure_bind]
  rfl

/-- A key without its value is counted, and `optind` passes the end. -/
theorem parseOpts_of_endsInKey (ends : EndsInKey opts cmdl.left) :
    ∃ (n : Nat) (table : List Opt), parseOpts opts cmdl =
      ⟨[], .ok (n, table, { cmdl with optind := cmdl.optind + cmdl.left.length + 1 })⟩ := by
  obtain ⟨init, key, items, i, split, is, names⟩ := ends
  have run := is.parseLoop_append rfl [key] cmdl.optind 0
  obtain ⟨found, kind⟩ := names_iff.mp ((names_of_shape (shape_stored opts items)).mpr names)
  have last : parseLoop [key] (stored opts items) (cmdl.optind + init.length) (0 + items.length) =
      pure (0 + (items.length : Int) + 1, (stored opts items).modify i fun o => { o with val := none },
        cmdl.optind + init.length + 2) := by
    simp only [parseLoop, found, kind]
  have length : cmdl.optind + init.length + 2 = cmdl.optind + cmdl.left.length + 1 := by
    rw [split, List.length_append, List.length_singleton]
    omega
  refine ⟨items.length + 1, (stored opts items).modify i fun o => { o with val := none }, ?_⟩
  unfold parseOpts
  rw [← Cmdl.left, split, run, last, Logged.pure_bind, ← split, length, Int.zero_add]
  rfl

theorem findOpt_of_shape {table : List Opt} {word : Str} (same : shape table = shape opts)
    (missing : findOpt opts word = none) : findOpt table word = none := by
  cases found : findOpt table word with
  | none => rfl
  | some i =>
      obtain ⟨o, selects⟩ := findOpt_eq_some.mp found
      have names := (names_of_shape same).mp ⟨o, selects, rfl⟩
      cases missing.symm.trans (names_iff.mp names).1

theorem parseOpts_of_stumbles (stumbles : Stumbles opts cmdl.left) :
    ∃ word table optind, parseOpts opts cmdl =
      ⟨[.report (.invalidOption word)], .ok (-einval, table, { cmdl with optind })⟩ ∧
        optind ≤ cmdl.optind + cmdl.left.length := by
  obtain ⟨init, items, word, rest, split, is, missing⟩ := stumbles
  have run := is.parseLoop_append rfl (word :: rest) cmdl.optind 0
  have last : parseLoop (word :: rest) (stored opts items) (cmdl.optind + init.length) (0 + items.length) =
      ⟨[.report (.invalidOption word)], .ok (-einval, stored opts items, cmdl.optind + init.length)⟩ := by
    simp only [parseLoop, findOpt_of_shape (shape_stored opts items) missing]
    rfl
  refine ⟨word, stored opts items, cmdl.optind + init.length, ?_, ?_⟩
  · unfold parseOpts
    rw [← Cmdl.left, split, run, last]
    rfl
  · rw [split, List.length_append]
    omega

theorem parseOpts_of_whole (whole : ¬ Stumbles opts cmdl.left) :
    ∃ (n : Nat) (table : List Opt) (rest : Cmdl), parseOpts opts cmdl = ⟨[], .ok (n, table, rest)⟩ := by
  rcases items_or_not opts cmdl.left with ⟨items, is⟩ | ends | stumbles
  · exact ⟨_, _, _, parseOpts_of_items is⟩
  · obtain ⟨n, table, run⟩ := parseOpts_of_endsInKey ends
    exact ⟨n, table, _, run⟩
  · exact absurd stumbles whole

end Parser

section Exactness

variable {opts : List Opt} {front args : List Str}

/-- The parser on these words of a command line, with others before them. -/
def parsed (opts : List Opt) (front args : List Str) : Except ToolFault (Int × List Opt × Cmdl) :=
  (parseOpts opts ⟨front.length, front ++ args⟩).res

/-- The parser accepts these words just if they are in its grammar. -/
structure ParsedExactly (opts : List Opt) (front args : List Str) : Prop where
  counts : ∀ n : Nat, (∃ table cmdl, parsed opts front args = .ok (n, table, cmdl)) ↔
    ∃ items, Items opts args items ∧ items.length = n
  stores : ∀ items, Items opts args items →
    parsed opts front args = .ok (items.length, stored opts items, ⟨(front ++ args).length, front ++ args⟩)
  refuses : (¬ ∃ items, Items opts args items) → ∃ table cmdl, parsed opts front args = .ok (-einval, table, cmdl)
  inside : ∀ cnt table cmdl, parsed opts front args = .ok (cnt, table, cmdl) → cmdl.optind ≤ cmdl.argv.length

theorem left_append (front args : List Str) : (⟨front.length, front ++ args⟩ : Cmdl).left = args := by
  rw [Cmdl.left, List.drop_left]

theorem parsed_items (front : List Str) {items : List (Nat × Str)} (is : Items opts args items) :
    parsed opts front args = .ok (items.length, stored opts items, ⟨(front ++ args).length, front ++ args⟩) := by
  have left := left_append front args
  have run := parseOpts_of_items (left.symm ▸ is)
  rw [parsed, run, left, List.length_append]

theorem parsed_endsInKey (ends : EndsInKey opts args) :
    ∃ cnt table, parsed opts front args = .ok (cnt, table, ⟨(front ++ args).length + 1, front ++ args⟩) := by
  have left := left_append front args
  obtain ⟨n, table, run⟩ := parseOpts_of_endsInKey (left.symm ▸ ends)
  refine ⟨n, table, ?_⟩
  rw [parsed, run, left, List.length_append]

theorem parsed_stumbles (front : List Str) (stumbles : Stumbles opts args) :
    ∃ table optind, parsed opts front args = .ok (-einval, table, ⟨optind, front ++ args⟩) ∧
      optind ≤ (front ++ args).length := by
  have left := left_append front args
  obtain ⟨_, table, optind, run, within⟩ := parseOpts_of_stumbles (left.symm ▸ stumbles)
  rw [left] at within
  refine ⟨table, optind, ?_, ?_⟩
  · rw [parsed, run]
  · rwa [List.length_append]

/-- The parser keeps to its grammar if, and only if, the words do not end in a key whose value
    is missing. -/
theorem parsed_exactly_iff : ParsedExactly opts front args ↔ ¬ EndsInKey opts args := by
  constructor
  · intro exactly ends
    obtain ⟨cnt, table, run⟩ := parsed_endsInKey ends
    have inside := exactly.inside _ _ _ run
    simp only at inside
    omega
  · intro whole
    rcases items_or_not opts args with ⟨items, is⟩ | ends | stumbles
    · have run := parsed_items front is
      refine ⟨fun n => ⟨?_, ?_⟩, fun _ => parsed_items front, fun none => absurd ⟨items, is⟩ none, ?_⟩
      · rintro ⟨table, cmdl, same⟩
        have count : ((items.length : Int), _, _) = ((n : Int), table, cmdl) := Except.ok.inj (run.symm.trans same)
        have length := congrArg Prod.fst count
        exact ⟨items, is, by simp only at length; omega⟩
      · rintro ⟨items', is', rfl⟩
        exact ⟨_, _, parsed_items front is'⟩
      · intro cnt table cmdl same
        cases run.symm.trans same
        exact Nat.le_refl _
    · exact absurd ends whole
    · obtain ⟨table, optind, run, within⟩ := parsed_stumbles front stumbles
      refine ⟨fun n => ⟨?_, ?_⟩, fun _ => parsed_items front, fun _ => ⟨table, _, run⟩, ?_⟩
      · rintro ⟨table', cmdl, same⟩
        have count : (-einval, table, _) = ((n : Int), table', cmdl) := Except.ok.inj (run.symm.trans same)
        have negative := congrArg Prod.fst count
        simp only [einval] at negative
        omega
      · rintro ⟨items, is, rfl⟩
        exact ⟨_, _, parsed_items front is⟩
      · intro cnt table' cmdl same
        cases run.symm.trans same
        exact within

/-- The option `pvid` without its value counts as one option. -/
theorem parsed_too_far : ¬ ∀ opts front args, ParsedExactly opts front args := by
  intro always
  have inside := (always portSetOpts [] ["pvid".toList]).inside 1 portSetOpts ⟨2, ["pvid".toList]⟩ rfl
  simp at inside

end Exactness

end UnassumingBridge
