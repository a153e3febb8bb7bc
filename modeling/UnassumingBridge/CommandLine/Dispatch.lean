import UnassumingBridge.CommandLine.Words

/-! # The check that the bridge exists

`main` looks at the first word on its own before the table of commands does, to let the
command pass that creates the bridge. The two do not read abbreviations the same way.
-/

namespace UnassumingBridge

open Support

variable {env : ToolEnv} {args : List Str} {prog : Str} {word : Str} {rest : List Str}

/-- A command line without `-h` for a bridge that does not exist. -/
structure BridgeMissing (env : ToolEnv) (args : List Str) (word : Str) (rest : List Str) : Prop where
  valid : .invalid ∉ (scanned env args).found
  noHelp : ¬ AsksForHelp env args
  noBridge : bridgeIndex env args = 0
  words : (scanned env args).operands = word :: rest

/-- The word is one that `find_cmd` takes for `add`. -/
def ResolvesToAdd (env : ToolEnv) (word : Str) : Prop :=
  ∃ cmd, findCmd (ubrCmds env) word = some cmd ∧ cmd.cmd = "add".toList

/-- The request that creates the bridge. -/
def createBridge (env : ToolEnv) (args : List Str) : Tool Int := do
  msgInit2 env
  msgQueryNoCb env (.newlink (bridgeNamed (scanned env args).found "ubr0".toList) "ubr".toList)

/-- Of the commands only `add` gets past the check, and whatever names `add` does. -/
structure AgreesWithDispatch (env : ToolEnv) (prog : Str) (args : List Str) (word : Str) : Prop where
  only : ∀ cmd, findCmd (ubrCmds env) word = some cmd → ubrMain env prog args ≠ noBridgeRun env args →
    cmd.cmd = "add".toList
  creates : ResolvesToAdd env word → ubrMain env prog args = exitOf (createBridge env args)

theorem resolvesToAdd_iff : ResolvesToAdd env word ↔ word ≠ [] ∧ word <+: "add".toList := by
  unfold ResolvesToAdd
  constructor
  · rintro ⟨cmd, found, name⟩
    obtain ⟨_, letters, abbreviates⟩ := findCmd_ubr.mp found
    rw [name] at abbreviates
    exact ⟨letters, abbreviates⟩
  · intro abbreviates
    exact ⟨⟨"add".toList, cmdAdd env, .add⟩, findCmd_ubr.mpr ⟨by simp [ubrCmds], abbreviates⟩, rfl⟩

theorem notAdd_iff : notAdd word = true ↔ ¬ "ad".toList <+: word := by
  have two : "add".toList.take 2 = "ad".toList := by decide
  rw [notAdd, two, List.prefix_iff_eq_take, decide_eq_true_iff, ne_comm]
  rfl

/-- The one abbreviation of `add` that is too short for the check. -/
theorem short_add_iff (abbreviates : word ≠ [] ∧ word <+: "add".toList) :
    ¬ "ad".toList <+: word ↔ word = "a".toList := by
  obtain ⟨letters, abbreviates⟩ := abbreviates
  have four : word ∈ "add".toList.inits := (List.mem_inits _ _).mpr abbreviates
  have listed : "add".toList.inits = [[], "a".toList, "ad".toList, "add".toList] := by decide
  rw [listed] at four
  simp only [List.mem_cons, List.not_mem_nil, or_false] at four
  rcases four with rfl | rfl | rfl | rfl
  · exact absurd rfl letters
  all_goals decide

theorem createBridge_ne (env : ToolEnv) (args : List Str) : exitOf (createBridge env args) ≠ noBridgeRun env args := by
  intro same
  have log := congrArg Logged.log same
  rw [exitOf_log] at log
  unfold createBridge msgInit2 at log
  split at log
  · cases log
  · rw [Logged.pure_bind, msgQueryNoCb_log] at log
    split at log <;> cases log

/-- The check fails unless the word begins with `ad`. -/
theorem ubrMain_missing (prog : Str) (missing : BridgeMissing env args word rest) :
    (¬ "ad".toList <+: word → ubrMain env prog args = noBridgeRun env args) ∧
      ("ad".toList <+: word → ∃ cmdl : Cmdl, cmdl.left = word :: rest ∧
        ubrMain env prog args = exitOf (runCmd .about (ubrCmds env) (mainGlobals env args false) cmdl)) := by
  obtain ⟨cmdl, left, main⟩ := ubrMain_noHelp prog missing.valid missing.noHelp
  rw [missing.words] at left main
  have head : (word :: rest).head?.any notAdd = notAdd word := rfl
  simp only [head, notAdd_iff] at main
  constructor
  · intro other
    rw [main, if_pos ⟨missing.noBridge, other⟩]
  · intro begins
    have passes : ¬ (bridgeIndex env args = 0 ∧ ¬ "ad".toList <+: word) := fun fails => fails.2 begins
    exact ⟨cmdl, left, by rw [main, if_neg passes]⟩

theorem ubrMain_past (prog : Str) (missing : BridgeMissing env args word rest) (begins : "ad".toList <+: word) :
    (word <+: "add".toList → ubrMain env prog args = exitOf (createBridge env args)) ∧
      (¬ word <+: "add".toList → findCmd (ubrCmds env) word = none ∧ ubrMain env prog args ≠ noBridgeRun env args) := by
  obtain ⟨cmdl, left, main⟩ := (ubrMain_missing prog missing).2 begins
  have letters : word ≠ [] := by
    rintro rfl
    cases List.prefix_nil.mp begins
  constructor
  · intro abbreviates
    have found : findCmd (ubrCmds env) word = some ⟨"add".toList, cmdAdd env, .add⟩ :=
      findCmd_ubr.mpr ⟨by simp [ubrCmds], letters, abbreviates⟩
    rw [main, runCmd_found _ left found]
    rfl
  · intro other
    have unknown : findCmd (ubrCmds env) word = none := by
      cases found : findCmd (ubrCmds env) word with
      | none => rfl
      | some cmd =>
          obtain ⟨known, _, abbreviates⟩ := findCmd_ubr.mp found
          obtain ⟨more, same⟩ := begins
          have first : cmd.cmd.take 2 = "ad".toList := by
            obtain ⟨tail, whole⟩ := abbreviates
            rw [← whole, ← same]
            rfl
          simp only [ubrCmds, List.mem_cons, List.not_mem_nil, or_false] at known
          rcases known with rfl | rfl | rfl | rfl | rfl
          · exact absurd abbreviates other
          all_goals cases first
    refine ⟨unknown, ?_⟩
    rw [main, runCmd_missing _ left unknown]
    intro same
    cases congrArg Logged.log same

theorem goesOn_iff (missing : BridgeMissing env args word rest) :
    ubrMain env prog args ≠ noBridgeRun env args ↔ "ad".toList <+: word := by
  constructor
  · intro goesOn
    by_contra other
    exact goesOn ((ubrMain_missing prog missing).1 other)
  · intro begins
    obtain ⟨creates, unknown⟩ := ubrMain_past prog missing begins
    by_cases abbreviates : word <+: "add".toList
    · rw [creates abbreviates]
      exact createBridge_ne env args
    · exact (unknown abbreviates).2

theorem agrees_iff (missing : BridgeMissing env args word rest) :
    AgreesWithDispatch env prog args word ↔ word ≠ "a".toList := by
  constructor
  · rintro agrees rfl
    have created := agrees.creates (resolvesToAdd_iff.mpr ⟨by simp, by decide⟩)
    have failed : ubrMain env prog args = noBridgeRun env args := (ubrMain_missing prog missing).1 (by decide)
    exact createBridge_ne env args (created.symm.trans failed)
  · intro long
    constructor
    · intro cmd found goesOn
      have begins := (goesOn_iff missing).mp goesOn
      by_contra other
      have unnamed : ¬ word <+: "add".toList := by
        intro abbreviates
        have letters := (findCmd_ubr.mp found).2.1
        obtain ⟨add, known, name⟩ := resolvesToAdd_iff.mpr ⟨letters, abbreviates⟩
        cases known.symm.trans found
        exact other name
      cases ((ubrMain_past prog missing begins).2 unnamed).1.symm.trans found
    · intro resolves
      have abbreviates := resolvesToAdd_iff.mp resolves
      have begins : "ad".toList <+: word := by
        by_contra other
        exact long ((short_add_iff abbreviates).mp other)
      exact (ubrMain_past prog missing begins).1 abbreviates.2

/-- The check agrees with the table of commands for every word but `a`; and for one that
    begins with `ad` and is no abbreviation of `add` it lets the tool go on to no command. -/
theorem dispatch_agrees_iff (missing : BridgeMissing env args word rest) :
    (AgreesWithDispatch env prog args word ↔ word ≠ "a".toList) ∧
      (AgreesWithDispatch env prog args word ∧ (ubrMain env prog args ≠ noBridgeRun env args → ResolvesToAdd env word) ↔
        word ≠ "a".toList ∧ ("ad".toList <+: word → word <+: "add".toList)) := by
  refine ⟨agrees_iff missing, and_congr (agrees_iff missing) ?_⟩
  rw [goesOn_iff missing, resolvesToAdd_iff]
  apply imp_congr_right
  intro begins
  apply and_iff_right
  rintro rfl
  cases List.prefix_nil.mp begins

section Plays

/-- There is no interface at all. -/
def bareEnv : ToolEnv where
  ifNameToIndex _ := 0
  replies _ := [.ack]

theorem bareEnv_add : BridgeMissing bareEnv ["ad".toList] "ad".toList [] where
  valid := by decide
  noHelp := by
    rintro ⟨arg, inside⟩
    cases inside
  noBridge := rfl
  words := rfl

theorem dispatch_agrees_add : AgreesWithDispatch bareEnv "ubr".toList ["ad".toList] "ad".toList :=
  (dispatch_agrees_iff bareEnv_add).1.mpr (by decide)

/-- `ubr a` does not create the bridge. -/
theorem dispatch_disagrees :
    ¬ ∀ env prog args word rest, BridgeMissing env args word rest → AgreesWithDispatch env prog args word := by
  intro always
  have missing : BridgeMissing bareEnv ["a".toList] "a".toList [] := by
    refine ⟨by decide, ?_, rfl, rfl⟩
    rintro ⟨arg, inside⟩
    cases inside
  have agrees := always bareEnv "ubr".toList ["a".toList] "a".toList [] missing
  have created := agrees.creates ⟨⟨"add".toList, cmdAdd bareEnv, .add⟩, rfl, rfl⟩
  cases congrArg Logged.log created

end Plays

end UnassumingBridge
