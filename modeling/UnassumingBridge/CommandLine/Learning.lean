import UnassumingBridge.CommandLine.Options
import UnassumingBridge.CommandLine.VlanId

/-! # Boolean settings

`ubr vlan VID set learning X`. How much of a word is compared is written next to the word,
and the caller takes the value for an error as one that leaves the attribute out.
-/

namespace UnassumingBridge

open Support Numeral

section Words

variable {x y : Str}

/-- The words for 1, in lower case. -/
def onWords : List Str := ["on".toList, "true".toList]

/-- The words for 0, in lower case. -/
def offWords : List Str := ["off".toList, "false".toList]

/-- The string without regard to case. -/
def lower (s : Str) : Str := s.map Char.toLower

/-- Only the lower case of a string is looked at. -/
theorem atob_of_lower (y : Str) (same : lower x = lower y) : atob (some x) = atob (some y) := by
  have compared (word : Str) (len : Nat) : sameCaseless word x len = sameCaseless word y len := by
    have prefixes : (x.take len).map Char.toLower = (y.take len).map Char.toLower := by
      rw [List.map_take, List.map_take]
      exact congrArg (List.take len) same
    rw [sameCaseless, sameCaseless, prefixes]
  simp only [atob, compared]

theorem atob_on (on : lower x ∈ onWords) : atob (some x) = 1 := by
  simp only [onWords, List.mem_cons, List.not_mem_nil, or_false] at on
  rcases on with on | on
  · rw [atob_of_lower "on".toList on]
    decide
  · rw [atob_of_lower "true".toList on]
    decide

theorem atob_off (off : lower x ∈ offWords) : atob (some x) = 0 := by
  simp only [offWords, List.mem_cons, List.not_mem_nil, or_false] at off
  rcases off with off | off
  · rw [atob_of_lower "off".toList off]
    decide
  · rw [atob_of_lower "false".toList off]
    decide

/-- What is sent for the value of the option. -/
def sentLearning (x : Str) : Option (BitVec 32) :=
  if atob (some x) ≠ -1 then some (BitVec.ofInt 32 (atob (some x))) else none

theorem sentLearning_on (on : lower x ∈ onWords) : sentLearning x = some 1 := by
  rw [sentLearning, atob_on on]
  rfl

theorem sentLearning_off (off : lower x ∈ offWords) : sentLearning x = some 0 := by
  rw [sentLearning, atob_off off]
  rfl

end Words

section Command

variable {env : ToolEnv} {g : Globals} {help : Usage} {cmdl : Cmdl} {x : Str}

theorem sendVlan_log {cmd : UbrNlCmd} {vlan : VlanAttrs} {msg : GenlMsg}
    (begun : (msgInit env g cmd).res = .ok (some msg))
    (sends : env.sendFails (.genl { msg with vlan := some vlan }) = false) :
    (sendVlan env g cmd vlan).log = (msgInit env g cmd).log ++ [.send (.genl { msg with vlan := some vlan })] := by
  unfold sendVlan
  rw [Logged.bind_ok begun]
  simp only [msgDoit, msgQueryNoCb_log, sends, Bool.false_eq_true, if_false]

theorem parse_learning (left : cmdl.left = ["learning".toList, x]) :
    ∃ rest, parseOpts vlanSetOpts cmdl = ⟨[], .ok (1, stored vlanSetOpts [(0, x)], rest)⟩ := by
  have names : Names vlanSetOpts "learning".toList .keyval 0 := names_iff.mpr ⟨rfl, rfl⟩
  have items : Items vlanSetOpts cmdl.left [(0, x)] := left ▸ .keyval names .nil
  exact ⟨_, parseOpts_of_items items⟩

theorem cmdVlanSet_learning (left : cmdl.left = ["learning".toList, x]) (vid : g.vid ≠ 0) :
    cmdVlanSet env g help cmdl = sendVlan env g .vlanSet { vid := some g.vid, learning := sentLearning x } := by
  obtain ⟨rest, run⟩ := parse_learning left
  have attr : learningAttr (stored vlanSetOpts [(0, x)]) = sentLearning x := rfl
  unfold cmdVlanSet needVid
  rw [if_neg vid, run, Logged.bind_ok rfl]
  simp only [attr]
  rfl

end Command

section Main

variable {env : ToolEnv} {args : List Str} {prog : Str} {vid x : Str} {family : Int}

/-- The command's request. -/
def learningMsg (env : ToolEnv) (args : List Str) (vid : Str) (learning : Option (BitVec 32)) (family : Int) :
    GenlMsg :=
  { blankMsg (mainGlobals env args false) .vlanSet family with
    vlan := some { vid := some (BitVec.ofNat 16 (value vid)), learning } }

/-- The tool's command line is `vlan VID set learning X`, and nothing but X can keep the
    request from going out. -/
structure SetsLearning (env : ToolEnv) (args : List Str) (vid x : Str) (family : Int) : Prop where
  words : (scanned env args).operands = ["vlan".toList, vid, "set".toList, "learning".toList, x]
  valid : .invalid ∉ (scanned env args).found
  noHelp : ¬ AsksForHelp env args
  bridge : bridgeIndex env args ≠ 0
  legal : LegalVid vid
  memory : env.callocFails = false
  known : (getFamily env).res = .ok family
  positive : 0 < family
  sends : ∀ learning, env.sendFails (.genl (learningMsg env args vid learning family)) = false

/-- A `VLAN_SET` request with this value of `LEARNING` goes out. -/
def SendsLearning (run : Tool Int) (learning : BitVec 32) : Prop :=
  ∃ msg : GenlMsg, .send (.genl msg) ∈ run.log ∧ msg.cmd = .vlanSet ∧ msg.vlan.bind VlanAttrs.learning = some learning

/-- The value is sent that the word stands for, and for another string the command fails
    without its request. -/
structure LearningExact (run : Tool Int) (x : Str) : Prop where
  on : SendsLearning run 1 ↔ lower x ∈ onWords
  off : SendsLearning run 0 ↔ lower x ∈ offWords
  others : lower x ∉ onWords ++ offWords → (∀ msg, .send (.genl msg) ∉ run.log) ∧
    ∃ status, run.res = .ok status ∧ status ≠ 0

theorem findCmd_vlanSet : findCmd (vlanCmds env) "set".toList = some ⟨"set".toList, cmdVlanSet env, .vlanSet⟩ := rfl

theorem ubrMain_learning (prog : Str) (sets : SetsLearning env args vid x family) (msg : GenlMsg) :
    .send (.genl msg) ∈ (ubrMain env prog args).log ↔ msg = learningMsg env args vid (sentLearning x) family := by
  have names : NamesVlan env args vid ["set".toList, "learning".toList, x] := ⟨_, sets.words, by simp, List.prefix_rfl⟩
  have converts := converts_of_legal sets.legal
  obtain ⟨cmdl, left, main⟩ := ubrMain_vlan prog sets.valid sets.noHelp sets.bridge names
  set g : Globals := { mainGlobals env args false with vid := vidOperand vid } with globals
  have nonzero : g.vid ≠ 0 := vidOperand_ne_zero converts
  have begun : (msgInit env g .vlanSet).res = .ok (some (blankMsg g .vlanSet family)) :=
    msgInit_some.mpr ⟨sets.memory, family, sets.known, sets.positive, rfl⟩
  have own :
      ({ blankMsg g .vlanSet family with vlan := some { vid := some g.vid, learning := sentLearning x } } : GenlMsg) =
      learningMsg env args vid (sentLearning x) family := by
    have number : g.vid = BitVec.ofNat 16 (value vid) := vidOperand_of_legal sets.legal
    rw [number]
    rfl
  have sends := sets.sends (sentLearning x)
  rw [← own] at sends
  have command : runCmd .vlan (vlanCmds env) g cmdl = cmdVlanSet env g .vlanSet cmdl.next :=
    runCmd_found g left findCmd_vlanSet
  rw [main, exitOf_log, if_pos converts, command, cmdVlanSet_learning (Cmdl.left_next left) nonzero,
    sendVlan_log begun sends, own]
  constructor
  · intro inside
    rcases List.mem_append.mp inside with before | last
    · cases msgInit_quiet env g .vlanSet _ before
    · cases List.mem_singleton.mp last
      rfl
  · rintro rfl
    exact List.mem_append_right _ (List.mem_singleton_self _)

theorem sendsLearning_iff (sets : SetsLearning env args vid x family) (learning : BitVec 32) :
    SendsLearning (ubrMain env prog args) learning ↔ sentLearning x = some learning := by
  constructor
  · rintro ⟨msg, inside, _, value⟩
    rw [(ubrMain_learning prog sets msg).mp inside] at value
    exact value
  · intro value
    exact ⟨_, (ubrMain_learning prog sets _).mpr rfl, rfl, value⟩

/-- The setting is recognised exactly if, and only if, it is one of the four words. -/
theorem learning_exact_iff (sets : SetsLearning env args vid x family) :
    LearningExact (ubrMain env prog args) x ↔ lower x ∈ onWords ++ offWords := by
  constructor
  · intro exactly
    by_contra other
    exact (exactly.others other).1 _ ((ubrMain_learning prog sets _).mpr rfl)
  · intro word
    refine ⟨?_, ?_, fun other => absurd word other⟩
    · rw [sendsLearning_iff sets]
      constructor
      · intro sent
        rcases List.mem_append.mp word with on | off
        · exact on
        · cases (sentLearning_off off).symm.trans sent
      · exact sentLearning_on
    · rw [sendsLearning_iff sets]
      constructor
      · intro sent
        rcases List.mem_append.mp word with on | off
        · cases (sentLearning_on on).symm.trans sent
        · exact off
      · exact sentLearning_off

section Plays

def learningArgs (x : Str) : List Str := ["vlan".toList, "10".toList, "set".toList, "learning".toList, x]

theorem helpfulEnv_sets {x : Str} (operand : (scanned helpfulEnv (learningArgs x)).operands = learningArgs x)
    (none : (scanned helpfulEnv (learningArgs x)).found = []) :
    SetsLearning helpfulEnv (learningArgs x) "10".toList x 20 where
  words := operand
  valid := by rw [none]; simp
  noHelp := by
    rintro ⟨arg, inside⟩
    rw [none] at inside
    cases inside
  bridge := by
    rw [bridgeIndex, none]
    decide
  legal := by
    have ten : value "10".toList = 10 := rfl
    exact ⟨⟨by simp, by simp⟩, by omega, by omega⟩
  memory := rfl
  known := rfl
  positive := by decide
  sends _ := rfl

theorem learning_exact_on : LearningExact (ubrMain helpfulEnv "ubr".toList (learningArgs "On".toList)) "On".toList :=
  (learning_exact_iff (helpfulEnv_sets rfl rfl)).mpr (by decide)

/-- `learning tru` turns learning on. -/
theorem learning_inexact :
    ¬ ∀ env prog args vid x family, SetsLearning env args vid x family → LearningExact (ubrMain env prog args) x := by
  intro always
  have exactly :=
    always helpfulEnv "ubr".toList (learningArgs "tru".toList) "10".toList "tru".toList 20 (helpfulEnv_sets rfl rfl)
  have sent : SendsLearning (ubrMain helpfulEnv "ubr".toList (learningArgs "tru".toList)) 1 :=
    ⟨learningMsg helpfulEnv (learningArgs "tru".toList) "10".toList (some 1) 20, by decide, rfl, rfl⟩
  have word := exactly.on.mp sent
  revert word
  decide

end Plays

end Main

end UnassumingBridge
