import UnassumingBridge.CommandLine.Words

/-! # The operand VID

From the operand of `vlan` to the VLAN in the request. The conversion takes the longest
numeral at the beginning and keeps 32 bits of it, and what is left is tested; the string
is not.
-/

namespace UnassumingBridge

open Support Numeral

section Conversion

variable {s : Str}

/-- A VLAN in decimal. -/
def LegalVid (s : Str) : Prop := IsNumeral s ∧ 1 ≤ value s ∧ value s ≤ 4095

/-- What `atoi` makes of the string is a VLAN. -/
def ConvertsToVid (s : Str) : Prop := 1 ≤ (atoi s).toInt ∧ (atoi s).toInt ≤ 4095

instance : Decidable (ConvertsToVid s) := inferInstanceAs (Decidable (_ ∧ _))

theorem vidOperand_rejected : ((vidOperand s).toNat < 1 ∨ (vidOperand s).toNat > 4095) ↔ ¬ ConvertsToVid s := by
  unfold vidOperand ConvertsToVid
  simp only
  split
  · rename_i outside
    have zero : (BitVec.ofInt 16 0).toNat = 0 := rfl
    rw [zero]
    omega
  · rename_i inside
    rw [BitVec.toNat_ofInt]
    omega

theorem atoi_of_legal (legal : LegalVid s) : (atoi s).toInt = value s := by
  obtain ⟨numeral, least, most⟩ := legal
  rw [atoi_of_isNumeral numeral (by omega), BitVec.toInt_ofNat', Int.bmod_def]
  omega

theorem converts_of_legal (legal : LegalVid s) : ConvertsToVid s := by
  unfold ConvertsToVid
  rw [atoi_of_legal legal]
  obtain ⟨_, least, most⟩ := legal
  omega

theorem vidOperand_of_legal (legal : LegalVid s) : vidOperand s = BitVec.ofNat 16 (value s) := by
  have same := atoi_of_legal legal
  obtain ⟨_, least, most⟩ := legal
  have inside : ¬ ((value s : Int) < 0 ∨ (value s : Int) > 65535) := by omega
  unfold vidOperand
  simp only [same, inside, if_false, BitVec.ofInt_natCast]

theorem vidOperand_ne_zero (converts : ConvertsToVid s) : vidOperand s ≠ 0 := by
  intro zero
  have rejected := @vidOperand_rejected s
  rw [zero] at rejected
  exact rejected.mp (.inl (by decide)) converts

end Conversion

section Commands

variable {env : ToolEnv} {g : Globals} {help : Usage} {cmdl : Cmdl} {p : ToolEvent → Prop}

/-- What is said does not matter: the requests are the one for the family and those that
    name the VLAN. -/
theorem vlanParts_every (spoken : ∀ e, (∀ msg, e ≠ .send msg) → p e) (family : p (.send .getFamily))
    (own : ∀ msg : GenlMsg, msg.vlan.bind VlanAttrs.vid = some g.vid → p (.send (.genl msg))) :
    VlanParts env g (Logged.Every p) where
  refuse _ := refuse_every (spoken _ (by simp)) g _
  missing _ := .bind (.emit (spoken _ (by simp))) fun _ _ => .pure _
  interface _ := .bind (.emit (spoken _ (by simp))) fun _ _ => .pure _
  parse opts cmdl _ rest := .bind (parseOpts_every (fun _ => spoken _ (by simp)) opts cmdl) fun out _ => rest out
  send cmd vlan named := by
    apply sendVlan_every ⟨family, spoken _ (by simp), spoken _ (by simp), spoken _ (by simp)⟩
    intro msg given
    apply own
    rw [given]
    exact named

theorem cmdVlan_operand (env : ToolEnv) (g : Globals) (help : Usage) {s : Str} {words : List Str}
    (noHelp : g.helpFlag = false) (left : cmdl.left = s :: words) :
    cmdVlan env g help cmdl =
      if ConvertsToVid s then runCmd help (vlanCmds env) { g with vid := vidOperand s } cmdl.next
      else ⟨[.report (.invalidVlan s)], .ok (-einval)⟩ := by
  simp only [cmdVlan, noHelp, Bool.false_eq_true, if_false, shiftCmdl_left left, vidOperand_rejected]
  by_cases converts : ConvertsToVid s
  · simp only [converts, not_true_eq_false, if_false, if_true]
  · simp only [converts, not_false_eq_true, if_true, if_false]
    rfl

end Commands

section Main

variable {env : ToolEnv} {args : List Str} {prog : Str} {s : Str} {words : List Str}

/-- The tool's command line is `vlan VID` with these words behind it. The command may be
    abbreviated. -/
def NamesVlan (env : ToolEnv) (args : List Str) (s : Str) (words : List Str) : Prop :=
  ∃ vlan, (scanned env args).operands = vlan :: s :: words ∧ vlan ≠ [] ∧ vlan <+: "vlan".toList

/-- The request for the family, or one that names this VLAN. -/
def AboutVlan (vid : Vid) : NlMsg → Prop
  | .getFamily => True
  | .genl msg => msg.vlan.bind VlanAttrs.vid = some vid
  | _ => False

/-- Requests go out for a VLAN in decimal only, and are about that one; every other string is
    rejected. -/
structure ActsOnVlan (run : Tool Int) (s : Str) : Prop where
  sends : ∀ msg, .send msg ∈ run.log → LegalVid s ∧ AboutVlan (BitVec.ofNat 16 (value s)) msg
  rejects : ¬ LegalVid s → (∀ msg, .send msg ∉ run.log) ∧ run.res = .ok 1

theorem ActsOnVlan.of_silent {run : Tool Int} (silent : ∀ msg, .send msg ∉ run.log) (res : run.res = .ok 1) :
    ActsOnVlan run s :=
  ⟨fun msg inside => absurd inside (silent msg), fun _ => ⟨silent, res⟩⟩

/-- Under `-h` the operand is taken for a command. -/
theorem vlan_help_silent (env : ToolEnv) (g : Globals) (help : Usage) {cmdl : Cmdl} (flag : g.helpFlag = true)
    (noVid : g.vid = 0) (left : cmdl.left = s :: words) :
    (∀ msg, .send msg ∉ (cmdVlan env g help cmdl).log) ∧ (cmdVlan env g help cmdl).res = .ok (-einval) := by
  simp only [cmdVlan, flag, if_true]
  cases found : findCmd (vlanCmds env) s with
  | none =>
      rw [runCmd_missing g left found]
      simp [flag]
  | some cmd =>
      rw [runCmd_found g left found, vlanCmds_noVid noVid cmd (mem_of_findCmd found)]
      simp [flag]

theorem vlan_requests {g : Globals} {help : Usage} {cmdl : Cmdl} {msg : NlMsg}
    (inside : .send msg ∈ (runCmd help (vlanCmds env) g cmdl).log) : AboutVlan g.vid msg := by
  have parts : VlanParts env g (Logged.Every fun e => ∀ msg, e = .send msg → AboutVlan g.vid msg) := by
    apply vlanParts_every
    · intro e spoken msg same
      exact absurd same (spoken msg)
    · intro msg same
      cases same
      trivial
    · intro msg own msg' same
      cases same
      exact own
  cases left : cmdl.left with
  | nil =>
      rw [runCmd_end g left] at inside
      simp at inside
  | cons word rest =>
      cases found : findCmd (vlanCmds env) word with
      | none =>
          rw [runCmd_missing g left found, List.mem_singleton] at inside
          split at inside <;> cases inside
      | some cmd =>
          rw [runCmd_found g left found] at inside
          exact vlanCmds_of_parts parts cmd (mem_of_findCmd found) _ _ inside msg rfl

theorem ubrMain_vlan (prog : Str) (valid : .invalid ∉ (scanned env args).found) (noHelp : ¬ AsksForHelp env args)
    (bridge : bridgeIndex env args ≠ 0) (names : NamesVlan env args s words) :
    ∃ cmdl : Cmdl, cmdl.left = words ∧
      ubrMain env prog args = exitOf (
        if ConvertsToVid s then
          runCmd .vlan (vlanCmds env) { mainGlobals env args false with vid := vidOperand s } cmdl
        else ⟨[.report (.invalidVlan s)], .ok (-einval)⟩) := by
  obtain ⟨vlan, operands, letters, abbreviates⟩ := names
  obtain ⟨cmdl, left, main⟩ := ubrMain_bridge prog valid noHelp bridge operands (findCmd_vlan ⟨letters, abbreviates⟩)
  have command := cmdVlan_operand env (mainGlobals env args false) .vlan rfl left
  exact ⟨cmdl.next, Cmdl.left_next left, main.trans (congrArg exitOf command)⟩

theorem vlan_acts (names : NamesVlan env args s words) (sound : LegalVid s ∨ ¬ ConvertsToVid s) :
    ActsOnVlan (ubrMain env prog args) s := by
  have ⟨vlan, operands, letters, abbreviates⟩ := names
  by_cases invalid : .invalid ∈ (scanned env args).found
  · rw [ubrMain_invalid invalid]
    exact .of_silent (by simp) rfl
  by_cases asks : AsksForHelp env args
  · obtain ⟨cmdl, left, main⟩ := ubrMain_help prog invalid asks
    rw [operands] at left
    obtain ⟨silent, res⟩ := vlan_help_silent env (mainGlobals env args true) .vlan rfl rfl (Cmdl.left_next left)
    rw [main, runCmd_found _ left (findCmd_vlan ⟨letters, abbreviates⟩)]
    exact .of_silent (by rwa [exitOf_log]) (by rw [exitOf_res, res]; rfl)
  by_cases bridge : bridgeIndex env args = 0
  · obtain ⟨cmdl, left, main⟩ := ubrMain_noHelp prog invalid asks
    have head : (scanned env args).operands.head?.any notAdd = true := by
      rw [operands]
      exact notAdd_of_head letters abbreviates (by simp)
    rw [main, if_pos ⟨bridge, head⟩]
    exact .of_silent (by simp [noBridgeRun]) rfl
  obtain ⟨cmdl, left, main⟩ := ubrMain_vlan prog invalid asks bridge names
  rw [main]
  by_cases converts : ConvertsToVid s
  · have legal : LegalVid s := sound.resolve_right (not_not_intro converts)
    refine ⟨fun msg inside => ⟨legal, ?_⟩, fun other => absurd legal other⟩
    rw [exitOf_log, if_pos converts] at inside
    rw [← vidOperand_of_legal legal]
    exact vlan_requests inside
  · rw [if_neg converts]
    exact .of_silent (by simp) rfl

/-- The options end at `--`, so any string can be the operand. -/
def addArgs (s : Str) : List Str := ["--".toList, "vlan".toList, s, "add".toList]

theorem addArgs_sends (converts : ConvertsToVid s) :
    .send .getFamily ∈ (ubrMain helpfulEnv "ubr".toList (addArgs s)).log := by
  have names : NamesVlan helpfulEnv (addArgs s) s ["add".toList] := ⟨"vlan".toList, rfl, by simp, List.prefix_rfl⟩
  have valid : .invalid ∉ (scanned helpfulEnv (addArgs s)).found := by
    intro inside
    cases inside
  have noHelp : ¬ AsksForHelp helpfulEnv (addArgs s) := by
    rintro ⟨arg, inside⟩
    cases inside
  have bridge : bridgeIndex helpfulEnv (addArgs s) ≠ 0 := by
    have five : bridgeIndex helpfulEnv (addArgs s) = 5 := rfl
    rw [five]
    decide
  obtain ⟨cmdl, left, main⟩ := ubrMain_vlan "ubr".toList valid noHelp bridge names
  have add : findCmd (vlanCmds helpfulEnv) "add".toList = some ⟨"add".toList, cmdVlanAdd helpfulEnv, .vlanAdd⟩ := rfl
  rw [main, exitOf_log, if_pos converts, runCmd_found _ left add]
  simp only [cmdVlanAdd, needVid, vidOperand_ne_zero converts, if_false]
  apply Logged.mem_log_left
  have asked (g : Globals) : (msgInit helpfulEnv g .vlanAdd).log = [.send .getFamily] := rfl
  rw [asked]
  exact List.mem_singleton_self _

/-- Every command on VLANs does what it should for a string if, and only if, the string is a
    VLAN in decimal or is not converted to a VLAN. -/
theorem vlan_acts_iff (s : Str) :
    (∀ env prog args words, NamesVlan env args s words → ActsOnVlan (ubrMain env prog args) s) ↔
      LegalVid s ∨ ¬ ConvertsToVid s := by
  constructor
  · intro acts
    by_cases converts : ConvertsToVid s
    · have run := acts helpfulEnv "ubr".toList (addArgs s) ["add".toList] ⟨"vlan".toList, rfl, by simp, List.prefix_rfl⟩
      exact .inl (run.sends _ (addArgs_sends converts)).1
    · exact .inr converts
  · intro sound env prog args words names
    exact vlan_acts names sound

/-- `ubr vlan 10abc add` adds the VLAN 10. -/
theorem vlan_acts_on_text :
    ¬ ∀ s env prog args words, NamesVlan env args s words → ActsOnVlan (ubrMain env prog args) s := by
  intro always
  have run := always "10abc".toList helpfulEnv "ubr".toList ["vlan".toList, "10abc".toList, "add".toList] ["add".toList]
    ⟨"vlan".toList, rfl, by simp, List.prefix_rfl⟩
  have legal := (run.sends .getFamily (by decide)).1
  have digit := legal.1.2 'a' (by decide)
  cases digit

end Main

end UnassumingBridge
