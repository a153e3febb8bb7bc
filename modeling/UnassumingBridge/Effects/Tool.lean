import UnassumingBridge.Tool.Main

/-! # What the parts of the tool do

Which entry of a table a word selects, what the option parser makes of a list of
arguments, and which parts of the tool send nothing that could change the kernel.
-/

namespace UnassumingBridge

open Support

variable {α β : Type}

section Find

variable {key : α → Str} {str : Str}

/-- The word is a prefix of the key of this entry and of no other one. -/
def Selects (key : α → Str) (str : Str) (l : List α) (i : Nat) (a : α) : Prop :=
  l[i]? = some a ∧ str <+: key a ∧ ∀ j b, l[j]? = some b → str <+: key b → j = i

private theorem findPrefix_again (l : List α) (found i : Nat) :
    findPrefix key str l (some found) i = some found ∧ (∀ a ∈ l, ¬ str <+: key a) ∨
      findPrefix key str l (some found) i = none ∧ ∃ a ∈ l, str <+: key a := by
  induction l generalizing i with
  | nil => simp [findPrefix]
  | cons a rest ih =>
      by_cases here : str <+: key a
      · exact .inr ⟨by simp [findPrefix, here], a, List.mem_cons_self, here⟩
      · simpa [findPrefix, here] using ih (i + 1)

theorem findPrefix_eq_some (l : List α) (k i : Nat) :
    findPrefix key str l none k = some i ↔ ∃ n a, i = k + n ∧ Selects key str l n a := by
  induction l generalizing k with
  | nil => simp [findPrefix, Selects]
  | cons a rest ih =>
      by_cases here : str <+: key a
      · have first : findPrefix key str (a :: rest) none k = findPrefix key str rest (some k) (k + 1) := by
          simp [findPrefix, here]
        rw [first]
        constructor
        · intro found
          rcases findPrefix_again rest k (k + 1) with ⟨same, others⟩ | ⟨missing, _⟩
          · rw [same] at found
            cases found
            refine ⟨0, a, rfl, rfl, here, fun j b at_ matching => ?_⟩
            cases j with
            | zero => rfl
            | succ j => exact absurd matching (others b (List.mem_of_getElem? at_))
          · rw [missing] at found
            cases found
        · rintro ⟨n, b, rfl, at_, _, unique⟩
          have zero := unique 0 a rfl here
          subst zero
          rcases findPrefix_again rest k (k + 1) with ⟨same, _⟩ | ⟨_, c, inside, matching⟩
          · exact same
          · obtain ⟨j, at_⟩ := List.mem_iff_getElem?.mp inside
            have wrong := unique (j + 1) c at_ matching
            omega
      · have later : findPrefix key str (a :: rest) none k = findPrefix key str rest none (k + 1) := by
          simp [findPrefix, here]
        rw [later, ih (k + 1)]
        constructor
        · rintro ⟨n, b, rfl, at_, matching, unique⟩
          refine ⟨n + 1, b, by omega, at_, matching, fun j c at_ matching => ?_⟩
          cases j with
          | zero =>
              cases at_
              exact absurd matching here
          | succ j => rw [unique j c at_ matching]
        · rintro ⟨n, b, rfl, at_, matching, unique⟩
          cases n with
          | zero =>
              cases at_
              exact absurd matching here
          | succ n =>
              refine ⟨n, b, by omega, at_, matching, fun j c at_ matching => ?_⟩
              have next := unique (j + 1) c at_ matching
              omega

theorem findCmd_eq_some {cmds : List Cmd} {cmd : Cmd} :
    findCmd cmds str = some cmd ↔ ∃ i, Selects Cmd.cmd str cmds i cmd := by
  simp only [findCmd, Option.bind_eq_bind, Option.bind_eq_some_iff, findPrefix_eq_some, Nat.zero_add]
  constructor
  · rintro ⟨i, ⟨n, a, rfl, selects⟩, at_⟩
    cases selects.1.symm.trans at_
    exact ⟨i, selects⟩
  · rintro ⟨i, selects⟩
    exact ⟨i, ⟨i, cmd, rfl, selects⟩, selects.1⟩

/-- Where the entries begin with different letters one letter is enough. -/
theorem findCmd_of_heads {cmds : List Cmd} {cmd : Cmd} (several : 2 ≤ cmds.length)
    (heads : cmds.Pairwise fun a b => a.cmd.head? ≠ b.cmd.head?) :
    findCmd cmds str = some cmd ↔ cmd ∈ cmds ∧ str ≠ [] ∧ str <+: cmd.cmd := by
  rw [findCmd_eq_some]
  constructor
  · rintro ⟨i, at_, matching, unique⟩
    refine ⟨List.mem_of_getElem? at_, ?_, matching⟩
    rintro rfl
    have first := unique 0 _ (List.getElem?_eq_getElem (by omega)) (List.nil_prefix)
    have second := unique 1 _ (List.getElem?_eq_getElem (by omega)) (List.nil_prefix)
    omega
  · rintro ⟨inside, letters, matching⟩
    obtain ⟨i, at_⟩ := List.mem_iff_getElem?.mp inside
    refine ⟨i, at_, matching, fun j other at' matching' => ?_⟩
    have same : other.cmd.head? = cmd.cmd.head? := by
      cases str with
      | nil => exact absurd rfl letters
      | cons c rest =>
          obtain ⟨t, eq⟩ := matching
          obtain ⟨t', eq'⟩ := matching'
          rw [← eq, ← eq']
          rfl
    obtain ⟨inJ, atJ⟩ := List.getElem?_eq_some_iff.mp at'
    obtain ⟨inI, atI⟩ := List.getElem?_eq_some_iff.mp at_
    rw [List.pairwise_iff_getElem] at heads
    rcases Nat.lt_trichotomy i j with before | here | after
    · have apart := heads i j inI inJ before
      rw [atI, atJ] at apart
      exact absurd same.symm apart
    · exact here.symm
    · have apart := heads j i inJ inI after
      rw [atI, atJ] at apart
      exact absurd same apart

theorem mem_of_findCmd {cmds : List Cmd} {cmd : Cmd} (found : findCmd cmds str = some cmd) : cmd ∈ cmds := by
  obtain ⟨i, selects⟩ := findCmd_eq_some.mp found
  exact List.mem_of_getElem? selects.1

end Find

section Every

variable {env : ToolEnv} {g : Globals} {msg : NlMsg} {p : ToolEvent → Prop}

theorem refuse_every {help : Usage} (helps : p (.usage help)) (g : Globals) (ret : Int) :
    Logged.Every p (do
      if g.helpFlag then Logged.emit (.usage help)
      pure ret : Tool Int) := by
  simp only
  split
  · exact .bind (.emit helps) fun _ _ => .pure _
  · exact .pure _

theorem parseLoop_every (complains : ∀ arg, p (.report (.invalidOption arg))) (args : List Str)
    (opts : List Opt) (optind : Nat) (cnt : Int) : Logged.Every p (parseLoop args opts optind cnt) := by
  fun_induction parseLoop args opts optind cnt with
  | case1 => exact .pure _
  | case2 arg rest opts optind cnt missing => exact .bind (.emit (complains arg)) fun _ _ => .pure _
  | case3 => exact .pure _
  | case4 => assumption
  | case5 => assumption

theorem parseOpts_every (complains : ∀ arg, p (.report (.invalidOption arg))) (opts : List Opt)
    (cmdl : Cmdl) : Logged.Every p (parseOpts opts cmdl) :=
  .bind (parseLoop_every complains _ _ _ _) fun _ _ => .pure _

/-- What the tool says or asks on the way to a request of the family. -/
structure OnTheWay (p : ToolEvent → Prop) : Prop where
  family : p (.send .getFamily)
  noSocket : p (.report .noSocket)
  noFamily : p (.report .noFamily)
  initFailed : p (.report .initFailed)

theorem msgSend_every (sent : p (.send msg)) (noSocket : p (.report .noSocket)) : Logged.Every p (msgSend env msg) := by
  unfold msgSend
  split
  · exact .bind (.emit noSocket) fun _ _ => .pure _
  · exact .bind (.emit sent) fun _ _ => .pure _

theorem msgQuery_every {σ : Type} {callback : σ → List CtrlAttr → Except ToolFault (σ × Int)} {data : σ}
    (sent : p (.send msg)) (noSocket : p (.report .noSocket)) : Logged.Every p (msgQuery env msg callback data) := by
  apply Logged.Every.bind (msgSend_every sent noSocket)
  intro out _
  split
  · exact .lift _
  · exact .pure _

theorem msgQueryNoCb_every (sent : p (.send msg)) (noSocket : p (.report .noSocket)) :
    Logged.Every p (msgQueryNoCb env msg) :=
  .bind (msgQuery_every sent noSocket) fun _ _ => .pure _

theorem msgInit_every (way : OnTheWay p) (g : Globals) (cmd : UbrNlCmd) : Logged.Every p (msgInit env g cmd) := by
  have family : Logged.Every p (getFamily env) := by
    apply Logged.Every.bind (msgQuery_every way.family way.noSocket)
    intro out _
    simp only
    split
    · exact .pure _
    · split
      · exact .lift _
      · exact .pure _
  apply Logged.Every.bind
  · unfold initGenl
    split
    · exact .pure _
    · apply Logged.Every.bind family
      intro type _
      split
      · exact .bind (.emit way.noFamily) fun _ _ => .pure _
      · exact .pure _
  · intro type _
    split <;> exact .pure _

theorem request_every {rest : Option GenlMsg → Tool Int} {build : GenlMsg → GenlMsg} (way : OnTheWay p) (cmd : UbrNlCmd)
    (failed : rest none = do
      Logged.emit (.report .initFailed)
      pure (-1))
    (sends : ∀ msg, rest (some msg) = msgDoit env (build msg)) (own : ∀ msg, p (.send (.genl (build msg)))) :
    Logged.Every p (msgInit env g cmd >>= rest) := by
  apply Logged.Every.bind (msgInit_every way g cmd)
  intro msg _
  cases msg with
  | none =>
      rw [failed]
      exact .bind (.emit way.initFailed) fun _ _ => .pure _
  | some msg =>
      rw [sends]
      exact msgQueryNoCb_every (own msg) way.noSocket

/-- A command on a VLAN sends one request, with these attributes. -/
theorem sendVlan_every {vlan : VlanAttrs} (way : OnTheWay p)
    (own : ∀ msg : GenlMsg, msg.vlan = some vlan → p (.send (.genl msg)))
    (cmd : UbrNlCmd) : Logged.Every p (sendVlan env g cmd vlan) :=
  request_every way cmd rfl (fun _ => rfl) fun _ => own _ rfl

end Every

/-- A request that could change the state of the kernel. -/
def NlMsg.changes : NlMsg → Bool
  | .getFamily => false
  | _ => true

def ToolEvent.changes : ToolEvent → Bool
  | .send msg => msg.changes
  | _ => false

/-- No request of the run could change the state of the kernel. -/
def Quiet (x : Tool α) : Prop := ∀ msg, .send msg ∈ x.log → msg.changes = false

section Quiet

variable {env : ToolEnv} {g : Globals} {help : Usage} {cmdl : Cmdl}

theorem quiet_iff {x : Tool α} : Quiet x ↔ Logged.Every (fun e => e.changes = false) x := by
  constructor
  · intro quiet e inside
    cases e with
    | send msg => exact quiet msg inside
    | usage help => rfl
    | report what => rfl
  · intro every msg inside
    exact every _ inside

theorem Quiet.pure (a : α) : Quiet (pure a : Tool α) := quiet_iff.mpr (.pure a)

theorem Quiet.report (r : Report) : Quiet (Logged.emit (.report r) : Tool Unit) := quiet_iff.mpr (.emit rfl)

theorem Quiet.usage (u : Usage) : Quiet (Logged.emit (.usage u) : Tool Unit) := quiet_iff.mpr (.emit rfl)

theorem Quiet.bind {x : Tool α} {f : α → Tool β} (first : Quiet x) (rest : ∀ a, x.res = .ok a → Quiet (f a)) :
    Quiet (x >>= f) :=
  quiet_iff.mpr (.bind (quiet_iff.mp first) fun a res => quiet_iff.mp (rest a res))

theorem Quiet.refuse (g : Globals) (help : Usage) (ret : Int) :
    Quiet (do
      if g.helpFlag then Logged.emit (.usage help)
      Pure.pure ret : Tool Int) := by
  apply quiet_iff.mpr
  apply refuse_every
  rfl

theorem parseOpts_quiet (opts : List Opt) (cmdl : Cmdl) : Quiet (parseOpts opts cmdl) :=
  quiet_iff.mpr (parseOpts_every (fun _ => rfl) opts cmdl)

theorem quiet_onTheWay : OnTheWay fun e => e.changes = false := ⟨rfl, rfl, rfl, rfl⟩

theorem msgInit_quiet (env : ToolEnv) (g : Globals) (cmd : UbrNlCmd) : Quiet (msgInit env g cmd) :=
  quiet_iff.mpr (msgInit_every quiet_onTheWay g cmd)

/-- The message that `msg_init` begins. -/
def blankMsg (g : Globals) (cmd : UbrNlCmd) (family : Int) : GenlMsg :=
  { family, cmd, ifindex := if g.brindex ≠ 0 then some g.brindex else none }

theorem initGenl_res (env : ToolEnv) : (initGenl env).res =
    if env.callocFails then .ok none else (getFamily env).res.map fun id => if id ≤ 0 then none else some id := by
  unfold initGenl
  split
  · rfl
  · cases known : (getFamily env).res with
    | error f => rw [Logged.bind_error known]; rfl
    | ok id =>
        rw [Logged.bind_ok known]
        simp only [Except.map]
        split <;> rfl

theorem msgInit_res (env : ToolEnv) (g : Globals) (cmd : UbrNlCmd) : (msgInit env g cmd).res =
    if env.callocFails then .ok none
    else (getFamily env).res.map fun id => if id ≤ 0 then none else some (blankMsg g cmd id) := by
  have begun := initGenl_res env
  unfold msgInit
  cases noMem : env.callocFails with
  | true =>
      rw [noMem, if_pos rfl] at begun
      rw [Logged.bind_ok begun]
      rfl
  | false =>
      rw [noMem] at begun
      simp only [Bool.false_eq_true, if_false] at begun ⊢
      cases known : (getFamily env).res with
      | error f =>
          rw [known] at begun
          rw [Logged.bind_error begun]
          rfl
      | ok id =>
          have begun : (initGenl env).res = .ok (if id ≤ 0 then none else some id) := by rw [begun, known]; rfl
          rw [Logged.bind_ok begun]
          simp only [Except.map]
          by_cases positive : id ≤ 0
          · simp only [positive, if_true]
            rfl
          · simp only [positive, if_false]
            rfl

theorem msgInit_some {env : ToolEnv} {g : Globals} {cmd : UbrNlCmd} {msg : GenlMsg} :
    (msgInit env g cmd).res = .ok (some msg) ↔
      env.callocFails = false ∧ ∃ id, (getFamily env).res = .ok id ∧ 0 < id ∧ msg = blankMsg g cmd id := by
  rw [msgInit_res]
  cases env.callocFails with
  | true => simp
  | false =>
      cases (getFamily env).res with
      | error f => simp [Except.map]
      | ok id =>
          by_cases positive : id ≤ 0
          · simp [Except.map, positive]
          · simp [Except.map, positive, eq_comm, Int.not_le.mp positive]

theorem msgQueryNoCb_log (env : ToolEnv) (msg : NlMsg) :
    (msgQueryNoCb env msg).log = if env.sendFails msg then [.report .noSocket] else [.send msg] := by
  simp only [msgQueryNoCb, msgQuery, msgSend, Logged.bind_pure_log]
  split <;> rfl

/-- A command that was not found is reported, and all that is done is what the found one does. -/
theorem runCmd_quiet {caller : Usage} {cmds : List Cmd} (g : Globals) (cmdl : Cmdl)
    (each : ∀ cmd ∈ cmds, ∀ cmdl, Quiet (cmd.func g cmd.help cmdl)) : Quiet (runCmd caller cmds g cmdl) := by
  unfold runCmd
  split
  · exact .bind (.usage _) fun _ _ => .pure _
  · simp only
    split
    · refine .bind ?_ fun _ _ => .pure _
      split
      · exact .usage _
      · exact .report _
    · rename_i cmd found
      exact each cmd (mem_of_findCmd found) _

end Quiet

section Vlan

variable {env : ToolEnv} {g : Globals}

theorem vlanCmds_noVid (noVid : g.vid = 0) (cmd : Cmd) (inside : cmd ∈ vlanCmds env) (cmdl : Cmdl) :
    cmd.func g cmd.help cmdl = ⟨if g.helpFlag then [.usage cmd.help] else [], .ok (-einval)⟩ := by
  have refused (help : Usage) (command : Tool Int) :
      needVid g help command = ⟨if g.helpFlag then [.usage help] else [], .ok (-einval)⟩ := by
    simp only [needVid, noVid, if_true]
    cases g.helpFlag <;> rfl
  simp only [vlanCmds, List.mem_cons, List.not_mem_nil, or_false] at inside
  rcases inside with rfl | rfl | rfl | rfl | rfl <;> exact refused _ _

/-- What the commands on VLANs are made of. -/
structure VlanParts (env : ToolEnv) (g : Globals) (good : Tool Int → Prop) : Prop where
  refuse : ∀ help : Usage, good (do
    if g.helpFlag then Logged.emit (.usage help)
    pure (-einval))
  missing : ∀ help : Usage, good (do
    Logged.emit (.usage help)
    pure (-einval))
  interface : ∀ name : Str, good (do
    Logged.emit (.report (.invalidInterface name))
    pure (-einval))
  parse : ∀ opts cmdl f, (∀ out, good (f out)) → good (parseOpts opts cmdl >>= f)
  send : ∀ cmd vlan, vlan.vid = some g.vid → good (sendVlan env g cmd vlan)

theorem vlanCmds_of_parts {good : Tool Int → Prop} (parts : VlanParts env g good) (cmd : Cmd)
    (inside : cmd ∈ vlanCmds env)
    (cmdl : Cmdl) : good (cmd.func g cmd.help cmdl) := by
  have checked (help : Usage) {command : Tool Int} (holds : good command) : good (needVid g help command) := by
    unfold needVid
    split
    · exact parts.refuse help
    · exact holds
  have port (help : Usage) (cmdl : Cmdl) {command : BitVec 32 → Cmdl → Tool Int}
      (holds : ∀ ifindex cmdl, good (command ifindex cmdl)) : good (readPort env help cmdl command) := by
    unfold readPort
    split
    · exact parts.missing help
    · simp only
      split
      · exact parts.interface _
      · exact holds _ _
  simp only [vlanCmds, List.mem_cons, List.not_mem_nil, or_false] at inside
  rcases inside with rfl | rfl | rfl | rfl | rfl
  · exact checked _ (parts.send _ _ rfl)
  · exact checked _ (parts.send _ _ rfl)
  · apply checked
    apply port
    intro ifindex cmdl
    apply parts.parse
    intro out
    simp only
    split
    · exact parts.refuse _
    · exact parts.send _ _ rfl
  · apply checked
    apply port
    intro ifindex cmdl
    exact parts.send _ _ rfl
  · apply checked
    apply parts.parse
    intro out
    simp only
    split
    · exact parts.refuse _
    · exact parts.send _ _ rfl

end Vlan

end UnassumingBridge
