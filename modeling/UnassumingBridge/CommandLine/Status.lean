import UnassumingBridge.CommandLine.Rejection

/-! # The exit status

Each command returns what the kernel said about its last request, or an error of its own
after it has complained, and `main` turns that into the exit status.
-/

namespace UnassumingBridge

open Support

variable {α : Type} {env : ToolEnv}

/-- Something is printed. -/
def ToolEvent.speaks : ToolEvent → Bool
  | .send _ => false
  | _ => true

/-- A request that changes the kernel was not acknowledged. -/
def ToolEvent.unacked (env : ToolEnv) (e : ToolEvent) : Prop :=
  ∃ msg, e = .send msg ∧ msg.changes = true ∧ ¬ Acked (env.replies msg)

/-- Help was printed, or a request that changes the kernel was sent. -/
def ToolEvent.acts : ToolEvent → Bool
  | .usage _ => true
  | .report _ => false
  | .send msg => msg.changes

/-- Nothing goes wrong in the log. -/
def GoesWell (env : ToolEnv) (log : List ToolEvent) : Prop :=
  (∀ what, .report what ∉ log) ∧ ∀ e ∈ log, ¬ e.unacked env

/-- Success is something that was done and acknowledged, without a complaint; a failure is
    not silent, unless the kernel has refused a request. -/
structure Truthful (env : ToolEnv) (x : Tool Int) : Prop where
  success : x.res = .ok 0 → GoesWell env x.log ∧ ∃ e ∈ x.log, e.acts = true
  failure : ∀ status, x.res = .ok status → status ≠ 0 → ∃ e ∈ x.log, e.speaks = true ∨ e.unacked env

section Logs

variable {log log' : List ToolEvent}

theorem GoesWell.nil : GoesWell env [] := ⟨fun _ => List.not_mem_nil, fun _ inside => absurd inside List.not_mem_nil⟩

theorem GoesWell.append (first : GoesWell env log) (second : GoesWell env log') : GoesWell env (log ++ log') := by
  refine ⟨fun what inside => ?_, fun e inside => ?_⟩
  · rcases List.mem_append.mp inside with here | later
    · exact first.1 what here
    · exact second.1 what later
  · rcases List.mem_append.mp inside with here | later
    · exact first.2 e here
    · exact second.2 e later

theorem GoesWell.usage (help : Usage) : GoesWell env [.usage help] := by
  refine ⟨by simp, ?_⟩
  rintro e inside ⟨msg, same, _⟩
  cases List.mem_singleton.mp inside
  cases same

theorem GoesWell.send {msg : NlMsg} (acked : msg.changes = true → Acked (env.replies msg)) :
    GoesWell env [.send msg] := by
  refine ⟨by simp, ?_⟩
  rintro e inside ⟨msg', same, changes, refused⟩
  cases List.mem_singleton.mp inside
  cases same
  exact refused (acked changes)

end Logs

namespace Truthful

theorem of_error {x : Tool Int} {f : ToolFault} (crash : x.res = .error f) : Truthful env x := by
  refine ⟨fun res => ?_, fun status res => ?_⟩
  · cases crash.symm.trans res
  · cases crash.symm.trans res

theorem of_spoken {x : Tool Int} {status : Int} (res : x.res = .ok status) (failed : status ≠ 0) {e : ToolEvent}
    (inside : e ∈ x.log) (speaks : e.speaks = true) : Truthful env x := by
  refine ⟨fun ok => ?_, fun _ _ _ => ⟨e, inside, .inl speaks⟩⟩
  cases res.symm.trans ok
  exact absurd rfl failed

theorem usage (help : Usage) : Truthful env ⟨[.usage help], .ok 0⟩ where
  success _ := ⟨.usage help, _, List.mem_singleton_self _, rfl⟩
  failure _ res failed := by
    cases res
    exact absurd rfl failed

theorem behind {x : Tool α} {f : α → Tool Int} {a : α} (res : x.res = .ok a) (well : GoesWell env x.log)
    (rest : Truthful env (f a)) : Truthful env (x >>= f) := by
  rw [Logged.bind_ok res]
  refine ⟨fun ok => ?_, fun status ended failed => ?_⟩
  · obtain ⟨later, e, inside, acts⟩ := rest.success ok
    exact ⟨well.append later, e, List.mem_append_right _ inside, acts⟩
  · obtain ⟨e, inside, bad⟩ := rest.failure status ended failed
    exact ⟨e, List.mem_append_right _ inside, bad⟩

theorem andThen {x y : Tool Int} (first : Truthful env x) (second : Truthful env y) :
    Truthful env (do
      let err ← x
      if err ≠ 0 then pure err else y) := by
  cases ends : x.res with
  | error f =>
      rw [Logged.bind_error ends]
      exact of_error rfl
  | ok err =>
      by_cases zero : err = 0
      · subst zero
        apply behind ends (first.success ends).1
        simpa using second
      · rw [Logged.bind_ok ends, if_pos zero]
        refine ⟨fun ok => ?_, fun status _ _ => ?_⟩
        · cases ok
          exact absurd rfl zero
        · obtain ⟨e, inside, bad⟩ := first.failure err ends zero
          exact ⟨e, List.mem_append_left _ inside, bad⟩

theorem alone {x : Tool Int} (first : Truthful env x) :
    Truthful env (do
      let err ← x
      if err ≠ 0 then pure err else pure 0) := by
  have same : (do
      let err ← x
      if err ≠ 0 then pure err else pure 0 : Tool Int) = x := by
    obtain ⟨log, res⟩ := x
    cases res with
    | error f => rfl
    | ok err =>
        rw [Logged.bind_ok rfl]
        by_cases zero : err = 0
        · simp [zero]
        · simp [zero]
  rw [same]
  exact first

theorem exitOf_iff {x : Tool Int} : Truthful env (exitOf x) ↔ Truthful env x := by
  have zero : (exitOf x).res = .ok 0 ↔ x.res = .ok 0 := by
    rw [exitOf_res]
    cases x.res with
    | error f => simp [Except.map]
    | ok status => by_cases same : status = 0 <;> simp [Except.map, same]
  have other : (∃ status, (exitOf x).res = .ok status ∧ status ≠ 0) ↔ ∃ status, x.res = .ok status ∧ status ≠ 0 := by
    rw [exitOf_res]
    cases x.res with
    | error f => simp [Except.map]
    | ok status => by_cases same : status = 0 <;> simp [Except.map, same]
  constructor
  · intro truthful
    refine ⟨fun ok => ?_, fun status res failed => ?_⟩
    · rw [← exitOf_log x]
      exact truthful.success (zero.mpr ok)
    · obtain ⟨status', res', failed'⟩ := other.mpr ⟨status, res, failed⟩
      rw [← exitOf_log x]
      exact truthful.failure status' res' failed'
  · intro truthful
    refine ⟨fun ok => ?_, fun status res failed => ?_⟩
    · rw [exitOf_log]
      exact truthful.success (zero.mp ok)
    · obtain ⟨status', res', failed'⟩ := other.mp ⟨status, res, failed⟩
      rw [exitOf_log]
      exact truthful.failure status' res' failed'

end Truthful

section Requests

variable {g : Globals} {msg : NlMsg}

theorem msgQueryNoCb_truthful (changes : msg.changes = true) : Truthful env (msgQueryNoCb env msg) := by
  cases sends : env.sendFails msg with
  | true =>
      refine .of_spoken (msgQueryNoCb_fails sends) (by decide) (e := .report .noSocket) ?_ rfl
      rw [msgQueryNoCb_log, sends]
      exact List.mem_singleton_self _
  | false =>
      have log : (msgQueryNoCb env msg).log = [.send msg] := by rw [msgQueryNoCb_log, sends]; rfl
      obtain ⟨ret, received, zero⟩ := msgRecv_noCb (env.replies msg)
      have res : (msgQueryNoCb env msg).res = .ok ret := by
        simp only [msgQueryNoCb, msgQuery, msgSend, sends, Bool.false_eq_true, if_false, received]
        rfl
      refine ⟨fun ok => ?_, fun status ended failed => ?_⟩
      · cases res.symm.trans ok
        rw [log]
        exact ⟨.send fun _ => zero.mp rfl, _, List.mem_singleton_self _, changes⟩
      · cases res.symm.trans ended
        rw [log]
        exact ⟨_, List.mem_singleton_self _, .inr ⟨msg, rfl, changes, fun acked => failed (zero.mpr acked)⟩⟩

theorem linkRequest_truthful (changes : msg.changes = true) :
    Truthful env (msgInit2 env >>= fun _ => msgQueryNoCb env msg) := by
  unfold msgInit2
  split
  · exact .of_error (by rw [Logged.bind_error rfl])
  · exact .behind rfl .nil (msgQueryNoCb_truthful changes)

/-- When there is a message the family was asked for, and nothing else has happened. -/
theorem msgInit_asks {cmd : UbrNlCmd} {begun : GenlMsg} (res : (msgInit env g cmd).res = .ok (some begun)) :
    Logged.Every (fun e => e = .send .getFamily) (msgInit env g cmd) := by
  obtain ⟨memory, id, known, positive, _⟩ := msgInit_some.mp res
  have sends : env.sendFails .getFamily = false := by
    by_contra fails
    simp only [Bool.not_eq_false] at fails
    have failed : (getFamily env).res = .ok (-enotsup) := by
      simp only [getFamily, msgQuery, msgSend, fails, if_true]
      rfl
    cases known.symm.trans failed
    cases positive
  have family : Logged.Every (fun e => e = .send .getFamily) (getFamily env) := by
    have sent : Logged.Every (fun e => e = .send .getFamily) (msgSend env .getFamily) := by
      simp only [msgSend, sends, Bool.false_eq_true, if_false]
      exact .bind (.emit rfl) fun _ _ => .pure _
    have asked : Logged.Every (fun e => e = .send .getFamily)
        (msgQuery env .getFamily (familyIdCb env.ctrlAttrMax) none) := by
      refine .bind sent fun out _ => ?_
      split
      · exact .lift _
      · exact .pure _
    refine .bind asked fun out _ => ?_
    simp only
    split
    · exact .pure _
    · split
      · exact .lift _
      · exact .pure _
  have begins : Logged.Every (fun e => e = .send .getFamily) (initGenl env) := by
    simp only [initGenl, memory, Bool.false_eq_true, if_false]
    refine .bind family fun type found => ?_
    cases known.symm.trans found
    rw [if_neg (by omega)]
    exact .pure _
  refine .bind begins fun type _ => ?_
  split
  · exact .pure _
  · exact .pure _

theorem msgInit_goesWell {cmd : UbrNlCmd} {begun : GenlMsg} (res : (msgInit env g cmd).res = .ok (some begun)) :
    GoesWell env (msgInit env g cmd).log := by
  have asks := msgInit_asks res
  refine ⟨fun what inside => ?_, fun e inside => ?_⟩
  · cases asks _ inside
  · rintro ⟨msg, same, changes, _⟩
    cases (asks e inside).symm.trans same
    cases changes

theorem request_truthful {rest : Option GenlMsg → Tool Int} {build : GenlMsg → GenlMsg} (cmd : UbrNlCmd)
    (failed : rest none = do
      Logged.emit (.report .initFailed)
      pure (-1))
    (sends : ∀ msg, rest (some msg) = msgDoit env (build msg)) : Truthful env (msgInit env g cmd >>= rest) := by
  cases begun : (msgInit env g cmd).res with
  | error f => exact .of_error (by rw [Logged.bind_error begun])
  | ok found =>
      cases found with
      | some msg =>
          apply Truthful.behind begun (msgInit_goesWell begun)
          rw [sends]
          exact msgQueryNoCb_truthful rfl
      | none =>
          rw [Logged.bind_ok begun, failed]
          exact .of_spoken rfl (by decide) (List.mem_append_right _ (List.mem_singleton_self _)) rfl

theorem sendVlan_truthful (cmd : UbrNlCmd) (vlan : VlanAttrs) : Truthful env (sendVlan env g cmd vlan) :=
  request_truthful cmd rfl fun _ => rfl

end Requests

section Commands

variable {g : Globals} {help : Usage} {cmdl : Cmdl}

/-- The answer of a subcommand to options that its parser has complained about. -/
theorem parsed_truthful {opts : List Opt} {f : Int × List Opt × Cmdl → Tool Int}
    (regular : ∀ out, ¬ out.1 < 0 → Truthful env (f out)) (refuses : ∀ out, out.1 < 0 → (f out).res = .ok (-einval)) :
    Truthful env (parseOpts opts cmdl >>= f) := by
  by_cases stumbles : Stumbles opts cmdl.left
  · obtain ⟨word, table, optind, run, _⟩ := parseOpts_of_stumbles stumbles
    have negative : (-einval : Int) < 0 := by decide
    rw [run, Logged.bind_ok rfl]
    exact .of_spoken (refuses _ negative) (by decide) (List.mem_append_left _ (List.mem_singleton_self _)) rfl
  · obtain ⟨n, table, rest, run⟩ := parseOpts_of_whole stumbles
    have counted : ¬ ((n : Int) < 0) := by omega
    rw [run]
    exact .behind rfl .nil (regular _ counted)

theorem refuse_res (g : Globals) (help : Usage) (ret : Int) :
    (do
      if g.helpFlag then Logged.emit (.usage help)
      pure ret : Tool Int).res = .ok ret := by
  cases g.helpFlag <;> rfl

theorem cmdAdd_truthful (cmdl : Cmdl) : Truthful env (cmdAdd env g help cmdl) := by
  unfold cmdAdd
  split
  · exact .usage help
  · exact linkRequest_truthful rfl

theorem cmdDel_truthful (cmdl : Cmdl) : Truthful env (cmdDel env g help cmdl) := by
  unfold cmdDel
  split
  · exact .usage help
  · exact linkRequest_truthful rfl

theorem runCmd_truthful {cmds : List Cmd} {caller : Usage}
    (each : ∀ cmd ∈ cmds, ∀ cmdl, Truthful env (cmd.func g cmd.help cmdl)) :
    Truthful env (runCmd caller cmds g cmdl) := by
  cases left : cmdl.left with
  | nil =>
      rw [runCmd_end g left]
      exact .usage caller
  | cons word rest =>
      cases found : findCmd cmds word with
      | none =>
          rw [runCmd_missing g left found]
          refine .of_spoken rfl (by decide) (List.mem_singleton_self _) ?_
          cases g.helpFlag <;> rfl
      | some cmd =>
          rw [runCmd_found g left found]
          exact each cmd (mem_of_findCmd found) _

theorem cmdFdb_truthful : Truthful env (cmdFdb env g help cmdl) := by
  apply runCmd_truthful
  intro cmd inside cmdl
  cases List.mem_singleton.mp inside
  exact request_truthful .fdbFlush rfl fun _ => rfl

section Port

theorem portCmds_help_truthful (flag : g.helpFlag = true) (noPort : g.ifname = none) (cmd : Cmd)
    (inside : cmd ∈ portCmds env) (cmdl : Cmdl) : Truthful env (cmd.func g cmd.help cmdl) := by
  have nobody : g.ifname.isNone = true := by rw [noPort]; rfl
  have refused (help : Usage) : Truthful env (do
      if g.helpFlag then Logged.emit (.usage help)
      pure (-einval)) := by
    refine .of_spoken (refuse_res g help _) (by decide) (e := .usage help) ?_ rfl
    simp [flag]
  simp only [portCmds, List.mem_cons, List.not_mem_nil, or_false] at inside
  rcases inside with rfl | rfl | rfl
  · simp only [cmdPortAttach, nobody, if_true]
    exact refused _
  · simp only [cmdPortDetach, nobody, if_true]
    exact refused _
  · apply parsed_truthful
    · intro out _
      simp only [nobody, or_true, if_true]
      exact refused _
    · intro out _
      simp only [nobody, or_true, if_true]
      exact refuse_res g _ _

theorem cmdPortSet_truthful (port : g.ifname.isNone = false) : Truthful env (cmdPortSet env g help cmdl) := by
  apply parsed_truthful
  · intro out regular
    simp only [regular, port, Bool.false_eq_true, or_false, if_false]
    exact request_truthful .portSet rfl fun _ => rfl
  · intro out negative
    simp only [negative, true_or, if_true]
    exact refuse_res g _ _

theorem portCmds_truthful (port : g.ifname.isNone = false) (cmd : Cmd) (inside : cmd ∈ portCmds env) (cmdl : Cmdl) :
    Truthful env (cmd.func g cmd.help cmdl) := by
  simp only [portCmds, List.mem_cons, List.not_mem_nil, or_false] at inside
  rcases inside with rfl | rfl | rfl
  · simp only [cmdPortAttach, port, Bool.false_eq_true, if_false]
    have linked : Truthful env (setlink env g g.brindex) := linkRequest_truthful rfl
    cases moreOpts cmdl with
    | true => exact linked.andThen (cmdPortSet_truthful port)
    | false => exact linked.alone
  · simp only [cmdPortDetach, port, Bool.false_eq_true, if_false]
    exact linkRequest_truthful rfl
  · exact cmdPortSet_truthful port

theorem cmdPort_truthful (noPort : g.ifname = none) : Truthful env (cmdPort env g help cmdl) := by
  unfold cmdPort
  split
  · rename_i flag
    exact runCmd_truthful (portCmds_help_truthful flag noPort)
  · split
    · exact .of_spoken rfl (by decide) (List.mem_singleton_self _) rfl
    · simp only
      split
      · exact .of_spoken rfl (by decide) (List.mem_singleton_self _) rfl
      · exact runCmd_truthful (portCmds_truthful rfl)

end Port

section Vlan

theorem readPort_truthful {command : BitVec 32 → Cmdl → Tool Int}
    (holds : ∀ ifindex cmdl, Truthful env (command ifindex cmdl)) : Truthful env (readPort env help cmdl command) := by
  unfold readPort
  split
  · exact .of_spoken rfl (by decide) (List.mem_singleton_self _) rfl
  · simp only
    split
    · exact .of_spoken rfl (by decide) (List.mem_singleton_self _) rfl
    · exact holds _ _

theorem vlanCmds_truthful (vid : g.vid ≠ 0) (cmd : Cmd) (inside : cmd ∈ vlanCmds env) (cmdl : Cmdl) :
    Truthful env (cmd.func g cmd.help cmdl) := by
  have named (help : Usage) (command : Tool Int) : needVid g help command = command := by
    simp only [needVid, vid, if_false]
  simp only [vlanCmds, List.mem_cons, List.not_mem_nil, or_false] at inside
  rcases inside with rfl | rfl | rfl | rfl | rfl
  · simp only [cmdVlanAdd, named]
    exact sendVlan_truthful _ _
  · simp only [cmdVlanDel, named]
    exact sendVlan_truthful _ _
  · simp only [cmdVlanAttach, named]
    apply readPort_truthful
    intro ifindex cmdl
    apply parsed_truthful
    · intro out regular
      simp only [regular, if_false]
      exact sendVlan_truthful _ _
    · intro out negative
      simp only [negative, if_true]
      exact refuse_res g _ _
  · simp only [cmdVlanDetach, named]
    exact readPort_truthful fun ifindex cmdl => sendVlan_truthful _ _
  · simp only [cmdVlanSet, named]
    apply parsed_truthful
    · intro out regular
      simp only [regular, if_false]
      exact sendVlan_truthful _ _
    · intro out negative
      simp only [negative, if_true]
      exact refuse_res g _ _

theorem vlanCmds_help_truthful (flag : g.helpFlag = true) (noVid : g.vid = 0) (cmd : Cmd) (inside : cmd ∈ vlanCmds env)
    (cmdl : Cmdl) : Truthful env (cmd.func g cmd.help cmdl) := by
  rw [vlanCmds_noVid noVid cmd inside, if_pos flag]
  exact .of_spoken rfl (by decide) (List.mem_singleton_self _) rfl

theorem cmdVlan_truthful (noVid : g.vid = 0) : Truthful env (cmdVlan env g help cmdl) := by
  unfold cmdVlan
  split
  · rename_i flag
    exact runCmd_truthful (vlanCmds_help_truthful flag noVid)
  · split
    · exact .of_spoken rfl (by decide) (List.mem_singleton_self _) rfl
    · rename_i arg rest shifted
      simp only
      split
      · exact .of_spoken rfl (by decide) (List.mem_singleton_self _) rfl
      · rename_i accepted
        apply runCmd_truthful
        apply vlanCmds_truthful
        intro zero
        have zero : vidOperand arg = 0 := zero
        exact accepted (.inl (by rw [zero]; decide))

end Vlan

theorem ubrCmds_truthful (noPort : g.ifname = none) (noVid : g.vid = 0) (cmd : Cmd) (inside : cmd ∈ ubrCmds env)
    (cmdl : Cmdl) : Truthful env (cmd.func g cmd.help cmdl) := by
  simp only [ubrCmds, List.mem_cons, List.not_mem_nil, or_false] at inside
  rcases inside with rfl | rfl | rfl | rfl | rfl
  · exact cmdAdd_truthful cmdl
  · exact cmdDel_truthful cmdl
  · exact cmdFdb_truthful
  · exact cmdPort_truthful noPort
  · exact cmdVlan_truthful noVid

end Commands

/-- An exit status of 0 means that the kernel has acknowledged every request that changes it,
    that nothing was complained about, and that help was printed or such a request was sent.
    With another status something is printed, or the kernel has refused a request. -/
theorem exit_status_is_truthful (env : ToolEnv) (prog : Str) (args : List Str) :
    Truthful env (ubrMain env prog args) := by
  by_cases invalid : .invalid ∈ (scanned env args).found
  · rw [ubrMain_invalid invalid]
    exact .of_spoken rfl (by decide) (List.mem_singleton_self _) rfl
  by_cases asks : AsksForHelp env args
  · obtain ⟨cmdl, _, main⟩ := ubrMain_help prog invalid asks
    rw [main, Truthful.exitOf_iff]
    exact runCmd_truthful (ubrCmds_truthful rfl rfl)
  · obtain ⟨cmdl, _, main⟩ := ubrMain_noHelp prog invalid asks
    rw [main]
    split
    · exact .of_spoken rfl (by decide) (List.mem_singleton_self _) rfl
    · rw [Truthful.exitOf_iff]
      exact runCmd_truthful (ubrCmds_truthful rfl rfl)

end UnassumingBridge
