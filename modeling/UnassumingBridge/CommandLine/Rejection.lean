import UnassumingBridge.CommandLine.Options

/-! # Rejected command lines

Each command reads its own operands and options. Whatever it complains about, it should
do so before it has sent a request that changes the kernel. The one that attaches a port
sends its request first and reads the port's options then.
-/

namespace UnassumingBridge

open Support

variable {α β : Type}

section Order

/-- What the tool says when it rejects a command line. A missing operand is answered with help. -/
def ToolEvent.rejects : ToolEvent → Bool
  | .usage _ => true
  | .report .initFailed => false
  | .report .noFamily => false
  | .report .noSocket => false
  | .report _ => true
  | .send _ => false

/-- No request that changes the kernel goes out before a rejection. -/
def RejectsFirst (x : Tool α) : Prop :=
  x.log.Pairwise fun earlier later => later.rejects = true → earlier.changes = false

theorem RejectsFirst.of_quiet {x : Tool α} (quiet : Quiet x) : RejectsFirst x := by
  apply List.pairwise_of_forall_mem_list
  intro earlier inside later _ _
  exact quiet_iff.mp quiet earlier inside

theorem RejectsFirst.of_mute {x : Tool α} (mute : Logged.Every (fun e => e.rejects = false) x) : RejectsFirst x := by
  apply List.pairwise_of_forall_mem_list
  intro earlier _ later inside rejects
  cases (mute later inside).symm.trans rejects

/-- What changes nothing may go before. -/
theorem RejectsFirst.bind {x : Tool α} {f : α → Tool β} (quiet : Quiet x)
    (rest : ∀ a, x.res = .ok a → RejectsFirst (f a)) : RejectsFirst (x >>= f) := by
  cases ends : x.res with
  | error fault =>
      rw [Logged.bind_error ends]
      exact RejectsFirst.of_quiet quiet
  | ok a =>
      rw [Logged.bind_ok ends]
      apply List.pairwise_append.mpr
      refine ⟨RejectsFirst.of_quiet quiet, rest a ends, ?_⟩
      intro earlier inside later _ _
      exact quiet_iff.mp quiet earlier inside

theorem RejectsFirst.one (e : ToolEvent) (res : Except ToolFault α) : RejectsFirst ⟨[e], res⟩ :=
  List.pairwise_singleton _ _

theorem exitOf_rejectsFirst (run : Tool Int) : RejectsFirst (exitOf run) ↔ RejectsFirst run := by
  unfold RejectsFirst
  rw [exitOf_log]

end Order

section Commands

variable {env : ToolEnv} {g : Globals} {help : Usage} {cmdl : Cmdl}

theorem mute_onTheWay : OnTheWay fun e => e.rejects = false := ⟨rfl, rfl, rfl, rfl⟩

theorem msgQueryNoCb_mute (msg : NlMsg) : Logged.Every (fun e => e.rejects = false) (msgQueryNoCb env msg) :=
  msgQueryNoCb_every rfl rfl

theorem sendVlan_mute (cmd : UbrNlCmd) (vlan : VlanAttrs) :
    Logged.Every (fun e => e.rejects = false) (sendVlan env g cmd vlan) :=
  sendVlan_every mute_onTheWay (fun _ _ => rfl) cmd

theorem linkRequest_mute (msg : NlMsg) :
    Logged.Every (fun e => e.rejects = false) (msgInit2 env >>= fun _ => msgQueryNoCb env msg) := by
  apply Logged.Every.bind
  · unfold msgInit2
    split
    · exact .lift _
    · exact .pure _
  · intro _ _
    exact msgQueryNoCb_mute msg

theorem cmdAdd_rejectsFirst (cmdl : Cmdl) : RejectsFirst (cmdAdd env g help cmdl) := by
  unfold cmdAdd
  split
  · exact .of_quiet (.bind (.usage _) fun _ _ => .pure _)
  · exact .of_mute (linkRequest_mute _)

theorem cmdDel_rejectsFirst (cmdl : Cmdl) : RejectsFirst (cmdDel env g help cmdl) := by
  unfold cmdDel
  split
  · exact .of_quiet (.bind (.usage _) fun _ _ => .pure _)
  · exact .of_mute (linkRequest_mute _)

theorem runCmd_rejectsFirst {cmds : List Cmd} (caller : Usage) (g : Globals) (cmdl : Cmdl)
    (each : ∀ cmd ∈ cmds, ∀ cmdl, RejectsFirst (cmd.func g cmd.help cmdl)) :
    RejectsFirst (runCmd caller cmds g cmdl) := by
  cases left : cmdl.left with
  | nil =>
      rw [runCmd_end g left]
      exact .one _ _
  | cons word rest =>
      cases found : findCmd cmds word with
      | none =>
          rw [runCmd_missing g left found]
          exact .one _ _
      | some cmd =>
          rw [runCmd_found g left found]
          exact each cmd (mem_of_findCmd found) _

theorem cmdFdb_rejectsFirst : RejectsFirst (cmdFdb env g help cmdl) := by
  apply runCmd_rejectsFirst
  intro cmd inside cmdl
  cases List.mem_singleton.mp inside
  exact .of_mute (request_every mute_onTheWay .fdbFlush rfl (fun _ => rfl) fun _ => rfl)

/-- The commands on VLANs read everything before their request. -/
theorem vlanParts_rejectsFirst : VlanParts env g RejectsFirst where
  refuse help := .of_quiet (.refuse g help _)
  missing _ := .of_quiet (.bind (.usage _) fun _ _ => .pure _)
  interface _ := .of_quiet (.bind (.report _) fun _ _ => .pure _)
  parse opts cmdl _ rest := .bind (parseOpts_quiet opts cmdl) fun out _ => rest out
  send cmd vlan _ := .of_mute (sendVlan_mute cmd vlan)

theorem cmdVlan_rejectsFirst : RejectsFirst (cmdVlan env g help cmdl) := by
  unfold cmdVlan
  split
  · exact runCmd_rejectsFirst _ _ _ (vlanCmds_of_parts vlanParts_rejectsFirst)
  · split
    · exact .of_quiet (.bind (.usage _) fun _ _ => .pure _)
    · simp only
      split
      · exact .of_quiet (.bind (.report _) fun _ _ => .pure _)
      · exact runCmd_rejectsFirst _ _ _ (vlanCmds_of_parts vlanParts_rejectsFirst)

end Commands

section Port

variable {env : ToolEnv} {g : Globals} {help : Usage} {cmdl : Cmdl} {msg : NlMsg}

/-- An acknowledgement comes back, maybe behind other messages. -/
def Acked : List Reply → Prop
  | .message _ :: rest => Acked rest
  | .ack :: _ => True
  | _ => False

/-- A request on a link is sent and acknowledged. -/
def Accepted (env : ToolEnv) (msg : NlMsg) : Prop :=
  env.callocFails = false ∧ env.sendFails msg = false ∧ Acked (env.replies msg)

theorem msgRecv_noCb (replies : List Reply) :
    ∃ ret, msgRecv (fun (data : Unit) _ => .ok (data, 1)) replies () = .ok ((), ret) ∧ (ret = 0 ↔ Acked replies) := by
  induction replies with
  | nil => exact ⟨-1, rfl, by simp [Acked]⟩
  | cons reply rest ih =>
      cases reply with
      | message attrs => exact ih
      | ack => exact ⟨0, rfl, by simp [Acked]⟩
      | refused => exact ⟨-1, rfl, by simp [Acked]⟩

theorem setlink_accepted {master : BitVec 32} (accepted : Accepted env (.setlink g.ifindex "ubr".toList master)) :
    setlink env g master = ⟨[.send (.setlink g.ifindex "ubr".toList master)], .ok 0⟩ := by
  obtain ⟨memory, sends, acked⟩ := accepted
  obtain ⟨ret, received, zero⟩ := msgRecv_noCb (env.replies (.setlink g.ifindex "ubr".toList master))
  rw [zero.mpr acked] at received
  simp only [setlink, msgInit2, memory, msgQueryNoCb, msgQuery, msgSend, sends, Bool.false_eq_true, if_false, received]
  rfl

theorem accepted_of_setlink {master : BitVec 32} (res : (setlink env g master).res = .ok 0) :
    Accepted env (.setlink g.ifindex "ubr".toList master) := by
  obtain ⟨_, memory, res⟩ := Logged.res_bind_eq_ok res
  have memory : env.callocFails = false := by
    unfold msgInit2 at memory
    split at memory
    · cases memory
    · rename_i there
      simpa using there
  cases sends : env.sendFails (.setlink g.ifindex "ubr".toList master) with
  | true =>
      have failed : -enotsup = 0 := Except.ok.inj ((msgQueryNoCb_fails sends).symm.trans res)
      simp only [enotsup] at failed
      omega
  | false =>
      obtain ⟨ret, received, zero⟩ := msgRecv_noCb (env.replies (.setlink g.ifindex "ubr".toList master))
      simp only [msgQueryNoCb, msgQuery, msgSend, sends, Bool.false_eq_true, if_false, received] at res
      cases res
      exact ⟨memory, sends, zero.mp rfl⟩

theorem moreOpts_iff : moreOpts cmdl = true ↔ cmdl.left ≠ [] := by
  rw [moreOpts, decide_eq_true_iff, Cmdl.left, ne_eq, List.drop_eq_nil_iff]
  omega

/-- The command's options are read before its message. -/
theorem cmdPortSet_rejectsFirst : RejectsFirst (cmdPortSet env g help cmdl) := by
  apply RejectsFirst.bind (parseOpts_quiet _ _)
  intro out _
  simp only
  split
  · exact .of_quiet (.refuse g _ _)
  · exact .of_mute (request_every mute_onTheWay .portSet rfl (fun _ => rfl) fun _ => rfl)

theorem cmdPortSet_mute (port : g.ifname.isNone = false) (whole : ¬ Stumbles portSetOpts cmdl.left) :
    Logged.Every (fun e => e.rejects = false) (cmdPortSet env g help cmdl) := by
  obtain ⟨n, table, rest, run⟩ := parseOpts_of_whole whole
  have regular : ¬ ((n : Int) < 0) := by omega
  have parsed : Logged.Every (fun e => e.rejects = false) (parseOpts portSetOpts cmdl) := by
    rw [run]
    exact .of_nil rfl
  unfold cmdPortSet
  apply Logged.Every.bind parsed
  intro out same
  rw [run] at same
  cases same
  simp only [regular, port, Bool.false_eq_true, or_false, if_false]
  exact request_every mute_onTheWay .portSet rfl (fun _ => rfl) fun _ => rfl

theorem cmdPortSet_stumbles (env : ToolEnv) (g : Globals) (help : Usage) (stumbles : Stumbles portSetOpts cmdl.left) :
    ∃ word, .report (.invalidOption word) ∈ (cmdPortSet env g help cmdl).log := by
  obtain ⟨word, table, optind, run, _⟩ := parseOpts_of_stumbles stumbles
  refine ⟨word, Logged.mem_log_left ?_ _⟩
  rw [run]
  exact List.mem_singleton_self _

/-- The options behind `attach` are read when the port has been attached. -/
theorem cmdPortAttach_rejectsFirst (env : ToolEnv) (help : Usage) (cmdl : Cmdl) (port : g.ifname.isNone = false) :
    RejectsFirst (cmdPortAttach env g help cmdl) ↔
      ¬ (Accepted env (.setlink g.ifindex "ubr".toList g.brindex) ∧ Stumbles portSetOpts cmdl.left) := by
  unfold cmdPortAttach
  simp only [port, Bool.false_eq_true, if_false]
  constructor
  · rintro first ⟨accepted, stumbles⟩
    have more : moreOpts cmdl = true := by
      apply moreOpts_iff.mpr
      obtain ⟨init, _, word, rest, split, _⟩ := stumbles
      simp [split]
    obtain ⟨word, inside⟩ := cmdPortSet_stumbles env g help stumbles
    unfold RejectsFirst at first
    rw [setlink_accepted accepted, Logged.bind_ok rfl] at first
    simp only [ne_eq, not_true_eq_false, if_false, more, if_true] at first
    have changed := (List.pairwise_append.mp first).2.2 _ (List.mem_singleton_self _) _ inside rfl
    cases changed
  · intro other
    apply RejectsFirst.of_mute
    apply Logged.Every.bind (linkRequest_mute _)
    intro err res
    split
    · exact .pure _
    · rename_i zero
      simp only [ne_eq, not_not] at zero
      subst zero
      have accepted := accepted_of_setlink res
      split
      · exact cmdPortSet_mute port fun stumbles => other ⟨accepted, stumbles⟩
      · exact .pure _

theorem findCmd_portCmds {word : Str} {cmd : Cmd} :
    findCmd (portCmds env) word = some cmd ↔ cmd ∈ portCmds env ∧ word ≠ [] ∧ word <+: cmd.cmd := by
  apply findCmd_of_heads
  · simp [portCmds]
  · simp [portCmds]

/-- The word behind the port attaches it, and those behind that are wrong. -/
structure AttachRejected (env : ToolEnv) (ifindex brindex : BitVec 32) (attach : Str) (options : List Str) : Prop where
  attach : attach ≠ [] ∧ attach <+: "attach".toList
  accepted : Accepted env (.setlink ifindex "ubr".toList brindex)
  stumbles : Stumbles portSetOpts options

theorem portCmds_rejectsFirst (port : g.ifname.isNone = false) :
    RejectsFirst (runCmd help (portCmds env) g cmdl) ↔
      ¬ ∃ attach options, cmdl.left = attach :: options ∧ AttachRejected env g.ifindex g.brindex attach options := by
  cases left : cmdl.left with
  | nil =>
      rw [runCmd_end g left]
      refine iff_of_true (.one _ _) ?_
      rintro ⟨_, _, words, _⟩
      cases words
  | cons word rest =>
      have named {options : List Str} (rejected : AttachRejected env g.ifindex g.brindex word options) :
          findCmd (portCmds env) word = some ⟨"attach".toList, cmdPortAttach env, .portAttach⟩ :=
        findCmd_portCmds.mpr ⟨by simp [portCmds], rejected.attach⟩
      cases found : findCmd (portCmds env) word with
      | none =>
          rw [runCmd_missing g left found]
          refine iff_of_true (.one _ _) ?_
          rintro ⟨_, _, words, rejected⟩
          cases words
          cases found.symm.trans (named rejected)
      | some cmd =>
          have another (other : cmd.cmd ≠ "attach".toList) : ¬ ∃ attach options,
              word :: rest = attach :: options ∧ AttachRejected env g.ifindex g.brindex attach options := by
            rintro ⟨_, _, words, rejected⟩
            cases words
            have same := Option.some.inj (found.symm.trans (named rejected))
            exact other (congrArg Cmd.cmd same)
          obtain ⟨known, abbreviates⟩ := findCmd_portCmds.mp found
          rw [runCmd_found g left found]
          simp only [portCmds, List.mem_cons, List.not_mem_nil, or_false] at known
          rcases known with rfl | rfl | rfl
          · have attaches := cmdPortAttach_rejectsFirst env .portAttach cmdl.next port
            rw [Cmdl.left_next left] at attaches
            refine attaches.trans (not_congr ?_)
            constructor
            · rintro ⟨accepted, stumbles⟩
              exact ⟨_, _, rfl, abbreviates, accepted, stumbles⟩
            · rintro ⟨_, _, words, rejected⟩
              cases words
              exact ⟨rejected.accepted, rejected.stumbles⟩
          · refine iff_of_true ?_ (another (by simp))
            simp only [cmdPortDetach, port, Bool.false_eq_true, if_false]
            exact .of_mute (linkRequest_mute _)
          · exact iff_of_true cmdPortSet_rejectsFirst (another (by simp))

theorem cmdPort_rejectsFirst (env : ToolEnv) (help : Usage) (cmdl : Cmdl) (noHelp : g.helpFlag = false) :
    RejectsFirst (cmdPort env g help cmdl) ↔
      ¬ ∃ ifname attach options, cmdl.left = ifname :: attach :: options ∧ env.ifNameToIndex ifname ≠ 0 ∧
        AttachRejected env (env.ifNameToIndex ifname) g.brindex attach options := by
  unfold cmdPort
  simp only [noHelp, Bool.false_eq_true, if_false]
  cases left : cmdl.left with
  | nil =>
      rw [shiftCmdl_end left]
      refine iff_of_true (.of_quiet (.bind (.usage _) fun _ _ => .pure _)) ?_
      rintro ⟨_, _, _, words, _⟩
      cases words
  | cons ifname words =>
      rw [shiftCmdl_left left]
      simp only
      split
      · rename_i missing
        refine iff_of_true (.of_quiet (.bind (.report _) fun _ _ => .pure _)) ?_
        rintro ⟨_, _, _, same, interface, _⟩
        cases same
        exact interface missing
      · rename_i interface
        rw [portCmds_rejectsFirst rfl, Cmdl.left_next left]
        apply not_congr
        constructor
        · rintro ⟨attach, options, rfl, rejected⟩
          exact ⟨_, attach, options, rfl, interface, rejected⟩
        · rintro ⟨_, attach, options, same, _, rejected⟩
          cases same
          exact ⟨attach, options, rfl, rejected⟩

end Port

section Main

variable {env : ToolEnv} {args : List Str} {prog : Str}

/-- The command line `port IFNAME attach OPTIONS`, without `-h`, whose request is accepted
    and whose options are wrong. -/
structure AttachesFirst (env : ToolEnv) (args : List Str) (port ifname attach : Str) (options : List Str) : Prop where
  valid : .invalid ∉ (scanned env args).found
  noHelp : ¬ AsksForHelp env args
  bridge : bridgeIndex env args ≠ 0
  words : (scanned env args).operands = port :: ifname :: attach :: options
  port : port ≠ [] ∧ port <+: "port".toList
  interface : env.ifNameToIndex ifname ≠ 0
  rejected : AttachRejected env (env.ifNameToIndex ifname) (bridgeIndex env args) attach options

theorem ubrCmds_rejectsFirst {g : Globals} {cmd : Cmd} (known : cmd ∈ ubrCmds env) (other : cmd.cmd ≠ "port".toList)
    (cmdl : Cmdl) : RejectsFirst (cmd.func g cmd.help cmdl) := by
  simp only [ubrCmds, List.mem_cons, List.not_mem_nil, or_false] at known
  rcases known with rfl | rfl | rfl | rfl | rfl
  · exact cmdAdd_rejectsFirst cmdl
  · exact cmdDel_rejectsFirst cmdl
  · exact cmdFdb_rejectsFirst
  · exact absurd rfl other
  · exact cmdVlan_rejectsFirst

theorem help_rejectsFirst (valid : .invalid ∉ (scanned env args).found) (asks : AsksForHelp env args) :
    RejectsFirst (ubrMain env prog args) := by
  obtain ⟨cmdl, _, main⟩ := ubrMain_help prog valid asks
  rw [main, exitOf_rejectsFirst]
  apply runCmd_rejectsFirst
  intro cmd known cmdl
  by_cases other : cmd.cmd = "port".toList
  · apply RejectsFirst.of_quiet
    simp only [ubrCmds, List.mem_cons, List.not_mem_nil, or_false] at known
    rcases known with rfl | rfl | rfl | rfl | rfl
    · cases other
    · cases other
    · cases other
    · exact runCmd_quiet _ _ (portCmds_quiet rfl)
    · cases other
  · exact ubrCmds_rejectsFirst known other cmdl

theorem words_rejectsFirst {g : Globals} {cmdl : Cmdl} (noHelp : g.helpFlag = false) :
    RejectsFirst (runCmd .about (ubrCmds env) g cmdl) ↔
      ¬ ∃ port ifname attach options, cmdl.left = port :: ifname :: attach :: options ∧
        (port ≠ [] ∧ port <+: "port".toList) ∧ env.ifNameToIndex ifname ≠ 0 ∧
        AttachRejected env (env.ifNameToIndex ifname) g.brindex attach options := by
  cases left : cmdl.left with
  | nil =>
      rw [runCmd_end g left]
      refine iff_of_true (.one _ _) ?_
      rintro ⟨_, _, _, _, words, _⟩
      cases words
  | cons word rest =>
      cases found : findCmd (ubrCmds env) word with
      | none =>
          rw [runCmd_missing g left found]
          refine iff_of_true (.one _ _) ?_
          rintro ⟨_, _, _, _, words, port, _⟩
          cases words
          cases found.symm.trans (findCmd_port port)
      | some cmd =>
          rw [runCmd_found g left found]
          by_cases port : word ≠ [] ∧ word <+: "port".toList
          · cases found.symm.trans (findCmd_port port)
            have first := cmdPort_rejectsFirst env .port cmdl.next noHelp
            rw [Cmdl.left_next left] at first
            refine first.trans (not_congr ?_)
            constructor
            · rintro ⟨ifname, attach, options, rfl, interface, rejected⟩
              exact ⟨word, ifname, attach, options, rfl, port, interface, rejected⟩
            · rintro ⟨_, ifname, attach, options, words, _, interface, rejected⟩
              cases words
              exact ⟨ifname, attach, options, rfl, interface, rejected⟩
          · refine iff_of_true (ubrCmds_rejectsFirst (mem_of_findCmd found) ?_ _) ?_
            · intro name
              obtain ⟨_, letters, abbreviates⟩ := findCmd_ubr.mp found
              exact port ⟨letters, name ▸ abbreviates⟩
            · rintro ⟨_, _, _, _, words, named, _⟩
              cases words
              exact port named

/-- A command line is rejected before anything is changed if, and only if, it does not attach
    a port with options that are wrong. -/
theorem rejects_first_iff :
    RejectsFirst (ubrMain env prog args) ↔
      ¬ ∃ port ifname attach options, AttachesFirst env args port ifname attach options := by
  by_cases invalid : .invalid ∈ (scanned env args).found
  · rw [ubrMain_invalid invalid]
    refine iff_of_true (.one _ _) ?_
    rintro ⟨_, _, _, _, attaches⟩
    exact attaches.valid invalid
  by_cases asks : AsksForHelp env args
  · refine iff_of_true (help_rejectsFirst invalid asks) ?_
    rintro ⟨_, _, _, _, attaches⟩
    exact attaches.noHelp asks
  obtain ⟨cmdl, left, main⟩ := ubrMain_noHelp prog invalid asks
  rw [main]
  split
  · rename_i missing
    refine iff_of_true (.one _ _) ?_
    rintro ⟨_, _, _, _, attaches⟩
    exact attaches.bridge missing.1
  · rename_i goesOn
    rw [exitOf_rejectsFirst, words_rejectsFirst rfl, left]
    apply not_congr
    constructor
    · rintro ⟨port, ifname, attach, options, words, named, interface, rejected⟩
      have bridge : bridgeIndex env args ≠ 0 := by
        intro missing
        apply goesOn
        rw [words]
        exact ⟨missing, notAdd_of_head named.1 named.2 (by simp)⟩
      exact ⟨port, ifname, attach, options, invalid, asks, bridge, words, named, interface, rejected⟩
    · rintro ⟨port, ifname, attach, options, attaches⟩
      exact ⟨port, ifname, attach, options, attaches.words, attaches.port, attaches.interface, attaches.rejected⟩

section Plays

/-- There are a bridge `ubr0` and an interface `eth0`, and every request is acknowledged. -/
def attachEnv : ToolEnv where
  ifNameToIndex name := if name = "ubr0".toList then 5 else if name = "eth0".toList then 3 else 0
  replies _ := [.ack]

/-- `ubr port eth0 attach foo` attaches the port and then complains about `foo`. -/
theorem attaches_before_rejection : ¬ ∀ env prog args, RejectsFirst (ubrMain env prog args) := by
  intro always
  have first := always attachEnv "ubr".toList ["port".toList, "eth0".toList, "attach".toList, "foo".toList]
  have log : (ubrMain attachEnv "ubr".toList ["port".toList, "eth0".toList, "attach".toList, "foo".toList]).log =
      [.send (.setlink 3 "ubr".toList 5), .report (.invalidOption "foo".toList)] := by decide
  rw [RejectsFirst, log, List.pairwise_pair] at first
  cases first rfl

end Plays

end Main

end UnassumingBridge
