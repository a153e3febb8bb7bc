import UnassumingBridge.Effects.Genl
import UnassumingBridge.Effects.Network
import UnassumingBridge.Invariants.Registry

/-! # Requests that cannot be carried out

A request may lack an attribute, or name something that is not there. It should be
refused and change nothing. Every handler falls short of that somewhere, and
`Net.Manages` says where it does not.
-/

namespace UnassumingBridge

open Support

variable {τ : Type} {cfg : Config}

/-- The registry, the memberships and what the ports do with VLANs. -/
def Ubr.settings (ubr : Ubr τ) : (Fin 256 → List VlanRef) × (VlanRef → Option UbrVlan) × (Pidx → Vid × UbrCb) :=
  (ubr.vlans, ubr.heap, fun k => ((ubr.ports k).pvid, (ubr.ports k).ingressCb))

/-- The device is one of the bridge's ports. -/
def Ubr.hasPort (ubr : Ubr τ) (port : Dev) : Prop := ∃ k ∈ ubr.busy, (ubr.ports k).dev = some port

/-- The index belongs to one of the bridge's ports. -/
def Net.namesPort (net : Net τ) (ubr : Ubr τ) (ifindex : BitVec 32) : Prop :=
  ∃ port, net.byIndex ifindex = some port ∧ ubr.hasPort port

/-- The request has the attributes that it needs, and what it names is there. -/
def Net.Proper (cfg : Config) (net : Net τ) (req : Request) : Prop :=
  ∃ dev ubr, net.bridgeOf req.info = some (dev, ubr) ∧
    match req.cmd with
    | .fdbFlush => True
    | .vlanAdd => ∃ vid, req.info.vid = .ok vid
    | .vlanDel | .vlanSet => ∃ vid, req.info.vid = .ok vid ∧ ubr.registered cfg vid = true
    | .vlanAttach | .vlanDetach => ∃ vid ifindex tagged, req.info.membership = .ok (vid, ifindex, tagged) ∧
        net.namesPort ubr ifindex ∧ ubr.registered cfg vid = true
    | .portSet => ∃ pvid ifindex, req.info.portSettings = .ok (pvid, ifindex) ∧ net.namesPort ubr ifindex

/-- The handler returns, and an improper request is refused and changes nothing. -/
def Net.Answers (cfg : Config) (net : Net τ) (admin : Bool) (req : Request) : Prop :=
  ∃ net' ret, genlRcvMsg cfg net admin req = .ok (net', ret) ∧
    (¬ net.Proper cfg req → (∃ e, ret = .error e) ∧
      ∀ dev, (net'.ubrs dev).map Ubr.settings = (net.ubrs dev).map Ubr.settings)

/-- The walk along the bucket of the VID meets no freed object. -/
def Ubr.readable (cfg : Config) (ubr : Ubr τ) (vid : Vid) : Prop := ∃ found, ubrVlanFind cfg ubr vid = .ok found

/-- What a request must not ask for. -/
def Net.Manages (cfg : Config) (net : Net τ) (req : Request) : Prop :=
  match req.cmd with
  | .fdbFlush => (net.bridgeOf req.info).isSome
  | .vlanAdd => ∀ vid dev ubr, req.info.vid = .ok vid → net.bridgeOf req.info = some (dev, ubr) →
      ubr.readable cfg vid
  | .vlanDel => ∀ vid dev ubr, req.info.vid = .ok vid → net.bridgeOf req.info = some (dev, ubr) →
      ubrVlanFind cfg ubr vid = .ok none ∨ ubr.registered cfg vid = true
  | .vlanSet => ∀ vid, req.info.vid = .ok vid → ∃ dev ubr, net.bridgeOf req.info = some (dev, ubr) ∧
      ubr.registered cfg vid = true
  | .vlanAttach => ∀ vid ifindex tagged dev ubr port, req.info.membership = .ok (vid, ifindex, tagged) →
      net.bridgeOf req.info = some (dev, ubr) → net.byIndex ifindex = some port →
      (ubr.hasPort port → ubr.registered cfg vid = true) ∧ ubr.readable cfg vid
  | .vlanDetach => ∀ vid ifindex tagged dev ubr port, req.info.membership = .ok (vid, ifindex, tagged) →
      net.bridgeOf req.info = some (dev, ubr) → net.byIndex ifindex = some port →
      ubr.hasPort port ∧ ubr.registered cfg vid = true
  | .portSet => ∀ pvid ifindex dev ubr, req.info.portSettings = .ok (pvid, ifindex) →
      net.bridgeOf req.info = some (dev, ubr) → net.namesPort ubr ifindex → ubr.readable cfg pvid

/-- The computation returns, and what it returns passes a test. -/
def Ends {α : Type} (result : Except Fault (α × Ret)) (P : Ret → Prop) : Prop :=
  ∃ a ret, result = .ok (a, ret) ∧ P ret

section Ends

variable {α : Type} {P : Ret → Prop} {ubr : Ubr τ} {vid : Vid} {port : Dev}

@[simp] theorem ends_ok (a : α) (ret : Ret) : Ends (.ok (a, ret)) P ↔ P ret := by
  simp [Ends]

@[simp] theorem ends_error (f : Fault) : Ends (.error f : Except Fault (α × Ret)) P ↔ False := by
  simp [Ends]

@[simp] theorem ends_commanded (net : Net τ) (dev : Dev) (result : Except Fault (Ubr τ × Ret)) :
    Ends (net.commanded dev result) P ↔ Ends result P := by
  cases result with
  | error f => simp [Net.commanded]
  | ok out =>
      obtain ⟨ubr, ret⟩ := out
      simp [Net.commanded, Ends]

theorem ubrPortFind_iff : (∃ k, ubrPortFind ubr (some port) = .ok k) ↔ ubr.hasPort port := by
  constructor
  · rintro ⟨k, found⟩
    exact ⟨k, ubrPortFind_ok found⟩
  · rintro ⟨k, inUse, same⟩
    cases found : ubrPortFind ubr (some port) with
    | ok k => exact ⟨k, rfl⟩
    | error e =>
        simp only [ubrPortFind] at found
        split at found
        · cases found
        · rename_i nobody
          have other := List.find?_eq_none.mp nobody k (Bitmap.mem_toList.mpr inUse)
          simp [same] at other

theorem ends_add (zallocFails : Bool) (any : ∀ ret, P ret) :
    Ends (ubrVlanNlAdd cfg ubr vid zallocFails) P ↔ ubr.readable cfg vid := by
  unfold Ubr.readable
  cases walked : ubrVlanFind cfg ubr vid with
  | error f =>
      have crash : ubrVlanNlAdd cfg ubr vid zallocFails = .error f := by
        simp only [ubrVlanNlAdd, ubrVlanNew, walked]
        rfl
      simp [crash]
  | ok found =>
      cases found with
      | some r => simp [ubrVlanNlAdd_busy walked, any]
      | none =>
          cases zallocFails with
          | true => simp [ubrVlanNlAdd_nomem walked, any]
          | false => simp [ubrVlanNlAdd_added walked, any]

theorem ends_del (any : ∀ e, P (.error e)) (proper : ubr.registered cfg vid = true → P (.ok ())) :
    Ends (ubrVlanNlDel cfg ubr vid) P ↔ ubrVlanFind cfg ubr vid = .ok none ∨ ubr.registered cfg vid = true := by
  cases walked : ubrVlanFind cfg ubr vid with
  | error f =>
      have crash : ubrVlanNlDel cfg ubr vid = .error f := by
        simp only [ubrVlanNlDel, walked]
        rfl
      simp [crash, Ubr.registered, walked]
  | ok found =>
      cases found with
      | none => simp [ubrVlanNlDel_noent walked, any]
      | some r =>
          obtain ⟨_, v, live, same⟩ := findInBucket_some walked
          have cached : updatePortVlan ubr r false = .ok (ubr.cachePvid v.vid none) := updatePortVlan_eq live false
          have emptied : (ubr.cachePvid v.vid none).modVlan (some r) (fun v => { v with members := .zero }) =
              .ok ((ubr.cachePvid v.vid none).putVlan r { v with members := .zero }) :=
            Ubr.modVlan_eq_ok.mpr ⟨r, v, rfl, live, rfl⟩
          rw [registered_eq walked] at proper ⊢
          by_cases queued : r ∈ ubr.vlanRcu
          · have crash : ubrVlanNlDel cfg ubr vid = .error .rcuHeadInUse := by
              simp only [ubrVlanNlDel, walked]
              change (updatePortVlan ubr r false >>= _) = _
              rw [cached]
              change ((ubrVlanDel (ubr.cachePvid v.vid none) r) >>= _) = _
              simp only [ubrVlanDel, emptied]
              change ((if r ∈ ubr.vlanRcu then _ else _) >>= _) = _
              rw [if_pos queued]
              rfl
            simp [crash, queued]
          · have gone : ∃ ubr', ubrVlanNlDel cfg ubr vid = .ok (ubr', .ok ()) := by
              refine ⟨ubr.dropVlan r v, ?_⟩
              simp only [ubrVlanNlDel, walked]
              change (updatePortVlan ubr r false >>= _) = _
              rw [cached]
              change ((ubrVlanDel (ubr.cachePvid v.vid none) r) >>= _) = _
              simp only [ubrVlanDel, emptied]
              change ((if r ∈ ubr.vlanRcu then _ else _) >>= _) = _
              rw [if_neg queued]
              rfl
            obtain ⟨ubr', gone⟩ := gone
            simp [gone, queued, proper]

theorem ends_modVlan {vlan : Option VlanRef} {f : UbrVlan → UbrVlan}
    (walked : ubrVlanFind cfg ubr vid = .ok vlan) :
    Ends (ubr.modVlan vlan f >>= fun ubr => .ok (ubr, .ok ())) P ↔ vlan.isSome ∧ P (.ok ()) := by
  cases vlan with
  | none =>
      change Ends (.error .nullDeref : Except Fault (Ubr τ × Ret)) P ↔ _
      simp
  | some r =>
      obtain ⟨_, v, live, _⟩ := findInBucket_some walked
      have done : ubr.modVlan (some r) f = .ok (ubr.putVlan r (f v)) :=
        Ubr.modVlan_eq_ok.mpr ⟨r, v, rfl, live, rfl⟩
      rw [done]
      change Ends (.ok (ubr.putVlan r (f v), .ok ())) P ↔ _
      simp

/-- A command on a VLAN and a port: what it returns when the port is not found, and else
    that it changes the VLAN. -/
private theorem ends_membership {missing : Ret} {f : Pidx → UbrVlan → UbrVlan} (P : Ret → Prop) :
    Ends (ubrVlanFind cfg ubr vid >>= fun vlan =>
      match ubrPortFind ubr (some port) with
      | .error _ => .ok (ubr, missing)
      | .ok pidx => ubr.modVlan vlan (f pidx) >>= fun ubr => .ok (ubr, .ok ())) P ↔
    ubr.readable cfg vid ∧ (¬ ubr.hasPort port → P missing) ∧
      (ubr.hasPort port → (∃ r, ubrVlanFind cfg ubr vid = .ok (some r)) ∧ P (.ok ())) := by
  unfold Ubr.readable
  rw [← ubrPortFind_iff]
  cases walked : ubrVlanFind cfg ubr vid with
  | error e =>
      change Ends (.error e : Except Fault (Ubr τ × Ret)) P ↔ _
      simp
  | ok vlan =>
      cases ubrPortFind ubr (some port) with
      | error e =>
          change Ends (.ok (ubr, missing)) P ↔ _
          simp
      | ok pidx =>
          change Ends (ubr.modVlan vlan (f pidx) >>= fun ubr => .ok (ubr, .ok ())) P ↔ _
          rw [ends_modVlan walked]
          simp [Option.isSome_iff_exists]

theorem ends_attach (tagged : BitVec 32) (P : Ret → Prop) :
    Ends (ubrVlanNlAttach cfg ubr vid port tagged) P ↔
      ubr.readable cfg vid ∧ (¬ ubr.hasPort port → P (.error .enodev)) ∧
        (ubr.hasPort port → (∃ r, ubrVlanFind cfg ubr vid = .ok (some r)) ∧ P (.ok ())) :=
  ends_membership P

theorem ends_detach (P : Ret → Prop) :
    Ends (ubrVlanNlDetach cfg ubr vid port) P ↔
      ubr.readable cfg vid ∧ (¬ ubr.hasPort port → P (.ok ())) ∧
        (ubr.hasPort port → (∃ r, ubrVlanFind cfg ubr vid = .ok (some r)) ∧ P (.ok ())) :=
  ends_membership P

theorem ends_portSet {port : Option Dev} (pvid : Vid) (P : Ret → Prop) :
    Ends (ubrPortNlSet cfg ubr port pvid) P ↔
      ((¬ ∃ dev, port = some dev ∧ ubr.hasPort dev) → P (.error .einval)) ∧
        ((∃ dev, port = some dev ∧ ubr.hasPort dev) → ubr.readable cfg pvid ∧ P (.ok ())) := by
  unfold Ubr.readable ubrPortNlSet
  cases port with
  | none => simp [ubrPortFind]
  | some dev =>
      simp only [Option.some.injEq, exists_eq_left', ← ubrPortFind_iff]
      cases ubrPortFind ubr (some dev) with
      | error e => simp
      | ok pidx =>
          cases walked : ubrVlanFind cfg ubr pvid with
          | error f =>
              change Ends (.error f : Except Fault (Ubr τ × Ret)) P ↔ _
              simp
          | ok vlan =>
              change Ends (.ok (_, .ok ())) P ↔ _
              simp

theorem ends_command {net : Net τ} {info : GenlInfo} (run : Dev → Ubr τ → Except Fault (Ubr τ × Ret)) :
    Ends (net.command info run) P ↔
      (net.bridgeOf info = none → P (.error .einval)) ∧
        ∀ dev ubr, net.bridgeOf info = some (dev, ubr) → Ends (run dev ubr) P := by
  unfold Net.command
  cases named : net.bridgeOf info with
  | none => simp
  | some found =>
      obtain ⟨dev, ubr⟩ := found
      simp

theorem ends_commandOn {net : Net τ} {info : GenlInfo} (any : ∀ e, P (.error e))
    (run : Ubr τ → Vid → Dev → BitVec 32 → Except Fault (Ubr τ × Ret)) :
    Ends (net.commandOn info run) P ↔
      ∀ vid ifindex tagged dev ubr port, info.membership = .ok (vid, ifindex, tagged) →
        net.bridgeOf info = some (dev, ubr) → net.byIndex ifindex = some port → Ends (run ubr vid port tagged) P := by
  unfold Net.commandOn
  rw [ends_command]
  cases wanted : info.membership with
  | error e => simp [any]
  | ok out =>
      obtain ⟨vid, ifindex, tagged⟩ := out
      cases looked : net.byIndex ifindex with
      | none => grind [ends_ok]
      | some port => grind

end Ends

theorem find_of_registered {ubr : Ubr τ} {vid : Vid} (registered : ubr.registered cfg vid = true) :
    ∃ r, ubrVlanFind cfg ubr vid = .ok (some r) := by
  obtain ⟨r, _, found, _⟩ := registered_iff.mp registered
  exact ⟨r, found⟩

variable {net : Net τ} {admin : Bool} {req : Request}

section Commands

variable {info : GenlInfo} {zallocFails : Bool}

private theorem add_iff :
    Ends (ubrVlanNlAddCmd cfg net info zallocFails)
        (fun ret => ¬ net.Proper cfg ⟨.vlanAdd, info, zallocFails⟩ → ∃ e, ret = .error e) ↔
      net.Manages cfg ⟨.vlanAdd, info, zallocFails⟩ := by
  simp only [ubrVlanNlAddCmd_eq, Net.Manages]
  cases parsed : info.vid with
  | error e => simp
  | ok vid =>
      rw [ends_command]
      constructor
      · rintro ⟨_, ends⟩ w dev ubr same named
        cases same
        have proper : net.Proper cfg ⟨.vlanAdd, info, zallocFails⟩ := ⟨dev, ubr, named, vid, parsed⟩
        exact (ends_add zallocFails fun _ improper => absurd proper improper).mp (ends dev ubr named)
      · intro readable
        refine ⟨fun _ _ => ⟨_, rfl⟩, fun dev ubr named => ?_⟩
        have proper : net.Proper cfg ⟨.vlanAdd, info, zallocFails⟩ := ⟨dev, ubr, named, vid, parsed⟩
        exact (ends_add zallocFails fun _ improper => absurd proper improper).mpr (readable vid dev ubr rfl named)

private theorem del_iff :
    Ends (ubrVlanNlDelCmd cfg net info)
        (fun ret => ¬ net.Proper cfg ⟨.vlanDel, info, zallocFails⟩ → ∃ e, ret = .error e) ↔
      net.Manages cfg ⟨.vlanDel, info, zallocFails⟩ := by
  simp only [ubrVlanNlDelCmd_eq, Net.Manages]
  cases parsed : info.vid with
  | error e => simp
  | ok vid =>
      have del (dev : Dev) (ubr : Ubr τ) (named : net.bridgeOf info = some (dev, ubr)) :
          Ends (ubrVlanNlDel cfg ubr vid)
            (fun ret => ¬ net.Proper cfg ⟨.vlanDel, info, zallocFails⟩ → ∃ e, ret = .error e) ↔ _ :=
        ends_del (fun e _ => ⟨e, rfl⟩) fun registered improper =>
          absurd ⟨dev, ubr, named, vid, parsed, registered⟩ improper
      rw [ends_command]
      constructor
      · rintro ⟨_, ends⟩ w dev ubr same named
        cases same
        exact (del dev ubr named).mp (ends dev ubr named)
      · intro manages
        exact ⟨fun _ _ => ⟨_, rfl⟩, fun dev ubr named => (del dev ubr named).mpr (manages vid dev ubr rfl named)⟩

private theorem set_iff :
    Ends (ubrVlanNlSetCmd net info)
        (fun ret => ¬ net.Proper cfg ⟨.vlanSet, info, zallocFails⟩ → ∃ e, ret = .error e) ↔
      net.Manages cfg ⟨.vlanSet, info, zallocFails⟩ := by
  simp only [ubrVlanNlSetCmd_eq, Net.Manages, Net.Proper]
  cases parsed : info.vid with
  | error e => simp
  | ok vid =>
      cases named : net.bridgeOf info with
      | none => simp
      | some found =>
          obtain ⟨dev, ubr⟩ := found
          simp

private theorem attach_iff :
    Ends (ubrVlanNlAttachCmd cfg net info)
        (fun ret => ¬ net.Proper cfg ⟨.vlanAttach, info, zallocFails⟩ → ∃ e, ret = .error e) ↔
      net.Manages cfg ⟨.vlanAttach, info, zallocFails⟩ := by
  rw [ubrVlanNlAttachCmd_eq, ends_commandOn fun e _ => ⟨e, rfl⟩]
  simp only [Net.Manages, ends_attach]
  constructor
  · intro ends vid ifindex tagged dev ubr port wanted named looked
    obtain ⟨readable, _, plugged⟩ := ends vid ifindex tagged dev ubr port wanted named looked
    refine ⟨fun has => ?_, readable⟩
    by_contra unregistered
    obtain ⟨_, refused⟩ := (plugged has).2 fun proper => by
      obtain ⟨_, _, named', _, _, _, wanted', _, registered⟩ := proper
      cases named.symm.trans named'
      cases wanted.symm.trans wanted'
      exact unregistered registered
    cases refused
  · intro manages vid ifindex tagged dev ubr port wanted named looked
    obtain ⟨registered, readable⟩ := manages vid ifindex tagged dev ubr port wanted named looked
    refine ⟨readable, fun _ _ => ⟨_, rfl⟩, fun has => ⟨find_of_registered (registered has), fun improper => ?_⟩⟩
    exact absurd ⟨dev, ubr, named, vid, ifindex, tagged, wanted, ⟨port, looked, has⟩, registered has⟩ improper

private theorem detach_iff :
    Ends (ubrVlanNlDetachCmd cfg net info)
        (fun ret => ¬ net.Proper cfg ⟨.vlanDetach, info, zallocFails⟩ → ∃ e, ret = .error e) ↔
      net.Manages cfg ⟨.vlanDetach, info, zallocFails⟩ := by
  rw [ubrVlanNlDetachCmd_eq, ends_commandOn fun e _ => ⟨e, rfl⟩]
  simp only [Net.Manages, ends_detach]
  constructor
  · intro ends vid ifindex tagged dev ubr port wanted named looked
    obtain ⟨readable, foreign, plugged⟩ := ends vid ifindex tagged dev ubr port wanted named looked
    by_contra unmanaged
    have improper : ¬ net.Proper cfg ⟨.vlanDetach, info, zallocFails⟩ := by
      rintro ⟨_, _, named', _, _, _, wanted', ⟨_, looked', has⟩, registered⟩
      cases named.symm.trans named'
      cases wanted.symm.trans wanted'
      cases looked.symm.trans looked'
      exact unmanaged ⟨has, registered⟩
    by_cases has : ubr.hasPort port
    · obtain ⟨_, refused⟩ := (plugged has).2 improper
      cases refused
    · obtain ⟨_, refused⟩ := foreign has improper
      cases refused
  · intro manages vid ifindex tagged dev ubr port wanted named looked
    obtain ⟨has, registered⟩ := manages vid ifindex tagged dev ubr port wanted named looked
    obtain ⟨r, found⟩ := find_of_registered registered
    have proper : net.Proper cfg ⟨.vlanDetach, info, zallocFails⟩ :=
      ⟨dev, ubr, named, vid, ifindex, tagged, wanted, ⟨port, looked, has⟩, registered⟩
    exact ⟨⟨_, found⟩, fun hasNot => absurd has hasNot, fun _ => ⟨⟨r, found⟩, fun improper => absurd proper improper⟩⟩

private theorem portSet_iff :
    Ends (ubrPortNlSetCmd cfg net info)
        (fun ret => ¬ net.Proper cfg ⟨.portSet, info, zallocFails⟩ → ∃ e, ret = .error e) ↔
      net.Manages cfg ⟨.portSet, info, zallocFails⟩ := by
  simp only [ubrPortNlSetCmd_eq, Net.Manages]
  cases parsed : info.portSettings with
  | error e => simp
  | ok wanted =>
      obtain ⟨pvid, ifindex⟩ := wanted
      have port (ubr : Ubr τ) : (∃ dev, net.leaked info = some dev ∧ ubr.hasPort dev) ↔ net.namesPort ubr ifindex := by
        simp [Net.leaked, parsed, Except.toOption, Net.namesPort]
      simp only [ends_command, held_bridgeOf, ends_portSet, port]
      constructor
      · rintro ⟨_, ends⟩ _ _ dev ubr same named names
        cases same
        exact ((ends dev ubr named).2 names).1
      · intro manages
        refine ⟨fun _ _ => ⟨_, rfl⟩, fun dev ubr named => ⟨fun _ _ => ⟨_, rfl⟩, fun names => ?_⟩⟩
        have proper : net.Proper cfg ⟨.portSet, info, zallocFails⟩ := ⟨dev, ubr, named, pvid, ifindex, parsed, names⟩
        exact ⟨manages pvid ifindex dev ubr rfl named names, fun improper => absurd proper improper⟩

end Commands

variable [Jiffies τ]

/-- What a refused request leaves alone is no matter of the handler. -/
theorem answers_iff :
    net.Answers cfg admin req ↔
      Ends (genlRcvMsg cfg net admin req) fun ret => ¬ net.Proper cfg req → ∃ e, ret = .error e := by
  constructor
  · rintro ⟨net', ret, done, refuses⟩
    exact ⟨net', ret, done, fun improper => (refuses improper).1⟩
  · rintro ⟨net', ret, done, refuses⟩
    refine ⟨net', ret, done, fun improper => ⟨refuses improper, fun dev => ?_⟩⟩
    rw [refused_unchanged done (.inr (refuses improper))]

/-- The handlers answer exactly the requests that they manage. -/
theorem requests_answered_iff : net.Answers cfg admin req ↔ net.Manages cfg req := by
  rw [answers_iff, genlRcvMsg_eq]
  obtain ⟨cmd, info, zallocFails⟩ := req
  cases cmd with
  | vlanAdd => exact add_iff
  | vlanDel => exact del_iff
  | vlanSet => exact set_iff
  | vlanAttach => exact attach_iff
  | vlanDetach => exact detach_iff
  | portSet => exact portSet_iff
  | fdbFlush =>
      simp only [ubrFdbNlFlushCmd_eq, Net.Manages, Net.Proper]
      cases named : net.bridgeOf info with
      | none => simp
      | some found =>
          obtain ⟨dev, ubr⟩ := found
          simp

/-- A request to flush, without any attribute. -/
theorem flush_needs_bridge :
    ¬ ∀ net : Net Nat, Reachable (bridges Nat x86) net → ∀ admin req, net.Answers x86 admin req := by
  intro claim
  obtain ⟨net', ret, done, _⟩ := claim loaded ⟨[], .init loaded_init⟩ false ⟨.fdbFlush, {}, false⟩
  have crash : genlRcvMsg x86 loaded false ⟨.fdbFlush, {}, false⟩ = .error .nullDeref := rfl
  rw [crash] at done
  cases done

end UnassumingBridge
