import UnassumingBridge.Effects.Step

/-! # The bridge that `ubr_dev_newlink` builds -/

namespace UnassumingBridge

open Support

variable {τ : Type} {cfg : Config}

/-- The private area when `ubr_vlan_newlink` and `ubr_fdb_newlink` have run. -/
def linkedUbr (cfg : Config) (dev : Dev) (devAddr : Mac) : Ubr τ :=
  { (zeroedUbr dev devAddr : Ubr τ).addVlan cfg 0 with fdb := { ageingTimeout := 300 * cfg.hz } }

/-- VLAN 0 is registered and port 0, the host, is plugged in as its only member. -/
def freshUbr (cfg : Config) (dev : Dev) (devAddr : Mac) : Ubr τ :=
  (linkedUbr cfg dev devAddr).plug 0 dev 0 (newVlan 0)

theorem linked_heap (dev : Dev) (devAddr : Mac) :
    (linkedUbr cfg dev devAddr : Ubr τ).heap 0 = some (newVlan 0) :=
  addVlan_heap cfg (zeroedUbr dev devAddr : Ubr τ) 0

theorem linked_find (dev : Dev) (devAddr : Mac) :
    ubrVlanFind cfg (linkedUbr cfg dev devAddr : Ubr τ) 0 = .ok (some 0) := by
  have bucket : (linkedUbr cfg dev devAddr : Ubr τ).vlans (cfg.vlanHash 0) = [0] := by
    simp [linkedUbr, Ubr.addVlan, zeroedUbr]
  simp only [ubrVlanFind, bucket, findInBucket, Ubr.vlanAt_some (linked_heap dev devAddr)]
  rfl

private theorem linked_plug (dev : Dev) (devAddr : Mac) :
    ubrPortInit cfg (linkedUbr cfg dev devAddr : Ubr τ) 0 dev = .ok (freshUbr cfg dev devAddr) :=
  ubrPortInit_ok.mpr ⟨0, newVlan 0, linked_find dev devAddr, linked_heap dev devAddr, rfl⟩

theorem ubrDevNewlink_eq (dev : Dev) (devAddr : Mac) (env : NewlinkEnv) :
    ubrDevNewlink cfg dev devAddr env =
      .ok (if env.zallocFails then .error .enomem
        else match env.rhashtable, env.register with
          | some e, _ => .error e
          | none, some e => .error e
          | none, none => .ok (freshUbr cfg dev devAddr : Ubr τ)) := by
  obtain ⟨zallocFails, rhashtable, register⟩ := env
  cases zallocFails with
  | true => rfl
  | false =>
      cases rhashtable with
      | some e => rfl
      | none =>
          change (ubrPortInit cfg (linkedUbr cfg dev devAddr : Ubr τ) 0 dev >>= _) = _
          rw [linked_plug]
          cases register with
          | some e => rfl
          | none => rfl

theorem fresh_find (dev : Dev) (devAddr : Mac) :
    ubrVlanFind cfg (freshUbr cfg dev devAddr : Ubr τ) 0 = .ok (some 0) := by
  have bucket : (freshUbr cfg dev devAddr : Ubr τ).vlans (cfg.vlanHash 0) = [0] := by
    simp [freshUbr, Ubr.plug, Ubr.putVlan, Ubr.putPort, linkedUbr, Ubr.addVlan, zeroedUbr]
  have object : (freshUbr cfg dev devAddr : Ubr τ).heap 0 = some ((newVlan 0).attach 0 false) := by
    simp [freshUbr, Ubr.plug, Ubr.putVlan, Ubr.putPort]
  simp only [ubrVlanFind, bucket, findInBucket, Ubr.vlanAt_some object]
  rfl

/-- With failures there is no bridge, so a new bridge is always the same. -/
theorem ubrDevNewlink_made {dev : Dev} {devAddr : Mac} {env : NewlinkEnv} {ubr : Ubr τ}
    (made : ubrDevNewlink cfg dev devAddr env = .ok (.ok ubr)) : ubr = freshUbr cfg dev devAddr := by
  rw [ubrDevNewlink_eq] at made
  have made := Except.ok.inj made
  split at made
  · cases made
  · split at made
    · cases made
    · cases made
    · exact (Except.ok.inj made).symm

theorem init_ubr {s : Sys τ} (init : s.Init cfg) : ∃ dev devAddr, s.ubr = freshUbr cfg dev devAddr := by
  obtain ⟨⟨dev, devAddr, env, made⟩, _⟩ := init
  exact ⟨dev, devAddr, ubrDevNewlink_made made⟩

/-- A little-endian machine: `hash_32` on the buckets, `HZ` 250. -/
def x86 : Config where
  bigEndian := false
  ipv6 := true
  vlanHash vid := Fin.ofNat 256 ((vid.toNat * 0x61C88647) % 2 ^ 32 >>> 24)
  hz := 250
  vlanMaxDepth := 8

/-- The bridge device 1000 after `ubr_dev_newlink`, among Ethernet devices. -/
def bootedAt (cfg : Config) (now : τ) : Sys τ where
  ubr := freshUbr cfg 1000 0x02ed00000001
  devs dev := { devAddr := 0x020000000000 + BitVec.ofNat 48 dev }
  jiffies := now

/-- The same on a clock that has just been started and never wraps. -/
def booted (cfg : Config) : Sys Nat := bootedAt cfg 0

theorem bootedAt_init (cfg : Config) (now : τ) : (bootedAt cfg now).Init cfg := by
  refine ⟨⟨1000, 0x02ed00000001, {}, ?_⟩, fun _ => rfl⟩
  rw [ubrDevNewlink_eq]
  rfl

theorem booted_init (cfg : Config) : (booted cfg).Init cfg := bootedAt_init cfg 0

theorem run_bootedAt [Jiffies τ] (cfg : Config) (now : τ) (C : Sys τ → Event → Prop) [∀ s e, Decidable (C s e)]
    (es : List Event) (test : History τ → Sys τ → Bool)
    (passed : ((bridge τ cfg).play C es ([], bootedAt cfg now)).any (fun out => test out.1 out.2) = true) :
    ∃ tr s, Run (bridge τ cfg) C tr s ∧ test tr s = true :=
  Machine.exists_run_of_play es (bootedAt_init cfg now) test passed

theorem run_booted (cfg : Config) (C : Sys Nat → Event → Prop) [∀ s e, Decidable (C s e)]
    (es : List Event) (test : History Nat → Sys Nat → Bool)
    (passed : ((bridge Nat cfg).play C es ([], booted cfg)).any (fun out => test out.1 out.2) = true) :
    ∃ tr s, Run (bridge Nat cfg) C tr s ∧ test tr s = true :=
  run_bootedAt cfg 0 C es test passed

end UnassumingBridge
