import UnassumingBridge.Kernel.Network
import UnassumingBridge.Effects.Fresh

/-! # The module after it was loaded -/

namespace UnassumingBridge

open Support

variable {τ : Type}

/-- Devices 1 to 999 are Ethernet devices, with their numbers as indexes. -/
def loadedAt (now : τ) : Net τ where
  devs dev := { devAddr := 0x020000000000 + BitVec.ofNat 48 dev }
  byIndex ifindex := if 0 < ifindex.toNat ∧ ifindex.toNat < 1000 then some ifindex.toNat else none
  nextDev := 1000
  othersPromisc _ := 0
  othersAllmulti _ := 0
  jiffies := now

/-- The same on a clock that has just been started and never wraps. -/
def loaded : Net Nat := loadedAt 0

theorem loadedAt_init (now : τ) : (loadedAt now).Init where
  ubrs := rfl
  outside _ := rfl
  masters _ := rfl
  refs := rfl
  promisc _ := rfl
  allmulti _ := rfl

theorem loaded_init : loaded.Init := loadedAt_init 0

theorem run_loadedAt [Jiffies τ] (cfg : Config) (now : τ) (C : Net τ → NetEvent → Prop) [∀ s e, Decidable (C s e)]
    (es : List NetEvent) (test : List (Transition (Net τ) NetEvent Outcome) → Net τ → Bool)
    (passed : ((bridges τ cfg).play C es ([], loadedAt now)).any (fun out => test out.1 out.2) = true) :
    ∃ tr s, Run (bridges τ cfg) C tr s ∧ test tr s = true :=
  Machine.exists_run_of_play es (loadedAt_init now) test passed

theorem run_loaded (cfg : Config) (C : Net Nat → NetEvent → Prop) [∀ s e, Decidable (C s e)]
    (es : List NetEvent) (test : List (Transition (Net Nat) NetEvent Outcome) → Net Nat → Bool)
    (passed : ((bridges Nat cfg).play C es ([], loaded)).any (fun out => test out.1 out.2) = true) :
    ∃ tr s, Run (bridges Nat cfg) C tr s ∧ test tr s = true :=
  run_loadedAt cfg 0 C es test passed

end UnassumingBridge
