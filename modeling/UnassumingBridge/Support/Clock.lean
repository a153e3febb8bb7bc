import Mathlib.Data.BitVec
import Mathlib.Tactic.Ring

/-! # Comparing times on a clock that wraps

A clock of `w` bits tells how far two times are apart as long as they are less than
half of its range apart. The sign of their difference then says which is later.
-/

namespace Support.Clock

variable {w : Nat} {start now : BitVec w} {timeout age : Nat}

theorem msb_ofNat {n : Nat} (small : n < 2 ^ w) : (BitVec.ofNat w n).msb = decide (2 ^ (w - 1) ≤ n) := by
  rw [BitVec.msb_eq_decide, BitVec.toNat_ofNat, Nat.mod_eq_of_lt small]

theorem two_halves (wide : 0 < w) : 2 ^ w = 2 ^ (w - 1) + 2 ^ (w - 1) := by
  obtain ⟨n, rfl⟩ := Nat.exists_eq_add_of_lt wide
  rw [Nat.zero_add, Nat.add_sub_cancel, Nat.pow_succ]
  omega

theorem ofNat_eq_neg {n : Nat} (below : n ≤ 2 ^ w) : BitVec.ofNat w (2 ^ w - n) = -BitVec.ofNat w n := by
  apply eq_neg_of_add_eq_zero_left
  rw [← BitVec.ofNat_add, Nat.sub_add_cancel below]
  apply BitVec.eq_of_toNat_eq
  rw [BitVec.toNat_ofNat, Nat.mod_self]
  exact BitVec.toNat_zero.symm

/-- The deadline has passed by the sign of what is left, if it passed less than half the
    range ago. -/
theorem expired_iff (wide : 0 < w) (elapsed : now = start + BitVec.ofNat w age) (half : timeout < 2 ^ (w - 1))
    (recent : age ≤ timeout + 2 ^ (w - 1)) :
    ((start + BitVec.ofNat w timeout) - now).slt 0#w = true ↔ timeout < age := by
  have range := two_halves wide
  rw [BitVec.slt_zero_eq_msb, elapsed]
  by_cases expired : timeout < age
  · have left : (start + BitVec.ofNat w timeout) - (start + BitVec.ofNat w age) =
        BitVec.ofNat w (2 ^ w - (age - timeout)) := by
      have later : age = timeout + (age - timeout) := by omega
      rw [ofNat_eq_neg (by omega), later, Nat.add_sub_cancel_left, BitVec.ofNat_add]
      ring
    rw [left, msb_ofNat (by omega)]
    simp only [expired, iff_true, decide_eq_true_eq]
    omega
  · have left : (start + BitVec.ofNat w timeout) - (start + BitVec.ofNat w age) = BitVec.ofNat w (timeout - age) := by
      have earlier : timeout = age + (timeout - age) := by omega
      rw [earlier, Nat.add_sub_cancel_left, BitVec.ofNat_add]
      ring
    rw [left, msb_ofNat (by omega)]
    simp only [expired, iff_false, decide_eq_true_eq]
    omega

end Support.Clock
