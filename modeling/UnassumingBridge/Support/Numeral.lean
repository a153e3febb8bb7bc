import Mathlib.Tactic.Common
import Mathlib.Data.List.TakeWhile
import Mathlib.Algebra.Order.Ring.Int

/-! # Decimal numerals

The conversion of strings to integers of the C library, with a `long` of 64 bits and
an `int` of 32.
-/

namespace Support.Numeral

/-- `isspace` in the C locale -/
def isSpace (c : Char) : Bool := c = ' ' || ('\t' ≤ c && c ≤ '\r')

/-- The number that a list of digits stands for. -/
def value (digits : List Char) : Nat := digits.foldl (fun n c => 10 * n + (c.toNat - '0'.toNat)) 0

/-- `strtol(s, NULL, 10)`: the longest numeral behind blanks and a sign, 0 without one. -/
def strtol (s : List Char) : Int :=
  match s.dropWhile isSpace with
  | '-' :: rest => max (-(value (rest.takeWhile Char.isDigit) : Int)) (-2 ^ 63)
  | '+' :: rest => min (value (rest.takeWhile Char.isDigit) : Int) (2 ^ 63 - 1)
  | rest => min (value (rest.takeWhile Char.isDigit) : Int) (2 ^ 63 - 1)

/-- `atoi` of glibc: the result of `strtol`, cut to an `int`. -/
def atoi (s : List Char) : BitVec 32 := BitVec.ofInt 32 (strtol s)

/-- A nonempty string of digits. -/
def IsNumeral (s : List Char) : Prop := s ≠ [] ∧ ∀ c ∈ s, c.isDigit = true

theorem isSpace_of_isDigit {c : Char} (digit : c.isDigit = true) : isSpace c = false := by
  unfold Char.isDigit at digit
  unfold isSpace
  simp only [Bool.and_eq_true, decide_eq_true_eq] at digit
  simp only [Bool.or_eq_false_iff, decide_eq_false_iff_not, Bool.and_eq_false_iff]
  constructor
  · rintro rfl
    exact absurd digit.1 (by decide)
  · right
    intro small
    have least : '0'.toNat ≤ c.toNat := digit.1
    have most : c.toNat ≤ '\r'.toNat := small
    have apart : '\r'.toNat < '0'.toNat := by decide
    omega

theorem strtol_of_isNumeral {s : List Char} (numeral : IsNumeral s) : strtol s = min (value s : Int) (2 ^ 63 - 1) := by
  obtain ⟨some, digits⟩ := numeral
  obtain ⟨c, rest, rfl⟩ := List.exists_cons_of_ne_nil some
  have digit := digits c List.mem_cons_self
  have start : (c :: rest).dropWhile isSpace = c :: rest := by
    simp [isSpace_of_isDigit digit]
  have whole : (c :: rest).takeWhile Char.isDigit = c :: rest := List.takeWhile_eq_self_iff.mpr digits
  unfold strtol
  rw [start]
  split
  · rename_i same
    cases same
    exact absurd digit (by decide)
  · rename_i same
    cases same
    exact absurd digit (by decide)
  · rw [whole]

theorem atoi_of_isNumeral {s : List Char} (numeral : IsNumeral s) (small : value s < 2 ^ 31) :
    atoi s = BitVec.ofNat 32 (value s) := by
  have exact : min (value s : Int) (2 ^ 63 - 1) = value s := by omega
  rw [atoi, strtol_of_isNumeral numeral, exact, BitVec.ofInt_natCast]

end Support.Numeral
