import Mathlib.Data.BitVec
import Mathlib.Data.List.FinRange

/-! # Fixed-width bitmaps

A bitmap of `n` bits with the operations of a C bitmap library. Everything a
client needs is stated through `test`: two bitmaps are equal when they agree on
every bit, and each operation has one lemma saying which bits it leaves set.
-/

namespace Support

/-- A bitmap of `n` bits; bit `i` is the `i`-th least significant one. -/
structure Bitmap (n : Nat) where
  bits : BitVec n
  deriving DecidableEq, Repr

namespace Bitmap

variable {n : Nat}

def test (v : Bitmap n) (i : Fin n) : Bool := v.bits.getLsbD i

/-- `i ∈ v` reads "bit `i` of `v` is set". -/
instance : Membership (Fin n) (Bitmap n) where
  mem v i := v.test i = true

instance (i : Fin n) (v : Bitmap n) : Decidable (i ∈ v) :=
  inferInstanceAs (Decidable (v.test i = true))

def zero : Bitmap n := ⟨0#n⟩

def fill : Bitmap n := ⟨BitVec.allOnes n⟩

def and (v w : Bitmap n) : Bitmap n := ⟨v.bits &&& w.bits⟩

def set (v : Bitmap n) (i : Fin n) : Bitmap n := ⟨v.bits ||| BitVec.twoPow n i⟩

def clear (v : Bitmap n) (i : Fin n) : Bitmap n := ⟨v.bits &&& ~~~BitVec.twoPow n i⟩

/-- The set bits, lowest first: the order in which `for_each_set_bit` visits them. -/
def toList (v : Bitmap n) : List (Fin n) := (List.finRange n).filter v.test

/-- The lowest set bit; `none` stands for the C result `n`. -/
def findFirst (v : Bitmap n) : Option (Fin n) := (List.finRange n).find? v.test

/-- The lowest clear bit; `none` stands for the C result `n`. -/
def findFirstZero (v : Bitmap n) : Option (Fin n) := (List.finRange n).find? (fun i => !v.test i)

theorem mem_iff {v : Bitmap n} {i : Fin n} : i ∈ v ↔ v.test i = true := Iff.rfl

theorem ext_mem {v w : Bitmap n} (h : ∀ i, i ∈ v ↔ i ∈ w) : v = w := by
  obtain ⟨v⟩ := v
  obtain ⟨w⟩ := w
  congr 1
  apply BitVec.eq_of_getLsbD_eq
  intro i hi
  exact Bool.eq_iff_iff.mpr (h ⟨i, hi⟩)

@[simp] theorem mem_zero (i : Fin n) : i ∉ (zero : Bitmap n) := by
  simp [mem_iff, test, zero]

@[simp] theorem mem_fill (i : Fin n) : i ∈ (fill : Bitmap n) := by
  simp [mem_iff, test, fill]

@[simp] theorem mem_and {v w : Bitmap n} {i : Fin n} : i ∈ v.and w ↔ i ∈ v ∧ i ∈ w := by
  simp [mem_iff, test, and]

@[simp] theorem mem_set {v : Bitmap n} {i j : Fin n} : j ∈ v.set i ↔ j = i ∨ j ∈ v := by
  simp [mem_iff, test, set, Fin.val_inj, or_comm]

@[simp] theorem mem_clear {v : Bitmap n} {i j : Fin n} : j ∈ v.clear i ↔ j ≠ i ∧ j ∈ v := by
  simp [mem_iff, test, clear, Fin.val_inj, and_comm]

@[simp] theorem mem_toList {v : Bitmap n} {i : Fin n} : i ∈ v.toList ↔ i ∈ v := by
  simp [toList, mem_iff]

theorem nodup_toList (v : Bitmap n) : v.toList.Nodup :=
  (List.nodup_finRange n).filter _

theorem findFirst_eq_none {v : Bitmap n} : v.findFirst = none ↔ ∀ i, i ∉ v := by
  simp [findFirst, mem_iff]

theorem mem_of_findFirst {v : Bitmap n} {i : Fin n} (h : v.findFirst = some i) : i ∈ v :=
  List.find?_some h

theorem le_of_findFirst {v : Bitmap n} {i j : Fin n} (h : v.findFirst = some i) (member : j ∈ v) : i ≤ j := by
  obtain ⟨_, before, after, split, none⟩ := List.find?_eq_some_iff_append.mp h
  have inside : j ∈ before ++ i :: after := split ▸ List.mem_finRange j
  rcases List.mem_append.mp inside with earlier | later
  · exact absurd member (by simpa [mem_iff] using none j earlier)
  · rcases List.mem_cons.mp later with rfl | later
    · exact le_refl _
    · have sorted := List.pairwise_lt_finRange n
      rw [split] at sorted
      exact le_of_lt (List.rel_of_pairwise_cons (List.pairwise_append.mp sorted).2.1 later)

/-- The lowest set bit and the ones above it are all the set bits. -/
theorem mem_iff_first {v : Bitmap n} {i j : Fin n} (h : v.findFirst = some i) :
    j ∈ v ↔ j = i ∨ j ∈ v.toList.filter (i < ·) := by
  constructor
  · intro member
    rcases eq_or_lt_of_le (le_of_findFirst h member) with same | above
    · exact .inl same.symm
    · exact .inr (List.mem_filter.mpr ⟨mem_toList.mpr member, decide_eq_true above⟩)
  · rintro (rfl | inside)
    · exact mem_of_findFirst h
    · exact mem_toList.mp (List.mem_of_mem_filter inside)

theorem notMem_of_findFirstZero {v : Bitmap n} {i : Fin n} (h : v.findFirstZero = some i) : i ∉ v := by
  have := List.find?_some h
  simpa [mem_iff] using this

end Bitmap
end Support
