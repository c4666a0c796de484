import Mathlib.Algebra.Group.Nat.Defs
import Mathlib.Algebra.Order.Ring.Unbundled.Rat

/-!
# Single-precision numbers

An IEEE 754 binary32 number by its bits: the sign, eight bits of exponent and 23 of mantissa.
Without the sign the bits of two numbers are in the order of their magnitudes, the infinities
included, and both zeros are equal.  What is above the infinity is no number, and compares with
nothing.

## What is here

* `Binary32` — the numbers and their comparisons.
* `nearest` — the value that a non-negative result is rounded to.
-/

set_option autoImplicit false

/-- `f32` -/
structure Binary32 where
  bits : UInt32
  deriving DecidableEq

namespace Binary32

/-- The bits without the sign. -/
def magnitude (x : Binary32) : Nat := x.bits.toNat % 2 ^ 31

def isNaN (x : Binary32) : Bool := decide (0x7F800000 < x.magnitude)

/-- A number that is ordered as the values are. -/
def rank (x : Binary32) : Int := if x.bits.toNat < 2 ^ 31 then x.magnitude else -x.magnitude

instance : LE Binary32 := ⟨fun x y ↦ x.isNaN = false ∧ y.isNaN = false ∧ x.rank ≤ y.rank⟩

instance : LT Binary32 := ⟨fun x y ↦ x.isNaN = false ∧ y.isNaN = false ∧ x.rank < y.rank⟩

instance (x y : Binary32) : Decidable (x ≤ y) :=
  inferInstanceAs (Decidable (x.isNaN = false ∧ y.isNaN = false ∧ x.rank ≤ y.rank))

instance (x y : Binary32) : Decidable (x < y) :=
  inferInstanceAs (Decidable (x.isNaN = false ∧ y.isNaN = false ∧ x.rank < y.rank))

/-- Numbers are in one order or the other, and what is no number is in neither. -/
theorem not_le_iff {x y : Binary32} :
    ¬ x ≤ y ↔ x.isNaN = true ∨ y.isNaN = true ∨ y < x := by
  change ¬ (_ ∧ _ ∧ _) ↔ _ ∨ _ ∨ _ ∧ _ ∧ _
  cases x.isNaN <;> cases y.isNaN <;> simp

theorem not_lt_of_isNaN {x y : Binary32} (h : y.isNaN = true) : ¬ x < y := by
  rintro ⟨-, hy, -⟩
  rw [h] at hy
  cases hy

/-- `1.0` -/
def one : Binary32 := ⟨0x3F800000⟩

/-- `2.0` -/
def two : Binary32 := ⟨0x40000000⟩

/-- A quiet NaN. -/
def nan : Binary32 := ⟨0x7FC00000⟩

/-! ## Rounding -/

/-- The nearest whole number, and of two that are as near the even one. -/
def roundEven (x : Rat) : Int :=
  if 2 * (x - x.floor) < 1 ∨ 2 * (x - x.floor) = 1 ∧ x.floor % 2 = 0 then x.floor else x.floor + 1

/-- The nearest value of the format, for what is not negative and not too large. -/
def nearest (x : Rat) : Rat :=
  -- in units of the smallest positive value, so that the exponent of the last bit is natural
  let units := x * 2 ^ 149
  let exponent := units.floor.toNat.log2 - 23
  roundEven (units / 2 ^ exponent) * 2 ^ exponent / 2 ^ 149

example : nearest (1 / 10) = 13421773 / 134217728 := by decide +kernel

end Binary32
