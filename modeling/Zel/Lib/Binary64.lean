import Mathlib.Algebra.Order.Ring.Unbundled.Rat

/-!
# Comparisons of double-precision numbers

An IEEE 754 binary64 number as far as comparisons see it: not a number, one of the infinities, or
a number with a value.  The two zeros are one number.
-/

set_option autoImplicit false

/-- `f64` -/
inductive Binary64 where
  | nan
  | infinity (negative : Bool)
  | number (value : Rat)
  deriving DecidableEq

namespace Binary64

/-- The value, if it is a finite number. -/
def value : Binary64 → Option Rat
  | .number value => some value
  | .nan | .infinity _ => none

/-- `<`; what is no number compares with nothing. -/
def lt : Binary64 → Binary64 → Bool
  | .number x, .number y => x < y
  | .infinity negative, .number _ => negative
  | .number _, .infinity negative => !negative
  | .infinity negative, .infinity negative' => negative && !negative'
  | .nan, _ | _, .nan => false

/-- `clamp` -/
def clamp (x lower upper : Binary64) : Binary64 :=
  let x := if x.lt lower then lower else x
  if upper.lt x then upper else x

/-- **What is clamped between two numbers** is between them, or is no number. -/
theorem clamp_number (x : Binary64) {lower upper : Rat} (h : lower ≤ upper) :
    (x = .nan ∧ x.clamp (.number lower) (.number upper) = .nan) ∨
      ∃ value, x.clamp (.number lower) (.number upper) = .number value ∧
        lower ≤ value ∧ value ≤ upper := by
  cases x with
  | nan => exact Or.inl ⟨rfl, rfl⟩
  | infinity negative =>
    cases negative with
    | true => exact Or.inr ⟨lower, by simp [clamp, lt, not_lt.mpr h], le_refl lower, h⟩
    | false => exact Or.inr ⟨upper, rfl, h, le_refl upper⟩
  | number value =>
    rcases lt_or_ge value lower with hlow | hlow
    · exact Or.inr ⟨lower, by simp [clamp, lt, hlow, not_lt.mpr h], le_refl lower, h⟩
    · rcases lt_or_ge upper value with hhigh | hhigh
      · exact Or.inr ⟨upper, by simp [clamp, lt, not_lt.mpr hlow, hhigh], h, le_refl upper⟩
      · exact Or.inr ⟨value, by simp [clamp, lt, not_lt.mpr hlow, not_lt.mpr hhigh], hlow, hhigh⟩

end Binary64
