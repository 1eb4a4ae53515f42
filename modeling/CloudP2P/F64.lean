import Mathlib.Algebra.Order.Ring.Rat

/-!
# Floating-point numbers up to rounding

An `f64` is read as the rational it stands for, or as NaN.  Arithmetic is
exact, NaN is absorbing, and a comparison with NaN gives no ordering.  What
rounding does to two values that are almost equal is thus left out, and so
are the infinities: a quotient by zero is NaN.
-/

/-- A rational, or the incomparable NaN. -/
inductive F64 where
  | rational (value : ℚ)
  | nan
  deriving DecidableEq

namespace F64

instance : Coe ℚ F64 := ⟨F64.rational⟩

/-- Lift a rational operation; NaN is absorbing. -/
def lift₂ (operation : ℚ → ℚ → ℚ) : F64 → F64 → F64
  | .rational left, .rational right => .rational (operation left right)
  | _, _ => .nan

instance : Add F64 := ⟨lift₂ (· + ·)⟩
instance : Sub F64 := ⟨lift₂ (· - ·)⟩
instance : Mul F64 := ⟨lift₂ (· * ·)⟩

/-- Division; a zero divisor gives NaN. -/
def div : F64 → F64 → F64
  | .rational left, .rational right =>
      if right = 0 then .nan else .rational (left / right)
  | _, _ => .nan

instance : Div F64 := ⟨div⟩

section Rational

variable (left right : ℚ)

@[simp]
theorem rational_add :
    F64.rational left + F64.rational right = .rational (left + right) :=
  rfl

@[simp]
theorem rational_sub :
    F64.rational left - F64.rational right = .rational (left - right) :=
  rfl

@[simp]
theorem rational_mul :
    F64.rational left * F64.rational right = .rational (left * right) :=
  rfl

theorem rational_div {right : ℚ} (nonzero : right ≠ 0) :
    F64.rational left / F64.rational right = .rational (left / right) :=
  if_neg nonzero

end Rational

/-- `partial_cmp`: no ordering as soon as one side is NaN. -/
def partialCmp : F64 → F64 → Option Ordering
  | .rational left, .rational right => some (compare left right)
  | _, _ => none

/-- The strict comparison `<`; false as soon as one side is NaN. -/
def lt : F64 → F64 → Bool
  | .rational left, .rational right => decide (left < right)
  | _, _ => false

end F64
