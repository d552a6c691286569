import RisingIntelligence.Shared.Json
import Mathlib.Data.Rat.Floor

/-!
# Rounding to doubles

A number of the language has 53 binary digits, so the exact result of an operation is rounded to the
nearest number of the language, ties to the one whose last digit is even.
-/

namespace RisingIntelligence.Js

/-- The nearest integer, ties to the even one. -/
def roundHalfEven (value : ℚ) : ℤ :=
  let below := ⌊value⌋
  let rest := value - below
  if rest < 1 / 2 ∨ rest = 1 / 2 ∧ below % 2 = 0 then below else below + 1

/-- The power of two at or below `|value|`, which is not zero. -/
def binaryExponent (value : ℚ) : ℤ :=
  let exponent : ℤ := (value.num.natAbs.log2 : ℤ) - (value.den.log2 : ℤ)
  if |value| < 2 ^ exponent then exponent - 1 else exponent

/-- The distance of neighbouring doubles at `value`. -/
def doubleSpacing (value : ℚ) : ℚ := 2 ^ max (binaryExponent value - 52) (-1074)

/-- The nearest double of a value that does not overflow. -/
def roundDouble (value : ℚ) : ℚ := roundHalfEven (value / doubleSpacing value) * doubleSpacing value

/-- The nearest double. -/
def toDouble (value : ℚ) : Number :=
  if 2 ^ 1024 ≤ |roundDouble value| then .infinite (decide (value < 0))
  else .finite (roundDouble value)

/-- `Math.round`: a half is rounded up. -/
def mathRound (value : ℚ) : ℤ := ⌊value + 1 / 2⌋

/-- A decimal fraction has no double of its own. -/
example : roundDouble (29 / 50) = 5224175567749775 / 9007199254740992 := by decide +kernel

end RisingIntelligence.Js
