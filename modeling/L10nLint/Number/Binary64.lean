/-!
# Binary64 values

A finite IEEE 754 binary64 value is `±m · 2^e` with a 53-bit significand; the smallest
exponent is `-1074` and the largest finite value is `(2^53 - 1) · 2^971`. This module keeps
such values exactly, in `Nat` arithmetic, and rounds the exact results of products and
quotients to the nearest representable value, a tie going to the even significand. That is
what binary64 multiplication and division do, so a computation written with `mul` and `div`
yields the same value, bit for bit, as the same computation done in binary64 arithmetic.

Main operations: `Binary64.round` (a positive rational to the nearest value, or `none` past
the largest finite value), `mul`, `div`, `isWhole` and `toInt64Sat` (conversion to a 64-bit
integer, saturating at the ends of its range).
-/

namespace L10nLint

/-- A finite binary64 value `(-1)^negative · mantissa · 2^exponent`. Values made by `round`
have `mantissa < 2^53` and `-1074 ≤ exponent ≤ 971`. -/
structure Binary64 where
  negative : Bool
  mantissa : Nat
  exponent : Int
  deriving DecidableEq, Repr

namespace Binary64

/-- The positive zero. -/
def zero : Binary64 := ⟨false, 0, 0⟩

/-- Rounds `n / d` to an integer, to the nearest one and a tie to the even one. -/
def roundHalfEven (n d : Nat) : Nat :=
  if 2 * (n % d) < d then n / d
  else if d < 2 * (n % d) then n / d + 1
  else if (n / d) % 2 = 0 then n / d
  else n / d + 1

/-- Whether `n / d ≥ 2^k`. -/
def atLeastPow2 (n d : Nat) (k : Int) : Bool :=
  if 0 ≤ k then d * Nat.pow 2 k.toNat ≤ n else d ≤ n * Nat.pow 2 (-k).toNat

/-- `⌊log₂ (n / d)⌋` for positive `n` and `d`. -/
def floorLog2 (n d : Nat) : Int :=
  let k : Int := (Nat.log2 n : Int) - (Nat.log2 d : Int)
  if atLeastPow2 n d k then k else k - 1

/-- `n / d / 2^e` rounded to an integer, half to even. -/
def scaledSignificand (n d : Nat) (e : Int) : Nat :=
  if 0 ≤ e then roundHalfEven n (d * Nat.pow 2 e.toNat) else roundHalfEven (n * Nat.pow 2 (-e).toNat) d

/-- The exponent of the last significand place for a value in the binade `2^k`: 52 places
below `k`, but never below `-1074`, where the subnormal values end. -/
def placeExponent (k : Int) : Int := max (k - 52) (-1074)

/-- `±n / d` rounded to the nearest binary64 value, a tie to the even significand; `none`
when the result is past the largest finite value. -/
def round (negative : Bool) (n d : Nat) : Option Binary64 :=
  if n = 0 ∨ d = 0 then some ⟨negative, 0, 0⟩
  else
    let e := placeExponent (floorLog2 n d)
    let m := scaledSignificand n d e
    -- rounding up may reach the next binade
    let (m, e) := if m = Nat.pow 2 53 then (Nat.pow 2 52, e + 1) else (m, e)
    if 971 < e then none else some ⟨negative, m, e⟩

/-- The value as a fraction `(numerator, denominator)` of its magnitude. -/
def fraction (x : Binary64) : Nat × Nat :=
  if 0 ≤ x.exponent then (x.mantissa * Nat.pow 2 x.exponent.toNat, 1)
  else (x.mantissa, Nat.pow 2 (-x.exponent).toNat)

/-- The binary64 value nearest to a natural number. -/
def ofNat (n : Nat) : Option Binary64 := round false n 1

/-- Whether the value is zero (of either sign). -/
def isZero (x : Binary64) : Bool := x.mantissa = 0

/-- The negated value. -/
def neg (x : Binary64) : Binary64 := { x with negative := !x.negative }

/-- The rounded product; `none` when it is past the largest finite value. -/
def mul (x y : Binary64) : Option Binary64 :=
  round (x.negative != y.negative) (x.fraction.1 * y.fraction.1) (x.fraction.2 * y.fraction.2)

/-- The rounded quotient by a non-zero value; `none` when it is past the largest finite
value. -/
def div (x y : Binary64) : Option Binary64 :=
  round (x.negative != y.negative) (x.fraction.1 * y.fraction.2) (x.fraction.2 * y.fraction.1)

/-- Whether the value is an integer. -/
def isWhole (x : Binary64) : Bool := x.fraction.1 % x.fraction.2 = 0

/-- The integer part, rounded toward zero. -/
def truncate (x : Binary64) : Int :=
  let q : Int := (x.fraction.1 / x.fraction.2 : Nat)
  if x.negative then -q else q

/-- The integer part as a 64-bit signed integer, clamped to `[-2^63, 2^63 - 1]`. -/
def toInt64Sat (x : Binary64) : Int :=
  max (-(Int.pow 2 63)) (min (Int.pow 2 63 - 1) x.truncate)

example : (ofNat (2 ^ 53 + 1)).map (·.mantissa) = some (2 ^ 52) := by decide

end Binary64

end L10nLint
