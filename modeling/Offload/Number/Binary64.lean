/-! # Double-precision magnitudes

The non-negative finite numbers of the IEEE 754 format binary64, as exact values `mantissa · 2 ^
exponent`. Arithmetic is exact arithmetic on ratios followed by one rounding to the nearest
representable number, ties to the even mantissa.
-/

namespace Offload.Number

/-- A magnitude `mantissa · 2 ^ exponent`. -/
structure Binary64 where
  mantissa : Nat
  exponent : Int
deriving DecidableEq, Repr

namespace Binary64

/-- The exponent of the smallest positive magnitudes. -/
def minExponent : Int := -1074

/-- The exponent of the greatest magnitudes. -/
def maxExponent : Int := 971

/-- Mantissas are below this bound. -/
def mantissaLimit : Nat := Nat.pow 2 53

/-- The magnitude zero. -/
def zero : Binary64 := ⟨0, minExponent⟩

/-- A quotient rounded to the nearest natural number, ties to even. -/
def roundDiv (numerator denominator : Nat) : Nat :=
  let quotient := numerator / denominator
  let twice := 2 * (numerator % denominator)
  if denominator < twice ∨ (denominator = twice ∧ quotient % 2 = 1) then quotient + 1 else quotient

/-- A ratio multiplied by a power of two, as a ratio. -/
def shiftRatio (numerator denominator : Nat) (power : Int) : Nat × Nat :=
  if 0 ≤ power then (numerator * Nat.pow 2 power.toNat, denominator)
  else (numerator, denominator * Nat.pow 2 (-power).toNat)

/-- The magnitude nearest to a ratio, or nothing if that is past the greatest one. -/
def ofRatio (numerator denominator : Nat) : Option Binary64 :=
  if numerator = 0 then some zero
  else
    let guess : Int := (numerator.log2 : Int) - (denominator.log2 : Int) - 53
    let scaled (exponent : Int) := shiftRatio numerator denominator (-exponent)
    let low := max guess minExponent
    let exponent := if mantissaLimit ≤ (scaled low).1 / (scaled low).2 then low + 1 else low
    let mantissa := roundDiv (scaled exponent).1 (scaled exponent).2
    let result : Binary64 :=
      if mantissa = mantissaLimit then ⟨mantissaLimit / 2, exponent + 1⟩ else ⟨mantissa, exponent⟩
    if maxExponent < result.exponent then none else some result

/-- The magnitude as a ratio of natural numbers. -/
def ratio (x : Binary64) : Nat × Nat :=
  shiftRatio x.mantissa 1 x.exponent

/-- The rounded product. -/
def mul (x y : Binary64) : Option Binary64 :=
  ofRatio (x.ratio.1 * y.ratio.1) (x.ratio.2 * y.ratio.2)

/-- The rounded quotient by a magnitude that is not zero. -/
def div (x y : Binary64) : Option Binary64 :=
  ofRatio (x.ratio.1 * y.ratio.2) (x.ratio.2 * y.ratio.1)

/-- The magnitude nearest to a natural number. -/
def ofNat? (n : Nat) : Option Binary64 := ofRatio n 1

end Binary64

end Offload.Number
