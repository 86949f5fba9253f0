import Offload.Number.Binary64

/-! # Shortest decimals

The decimal with the fewest digits that lies in the interval of reals rounding to a magnitude; of
two such decimals the nearer one, and of two equally near ones the one with the even last digit. The
search tries one digit, then two, and so on: on each decimal grid only the two neighbours of the
magnitude have to be looked at.
-/

namespace Offload.Number

/-- The decimal `digits · 10 ^ exponent`, where `digits` does not end in a zero unless it is one. -/
structure Decimal where
  digits : Nat
  exponent : Int
deriving DecidableEq, Repr

namespace Shortest

/-- A ratio multiplied by a power of ten, as a ratio. -/
def scaleRatio (ratio : Nat × Nat) (power : Int) : Nat × Nat :=
  if 0 ≤ power then (ratio.1 * Nat.pow 10 power.toNat, ratio.2)
  else (ratio.1, ratio.2 * Nat.pow 10 (-power).toNat)

/-- The ends of the interval that rounds to a positive magnitude, in quarters of its last place. -/
def quarterEnds (x : Binary64) : Nat × Nat :=
  let below := if x.mantissa = Binary64.mantissaLimit / 2 ∧ x.exponent ≠ Binary64.minExponent
    then 1 else 2
  (4 * x.mantissa - below, 4 * x.mantissa + 2)

/-- Whether `digits · 10 ^ exponent` rounds to the magnitude. -/
def roundsTo (x : Binary64) (digits : Nat) (exponent : Int) : Bool :=
  let (low, high) := quarterEnds x
  let unit := Binary64.shiftRatio 1 4 x.exponent
  let (numerator, denominator) := scaleRatio (digits, 1) exponent
  let value := numerator * unit.2
  let bound (quarters : Nat) := quarters * unit.1 * denominator
  if x.mantissa % 2 = 0 then bound low ≤ value && value ≤ bound high
  else bound low < value && value < bound high

/-- The position of the first digit of a positive magnitude: the greatest power of ten that it
reaches. The search starts below it, at `power`. -/
def leadingPower (ratio : Nat × Nat) (power : Int) : Nat → Int
  | 0 => power
  | fuel + 1 =>
    let (numerator, denominator) := scaleRatio ratio (-(power + 1))
    if denominator ≤ numerator then leadingPower ratio (power + 1) fuel else power

/-- The digits without trailing zeros. -/
def strip (digits : Nat) (exponent : Int) : Nat → Decimal
  | 0 => ⟨digits, exponent⟩
  | fuel + 1 =>
    if digits ≠ 0 ∧ digits % 10 = 0 then strip (digits / 10) (exponent + 1) fuel
    else ⟨digits, exponent⟩

/-- The neighbour of the magnitude on the grid of `10 ^ exponent` that rounds to it. -/
def onGrid? (x : Binary64) (exponent : Int) : Option Nat :=
  let (numerator, denominator) := scaleRatio x.ratio (-exponent)
  let lower := numerator / denominator
  let twice := 2 * (numerator % denominator)
  match roundsTo x lower exponent, roundsTo x (lower + 1) exponent with
  | false, false => none
  | true, false => some lower
  | false, true => some (lower + 1)
  | true, true =>
    if twice < denominator ∨ (twice = denominator ∧ lower % 2 = 0) then some lower
    else some (lower + 1)

/-- Try finer and finer grids, starting with the one on which the magnitude has one digit. -/
def search (x : Binary64) (exponent : Int) : Nat → Decimal
  | 0 => ⟨0, 0⟩
  | fuel + 1 =>
    match onGrid? x exponent with
    | some digits => strip digits exponent 20
    | none => search x (exponent - 1) fuel

end Shortest

/-- The shortest decimal that reads back as this magnitude. -/
def Binary64.shortest (x : Binary64) : Decimal :=
  if x.mantissa = 0 then ⟨0, 0⟩
  else
    let guess : Int := (x.exponent + x.mantissa.log2) * 30103 / 100000 - 2
    Shortest.search x (Shortest.leadingPower x.ratio guess 6) 18

end Offload.Number
