/-! # Signed decimal text

A signed 64-bit integer is written in plain decimal and read back from an optional sign followed by
one or more ASCII digits. Leading zeros and a plus sign are read and never written.
-/

namespace Offload.Text.Decimal

/-- The number that a non-empty run of digits denotes. -/
def natural? (digits : List Char) : Option Nat :=
  if digits.isEmpty || !digits.all Char.isDigit then none
  else some (digits.foldl (fun total c => total * 10 + (c.toNat - '0'.toNat)) 0)

/-- The integer that digits with an optional sign denote. -/
def integer? : List Char → Option Int
  | '-' :: digits => (natural? digits).map fun n => -(n : Int)
  | '+' :: digits => (natural? digits).map Int.ofNat
  | digits => (natural? digits).map Int.ofNat

/-- A text without a sign at its front and the zeros after it. -/
def significant : List Char → List Char
  | '-' :: digits => digits.dropWhile (· == '0')
  | '+' :: digits => digits.dropWhile (· == '0')
  | digits => digits.dropWhile (· == '0')

/-- The number of digits of the greatest signed 64-bit integer. -/
def int64Width : Nat := 19

/-- The signed 64-bit integer a text denotes, if it denotes one in range. A text with more
significant digits than any of them is refused before it is read. -/
def int64? (text : List Char) : Option Int64 :=
  if int64Width < (significant text).length then none
  else
    (integer? text).bind fun n =>
      if Int64.minValue.toInt ≤ n ∧ n ≤ Int64.maxValue.toInt then some (Int64.ofInt n) else none

/-- The decimal text of a signed 64-bit integer. -/
def ofInt64 (n : Int64) : List Char :=
  (toString n.toInt).toList

end Offload.Text.Decimal
