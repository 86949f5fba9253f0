import Offload.Dictionary
import Offload.Number.Shortest

/-! # JSON values

The values of a JSON document. Members of an object are a dictionary, so they are listed by name and
the last member of a name is the one that counts. Numbers keep their kind: an integer within 64 bits
stays an integer, every other number is a double-precision magnitude with a sign.

`Value.text` is the compact form: no blanks, members by name, and escapes for quotes, backslashes
and controls only.
-/

namespace Offload.Json

open Number (Binary64 Decimal)

/-- A number. -/
inductive Numeral where
  | integer (n : Int)
  | real (negative : Bool) (magnitude : Binary64)
deriving DecidableEq, Repr

/-- A JSON value. -/
inductive Value where
  | null
  | bool (b : Bool)
  | number (n : Numeral)
  | text (content : String)
  | list (items : List Value)
  | object (members : List (String × Value))
deriving Inhabited

namespace Numeral

/-- Magnitudes are written positionally while their first digit stands at a power of ten from this
one on, -/
def leastPositional : Int := -5

/-- and below this one. -/
def positionalLimit : Int := 16

/-- Digits with a point after the first `count` of them, zeros filling up at either end. There is at
least one digit on each side of the point. -/
def positional (digits : List Char) (count : Int) : List Char :=
  if count ≤ 0 then '0' :: '.' :: List.replicate (-count).toNat '0' ++ digits
  else
    let whole := count.toNat
    let front := digits.take whole ++ List.replicate (whole - digits.length) '0'
    let back := digits.drop whole
    front ++ '.' :: (if back.isEmpty then ['0'] else back)

/-- Digits with a point after the first, and the power of ten of the first, sign included. -/
def scientific (digits : List Char) (power : Int) : List Char :=
  let mantissa := match digits with
    | first :: second :: rest => first :: '.' :: second :: rest
    | short => short
  let sign := if power < 0 then '-' else '+'
  mantissa ++ 'e' :: sign :: Nat.toDigits 10 power.natAbs

/-- The text of a decimal. -/
def ofDecimal (decimal : Decimal) : List Char :=
  let digits := Nat.toDigits 10 decimal.digits
  let power := decimal.exponent + (digits.length : Int) - 1
  if leastPositional ≤ power ∧ power < positionalLimit then positional digits (power + 1)
  else scientific digits power

/-- The text of a number: an integer in plain decimal, a magnitude by its shortest decimal. -/
def text : Numeral → String
  | .integer n => toString n
  | .real negative magnitude =>
    String.ofList ((if negative then ['-'] else []) ++ ofDecimal magnitude.shortest)

end Numeral

namespace Value

/-- Two lowercase hexadecimal digits. -/
def twoDigits (code : Nat) : List Char :=
  [Nat.digitChar (code / 16), Nat.digitChar (code % 16)]

/-- One character as it stands in a JSON string. -/
def escape (c : Char) : List Char :=
  match c with
  | '"' => ['\\', '"']
  | '\\' => ['\\', '\\']
  | '\n' => ['\\', 'n']
  | '\r' => ['\\', 'r']
  | '\t' => ['\\', 't']
  | '\x08' => ['\\', 'b']
  | '\x0C' => ['\\', 'f']
  | _ => if c.toNat < 0x20 then "\\u00".toList ++ twoDigits c.toNat else [c]

/-- A text as a JSON string. -/
def quote (content : String) : List Char :=
  '"' :: content.toList.flatMap escape ++ ['"']

mutual

/-- The compact form of a value. -/
def chars : Value → List Char
  | .null => "null".toList
  | .bool true => "true".toList
  | .bool false => "false".toList
  | .number n => n.text.toList
  | .text content => quote content
  | .list items => '[' :: itemChars items ++ [']']
  | .object members => '\x7b' :: memberChars members ++ ['\x7d']

/-- Items separated by commas. -/
def itemChars : List Value → List Char
  | [] => []
  | [item] => item.chars
  | item :: rest => item.chars ++ ',' :: itemChars rest

/-- Members separated by commas. -/
def memberChars : List (String × Value) → List Char
  | [] => []
  | [(name, value)] => quote name ++ ':' :: value.chars
  | (name, value) :: rest => quote name ++ ':' :: (value.chars ++ ',' :: memberChars rest)

end

/-- The compact form of a value, as text. -/
def compact (value : Value) : String :=
  String.ofList value.chars

end Value

end Offload.Json
