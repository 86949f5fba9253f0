import Offload.Json.Fault
import Offload.Json.Value
import Offload.Text.Quoted

/-! # Reading JSON documents

A reader takes the text that is left and returns a value with what is left after it, or stops at the
first character that no document could continue with. Structure is checked in reading order.

Numbers are read as they are converted: digits are gathered while they fit 64 bits, further digits
only move the decimal exponent, and the magnitude is the gathered digits rounded once and then
scaled by rounded powers of ten. The last place may therefore differ from a correctly rounded
conversion.
-/

namespace Offload.Json

open Number (Binary64)

/-- A value read and the text after it. -/
abbrev Read (α : Type) := Except Stop (α × List Char)

namespace Reader

/-- Stop at the text that is left. -/
def fail {α : Type} (cause : Cause) (rest : List Char) : Except Stop α :=
  .error ⟨cause, rest, 0⟩

/-- Stop at the next character, the first byte of which the fault covers. -/
def failAtNext {α : Type} (cause : Cause) (rest : List Char) : Except Stop α :=
  .error ⟨cause, rest, 1⟩

/-- The blanks of JSON. -/
def isSpace (c : Char) : Bool :=
  c == ' ' || c == '\n' || c == '\t' || c == '\r'

/-- The text after leading blanks. -/
def skipSpace (text : List Char) : List Char :=
  text.dropWhile isSpace

/-- The value of a decimal digit. -/
def digitValue (c : Char) : Nat := c.toNat - '0'.toNat

/-- Numbers are gathered below this bound. -/
def gatherLimit : Nat := Nat.pow 2 64

/-- Digits gathered onto a number: the number, how many digits went into it, how many were left out,
and the text after them. After the first digit that does not fit, all are left out. -/
def gather (gathered taken : Nat) (full : Option Nat) :
    List Char → Nat × Nat × Nat × List Char
  | [] => (gathered, taken, full.getD 0, [])
  | c :: rest =>
    if c.isDigit then
      match full with
      | some left => gather gathered taken (some (left + 1)) rest
      | none =>
        if gathered * 10 + digitValue c < gatherLimit then
          gather (gathered * 10 + digitValue c) (taken + 1) none rest
        else gather gathered taken (some 1) rest
    else (gathered, taken, full.getD 0, c :: rest)

/-- The greatest power of ten used in one scaling step. -/
def stepLimit : Nat := 308

/-- A magnitude scaled by a power of ten, in steps; nothing if it grows past the greatest
magnitude. Three steps down reach zero from every gathered number. -/
def scale (x : Binary64) (power : Int) : Nat → Option Binary64
  | 0 => some Binary64.zero
  | fuel + 1 =>
    if power.natAbs ≤ stepLimit then
      (Binary64.ofNat? (Nat.pow 10 power.natAbs)).bind fun factor =>
        if 0 ≤ power then x.mul factor else x.div factor
    else if x.mantissa = 0 then some x
    else if 0 ≤ power then none
    else
      ((Binary64.ofNat? (Nat.pow 10 stepLimit)).bind x.div).bind fun smaller =>
        scale smaller (power + stepLimit) fuel

/-- The number of gathered digits and a decimal exponent. -/
def real (negative : Bool) (gathered : Nat) (power : Int) (rest : List Char) : Read Numeral :=
  match (Binary64.ofNat? gathered).bind fun x => scale x power 4 with
  | some magnitude => .ok (.real negative magnitude, rest)
  | none => fail .numberOutOfRange rest

/-- Decimal exponents are read below this bound. -/
def exponentLimit : Nat := Nat.pow 2 31

/-- The digits of an exponent after its first: its value, or the text after the digit with which it
passed the bound. -/
def exponentDigits (value : Nat) : List Char → Except (List Char) (Nat × List Char)
  | [] => .ok (value, [])
  | c :: rest =>
    if c.isDigit then
      if value * 10 + digitValue c < exponentLimit then
        exponentDigits (value * 10 + digitValue c) rest
      else .error rest
    else .ok (value, c :: rest)

/-- The exponent after its letter. -/
def exponent (negative : Bool) (gathered : Nat) (power : Int) (text : List Char) :
    Read Numeral :=
  let (down, unsigned) := match text with
    | '+' :: rest => (false, rest)
    | '-' :: rest => (true, rest)
    | rest => (false, rest)
  match unsigned with
  | [] => fail .endInValue []
  | c :: rest =>
    if c.isDigit then
      match exponentDigits (digitValue c) rest with
      | .ok (value, after) =>
        real negative gathered (if down then power - value else power + value) after
      | .error after =>
        if gathered ≠ 0 ∧ !down then fail .numberOutOfRange after
        else .ok (.real negative Binary64.zero, after.dropWhile Char.isDigit)
    else failAtNext .invalidNumber unsigned

/-- The fraction after its point. -/
def fraction (negative : Bool) (gathered : Nat) (power : Int) (text : List Char) :
    Read Numeral :=
  let (gathered, taken, left, after) := gather gathered 0 none text
  if taken = 0 ∧ left = 0 then
    match after with
    | [] => fail .endInValue []
    | _ => failAtNext .invalidNumber after
  else
    match after with
    | 'e' :: rest | 'E' :: rest => exponent negative gathered (power - taken) rest
    | _ => real negative gathered (power - taken) after

/-- What follows the gathered digits of a whole part with `left` digits left out. -/
def afterWhole (negative : Bool) (gathered left : Nat) (text : List Char) : Read Numeral :=
  match text with
  | '.' :: rest => fraction negative gathered left rest
  | 'e' :: rest | 'E' :: rest => exponent negative gathered left rest
  | _ =>
    if left ≠ 0 then real negative gathered left text
    else if !negative then .ok (.integer gathered, text)
    else if gathered = 0 ∨ Nat.pow 2 63 < gathered then real true gathered 0 text
    else .ok (.integer (-(gathered : Int)), text)

/-- A number after its sign. -/
def number (negative : Bool) (text : List Char) : Read Numeral :=
  match text with
  | [] => fail .endInValue []
  | '0' :: rest =>
    match rest with
    | c :: _ => if c.isDigit then failAtNext .invalidNumber rest else afterWhole negative 0 0 rest
    | [] => afterWhole negative 0 0 rest
  | c :: _ =>
    if c.isDigit then
      let (gathered, _, left, after) := gather 0 0 none text
      afterWhole negative gathered left after
    else failAtNext .invalidNumber text

/-- The rest of a literal word after its first letter. -/
def word {α : Type} (value : α) : List Char → List Char → Read α
  | [], text => .ok (value, text)
  | _ :: _, [] => fail .endInValue []
  | expected :: others, c :: rest =>
    if c = expected then word value others rest else failAtNext .expectedWord (c :: rest)

/-- The value of a hexadecimal digit. -/
def hexValue? (c : Char) : Option Nat :=
  if c.isDigit then some (digitValue c)
  else if 'a' ≤ c ∧ c ≤ 'f' then some (c.toNat - 'a'.toNat + 10)
  else if 'A' ≤ c ∧ c ≤ 'F' then some (c.toNat - 'A'.toNat + 10)
  else none

/-- Four hexadecimal digits. They take four bytes whether or not they are digits. -/
def fourDigits (text : List Char) : Read Nat :=
  if (Text.Utf8.encode (text.take 4)).length < 4 then fail .endInString []
  else
    match text with
    | a :: b :: c :: d :: rest =>
      match hexValue? a, hexValue? b, hexValue? c, hexValue? d with
      | some a, some b, some c, some d => .ok (((a * 16 + b) * 16 + c) * 16 + d, rest)
      | _, _, _, _ => .error ⟨.invalidEscape, text, 4⟩
    | _ => .error ⟨.invalidEscape, text, 4⟩

/-- The character of an escape after `\u`; a leading surrogate needs its trailing one. -/
def unicodeEscape (text : List Char) : Except Stop (Char × List Char) := do
  let (first, rest) ← fourDigits text
  if 0xDC00 ≤ first ∧ first ≤ 0xDFFF then fail .loneSurrogate rest
  else if first < 0xD800 ∨ 0xDBFF < first then return (Char.ofNat first, rest)
  else
    match rest with
    | [] => fail .endInString []
    | '\\' :: [] => fail .endInString []
    | '\\' :: 'u' :: after =>
      let (second, rest) ← fourDigits after
      if second < 0xDC00 ∨ 0xDFFF < second then fail .loneSurrogate rest
      else return (Char.ofNat (0x10000 + (first - 0xD800) * 0x400 + (second - 0xDC00)), rest)
    | '\\' :: after => failAtNext .unfinishedPair after
    | _ => failAtNext .unfinishedPair rest

/-- The character of an escape after its backslash. -/
def escape (text : List Char) : Read Char :=
  match text with
  | [] => fail .endInString []
  | '"' :: rest => .ok ('"', rest)
  | '\\' :: rest => .ok ('\\', rest)
  | '/' :: rest => .ok ('/', rest)
  | 'b' :: rest => .ok ('\x08', rest)
  | 'f' :: rest => .ok ('\x0C', rest)
  | 'n' :: rest => .ok ('\n', rest)
  | 'r' :: rest => .ok ('\r', rest)
  | 't' :: rest => .ok ('\t', rest)
  | 'u' :: rest => unicodeEscape rest
  | _ => failAtNext .invalidEscape text

/-- A string after its opening quote, `read` being its characters so far in reverse. One step reads
one character, so a text longer than the fuel cannot be reached. -/
def string (read : List Char) : Nat → List Char → Except Stop (String × List Char)
  | 0, text => fail .endInString text
  | _, [] => fail .endInString []
  | _ + 1, '"' :: rest => .ok (String.ofList read.reverse, rest)
  | fuel + 1, '\\' :: rest => do
    let (c, after) ← escape rest
    string (c :: read) fuel after
  | fuel + 1, c :: rest =>
    if c.toNat < 0x20 then fail .controlCharacter rest else string (c :: read) fuel rest

/-- A whole string. -/
def quoted (text : List Char) : Read String :=
  string [] (text.length + 1) text

/-- How many values may be open at a time, the document itself included. -/
def depthLimit : Nat := 127

mutual

/-- A value. Every call reads at least one character or ends the value, so the fuel of `document`
is never used up. `room` is how many lists and objects may still be opened. -/
def value (room : Nat) : Nat → List Char → Read Value
  | 0, text => fail .endInValue text
  | fuel + 1, text =>
    match skipSpace text with
    | [] => fail .endInValue []
    | 'n' :: rest => word .null "ull".toList rest
    | 't' :: rest => word (.bool true) "rue".toList rest
    | 'f' :: rest => word (.bool false) "alse".toList rest
    | '"' :: rest => (quoted rest).map fun (content, after) => (.text content, after)
    | '-' :: rest => (number true rest).map fun (n, after) => (.number n, after)
    | '[' :: rest =>
      match room with
      | 0 => failAtNext .tooDeep ('[' :: rest)
      | room + 1 => items room true [] fuel rest
    | '\x7b' :: rest =>
      match room with
      | 0 => failAtNext .tooDeep ('\x7b' :: rest)
      | room + 1 =>
        (members room true [] fuel rest).map fun (entries, after) => (.object entries, after)
    | c :: rest =>
      if c.isDigit then (number false (c :: rest)).map fun (n, after) => (.number n, after)
      else failAtNext .expectedValue (c :: rest)

/-- The items of a list after its bracket, `read` being the items so far in reverse. -/
def items (room : Nat) (first : Bool) (read : List Value) :
    Nat → List Char → Except Stop (Value × List Char)
  | 0, text => fail .endInList text
  | fuel + 1, text => do
    match skipSpace text with
    | [] => fail .endInList []
    | ']' :: rest => return (.list read.reverse, rest)
    | c :: rest =>
      let start ←
        if first then pure (c :: rest)
        else if c = ',' then
          match skipSpace rest with
          | [] => fail .endInValue []
          | ']' :: after => failAtNext .trailingComma (']' :: after)
          | next => pure next
        else failAtNext .expectedListComma (c :: rest)
      let (item, after) ← value room fuel start
      items room false (item :: read) fuel after

/-- The members of an object after its brace. A later member replaces an earlier one of its name. -/
def members (room : Nat) (first : Bool) (read : List (String × Value)) :
    Nat → List Char → Except Stop (List (String × Value) × List Char)
  | 0, text => fail .endInObject text
  | fuel + 1, text => do
    match skipSpace text with
    | [] => fail .endInObject []
    | '\x7d' :: rest => return (read, rest)
    | c :: rest =>
      let start ←
        if first then pure (c :: rest)
        else if c = ',' then
          match skipSpace rest with
          | [] => fail .endInValue []
          | '\x7d' :: after => failAtNext .trailingComma ('\x7d' :: after)
          | next => pure next
        else failAtNext .expectedObjectComma (c :: rest)
      match start with
      | '"' :: afterQuote =>
        let (name, afterName) ← quoted afterQuote
        match skipSpace afterName with
        | [] => fail .endInObject []
        | ':' :: afterColon =>
          let (item, after) ← value room fuel afterColon
          members room false (Dictionary.insert name item read) fuel after
        | other => failAtNext .expectedColon other
      | other => failAtNext .nameNotString other

end

/-- Fuel that no text of this length uses up. -/
def fuelFor (text : List Char) : Nat := 2 * text.length + 2

/-- What was found in place of an object, and the text after it. A list is known by its bracket
alone; anything else is read to its end. -/
def otherKind (text : List Char) : Except Stop (String × List Char) :=
  match text with
  | '[' :: _ => .ok ("sequence", text)
  | _ => do
    let (found, after) ← value depthLimit (fuelFor text) text
    let kind := match found with
      | .bool b => s!"boolean `{b}`"
      | .number (.integer n) => s!"integer `{n}`"
      | .number n => s!"floating point `{n.text}`"
      | .text content => s!"string {Text.Quoted.quote content}"
      | _ => "null"
    return (kind, after)

/-- A document that is one object, up to its end. -/
def document (text : List Char) : Except Stop (List (String × Value)) := do
  match skipSpace text with
  | [] => fail .endInValue []
  | '\x7b' :: rest =>
    let (entries, after) ← members (depthLimit - 1) true [] (fuelFor rest) rest
    match skipSpace after with
    | [] => return entries
    | more => failAtNext .trailingCharacters more
  | other =>
    let (found, after) ← otherKind other
    fail (.notAnObject found) after

end Reader

/-- The members of the object that a text denotes. -/
def readObject (text : List Char) : Except Fault (Dictionary Value) :=
  (Reader.document text).mapError (·.locate text)

end Offload.Json
