import Offload.Text.Utf8

/-! # Faults of JSON documents

Why a text is not the document that was asked for, and where that shows. A fault is *short* when
more text could still have repaired it and *malformed* when no text could; a well-formed document of
the wrong kind is a fault of its own.
-/

namespace Offload.Json

/-- What is wrong with a document. -/
inductive Cause where
  | endInList
  | endInObject
  | endInString
  | endInValue
  | expectedColon
  | expectedListComma
  | expectedObjectComma
  | expectedWord
  | expectedValue
  | invalidEscape
  | invalidNumber
  | numberOutOfRange
  | controlCharacter
  | nameNotString
  | loneSurrogate
  | trailingComma
  | trailingCharacters
  | unfinishedPair
  | tooDeep
  /-- The document is complete but is no object. -/
  | notAnObject (found : String)
deriving DecidableEq, Repr

/-- The three ways of being wrong. -/
inductive Category where
  | short
  | malformed
  | wrongKind
deriving DecidableEq, Repr

/-- Which way of being wrong a cause is. -/
def Cause.category : Cause → Category
  | .endInList | .endInObject | .endInString | .endInValue => .short
  | .notAnObject _ => .wrongKind
  | _ => .malformed

/-- The cause in words. -/
def Cause.message : Cause → String
  | .endInList => "EOF while parsing a list"
  | .endInObject => "EOF while parsing an object"
  | .endInString => "EOF while parsing a string"
  | .endInValue => "EOF while parsing a value"
  | .expectedColon => "expected `:`"
  | .expectedListComma => "expected `,` or `]`"
  | .expectedObjectComma => "expected `,` or `\x7d`"
  | .expectedWord => "expected ident"
  | .expectedValue => "expected value"
  | .invalidEscape => "invalid escape"
  | .invalidNumber => "invalid number"
  | .numberOutOfRange => "number out of range"
  | .controlCharacter => "control character (\\u0000-\\u001F) found while parsing a string"
  | .nameNotString => "key must be a string"
  | .loneSurrogate => "lone leading surrogate in hex escape"
  | .trailingComma => "trailing comma"
  | .trailingCharacters => "trailing characters"
  | .unfinishedPair => "unexpected end of hex escape"
  | .tooDeep => "recursion limit exceeded"
  | .notAnObject found => s!"invalid type: {found}, expected a map"

/-- A cause, the text that is left where it shows, and how many bytes of that text it covers. -/
structure Stop where
  cause : Cause
  rest : List Char
  covered : Nat := 0
deriving DecidableEq, Repr

/-- A cause and its place in the document. -/
structure Fault where
  cause : Cause
  line : Nat
  column : Nat
deriving DecidableEq, Repr

/-- The place of a stop: lines are counted from one, columns are the bytes since the last line
feed. -/
def Stop.locate (stop : Stop) (document : List Char) : Fault :=
  let bytes := Text.Utf8.encode document
  let read := bytes.take (bytes.length - (Text.Utf8.encode stop.rest).length + stop.covered)
  let lineFeed := '\n'.toNat.toUInt8
  ⟨stop.cause, 1 + read.count lineFeed, (read.reverse.takeWhile (· != lineFeed)).length⟩

/-- The fault in words. -/
def Fault.message (fault : Fault) : String :=
  s!"{fault.cause.message} at line {fault.line} column {fault.column}"

end Offload.Json
