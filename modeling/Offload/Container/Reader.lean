import Offload.Container.Bundle
import Offload.Container.Fault
import Offload.Text.Split

/-! # Reading a bundle back

The marker's first occurrence ends the tree; everything after it is the appendix. The tree is read
line by line against the nodes that are open at that point. Leading spaces and empty lines carry no
meaning, so any indentation is read.

An open node holds its children last first, so that each line takes one step however many children
there are. `close_put` and `close_push` say that closing forgets this.
-/

namespace Offload.Container

/-- What one line of the text form says, leading spaces apart. -/
inductive Line where
  | blank
  | opening (name : String)
  | closing (name : String)
  | attribute (key : String) (value : Value)
  | keyless
  | unknown (text : String)
deriving DecidableEq, Repr

namespace Line

/-- A line that is no bracket: an attribute if it holds a `=` after a key. -/
def ofEntry (text : List Char) : Line :=
  match Text.cutAt '=' text with
  | (_, none) => .unknown (String.ofList text)
  | ([], some _) => .keyless
  | (key, some value) => .attribute (String.ofList key) (Value.ofChars value)

/-- The meaning of a line without leading spaces. -/
def ofTrimmed : List Char → Line
  | [] => .blank
  | '{' :: '.' :: name => .opening (String.ofList name)
  | '}' :: '.' :: name => .closing (String.ofList name)
  | text => ofEntry text

/-- The meaning of a line. -/
def ofChars (text : List Char) : Line :=
  ofTrimmed (text.dropWhile (· == ' '))

end Line

/-- A node whose lines are still being read. -/
structure OpenNode where
  name : String
  depth : Nat
  attributes : Attributes
  /-- The children so far, last first. -/
  children : List Node

namespace OpenNode

/-- A node of which nothing was read but its opening. -/
def bare (name : String) (depth : Nat) : OpenNode := ⟨name, depth, [], []⟩

/-- Write an attribute that was read. -/
def put (node : OpenNode) (key : String) (value : Value) : OpenNode :=
  { node with attributes := node.attributes.put key value }

/-- Append a child that was read to its end. -/
def push (node : OpenNode) (child : Node) : OpenNode :=
  { node with children := child :: node.children }

/-- The node that was read. -/
def close (node : OpenNode) : Node :=
  ⟨node.name, node.depth, node.attributes, node.children.reverse⟩

@[simp] theorem close_bare (name : String) (depth : Nat) :
    (bare name depth).close = Node.bare name depth := rfl

@[simp] theorem close_put (node : OpenNode) (key : String) (value : Value) :
    (node.put key value).close = node.close.put key value := rfl

@[simp] theorem close_push (node : OpenNode) (child : Node) :
    (node.push child).close = node.close.push child := by
  simp [push, close, Node.push]

/-- Read numbered lines into the innermost open node. `outer` are the nodes around it, the nearest
first; an open node becomes a child of the next one when it is closed. -/
def readLines (number : Nat) (inner : OpenNode) (outer : List OpenNode) :
    List (List Char) → Except Fault Node
  | [] => if outer.isEmpty then .ok inner.close else .error (.unclosed inner.name)
  | line :: rest =>
    match Line.ofChars line with
    | .blank => readLines (number + 1) inner outer rest
    | .opening name =>
      readLines (number + 1) (bare name (inner.depth + 1)) (inner :: outer) rest
    | .closing name =>
      match outer with
      | [] => .error (.closingUnopened number name)
      | parent :: others =>
        if inner.name = name then readLines (number + 1) (parent.push inner.close) others rest
        else .error (.closingOther number inner.name name)
    | .attribute key value =>
      match checkAttribute key value with
      | .error fault => .error (.attribute fault)
      | .ok () => readLines (number + 1) (inner.put key value) outer rest
    | .keyless => .error (.missingKey number)
    | .unknown text => .error (.unknownLine number text)

end OpenNode

/-- The tree that a text denotes. -/
def Node.ofText (text : List Char) : Except Fault Node :=
  OpenNode.readLines 1 (.bare Node.root.name Node.root.depth) [] (Text.lines text)

/-- The bytes before the first occurrence of `mark`, and those after it. -/
def splitAtMark (mark : List UInt8) : List UInt8 → Option (List UInt8 × List UInt8)
  | [] => if mark.isEmpty then some ([], []) else none
  | byte :: rest =>
    if mark.isPrefixOf (byte :: rest) then some ([], (byte :: rest).drop mark.length)
    else (splitAtMark mark rest).map fun (front, back) => (byte :: front, back)

namespace Bundle

/-- The bundle that a byte sequence denotes. -/
def parse (data : List UInt8) : Except Fault Bundle := do
  let some (front, appendix) := splitAtMark (Text.Utf8.encode marker) data
    | .error .missingMarker
  let text ← (Text.Utf8.decode front).mapError .notText
  let root ← Node.ofText text
  return ⟨root, appendix⟩

/-- What is noted about a bundle that has been read. -/
def parseRecord (bundle : Bundle) : Journal.Record where
  level := .debug
  topic := .bundleReader
  text := s!"parsed HCF object: {bundle.root.children.length} top-level node(s)" ++
    s!", {bundle.appendix.length} appendix byte(s)"

/-- What is noted about reading a byte sequence. -/
def parseRecords (data : List UInt8) : List Journal.Record :=
  match parse data with
  | .ok bundle => [parseRecord bundle]
  | .error _ => []

/-- A number of an attachment's description. -/
def rangeBound (node : Node) (key : String) : Except Fault Nat :=
  match node.int? key with
  | none => .error (.lacksInteger key)
  | some n => if n.toInt < 0 then .error (.negative key) else .ok n.toInt.toNat

/-- Offsets into an appendix are below this bound. -/
def offsetLimit : Nat := Nat.pow 2 64

/-- The payload that a node describes. -/
def payload (bundle : Bundle) (node : Node) : Except Fault (List UInt8) := do
  unless node.name = Node.attachmentName do
    .error (.notAttachment node.name)
  let start ← rangeBound node "start"
  let size ← rangeBound node "size"
  if offsetLimit ≤ start + size then
    .error .rangeOverflow
  else if bundle.appendix.length < start + size then
    .error (.outOfRange start size bundle.appendix.length)
  else
    return (bundle.appendix.drop start).take size

/-- The payloads attached to a node itself, in the order of their attachment. -/
def payloads (bundle : Bundle) (node : Node) : Except Fault (List (List UInt8)) :=
  (node.children.filter (·.name == Node.attachmentName)).mapM bundle.payload

end Bundle

end Offload.Container
