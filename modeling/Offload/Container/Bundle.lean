import Offload.Container.Node
import Offload.Journal
import Offload.Text.Utf8

/-! # Bundles

A bundle is a tree of nodes with the appendix that holds all attached payloads back to back. Nodes
hold no payload bytes: an attachment is a child that names a range of the appendix. The serialized
bundle is the text of the tree, a fixed marker, and the appendix.

A bundle grows by edits, each at the node a path leads to. `Bundle.apply` checks an attribute before
it writes it; everything else is always possible.
-/

namespace Offload.Container

/-- A tree of nodes and the payloads its attachments address. -/
structure Bundle where
  root : Node
  appendix : List UInt8
deriving DecidableEq, Inhabited

/-- One step of building a bundle, at the node that a path leads to. -/
inductive Edit where
  | addChild (path : List Nat) (name : String)
  | put (path : List Nat) (key : String) (value : Value)
  | attach (path : List Nat) (payload : List UInt8)
deriving DecidableEq, Repr

namespace Bundle

/-- The text that separates the tree from the appendix. -/
def marker : List Char := "__acpp_hcf_binary_appendix".toList

/-- A bundle without attributes, children and payloads. -/
def empty : Bundle := ⟨Node.root, []⟩

/-- The node that describes a payload. -/
def attachment (depth start size : Nat) : Node :=
  ((Node.bare Node.attachmentName depth).put "start" (.int (Int64.ofNat start))).put
    "size" (.int (Int64.ofNat size))

/-- Append a bare child to a node. -/
def addChild (bundle : Bundle) (path : List Nat) (name : String) : Bundle :=
  { bundle with root := bundle.root.update (·.addChild name) path }

/-- Write an attribute of a node, if it may be written. -/
def put (bundle : Bundle) (path : List Nat) (key : String) (value : Value) :
    Except AttributeFault Bundle := do
  checkAttribute key value
  return { bundle with root := bundle.root.update (·.put key value) path }

/-- Append a payload and record its range as a child of a node. -/
def attach (bundle : Bundle) (path : List Nat) (payload : List UInt8) : Bundle where
  root := bundle.root.update
    (fun node => node.push
      (attachment (node.depth + 1) bundle.appendix.length payload.length)) path
  appendix := bundle.appendix ++ payload

/-- Attach the UTF-8 bytes of a text. -/
def attachText (bundle : Bundle) (path : List Nat) (content : String) : Bundle :=
  bundle.attach path (Text.Utf8.encode content.toList)

/-- The bundle after one edit. -/
def apply (bundle : Bundle) : Edit → Except AttributeFault Bundle
  | .addChild path name => .ok (bundle.addChild path name)
  | .put path key value => bundle.put path key value
  | .attach path payload => .ok (bundle.attach path payload)

/-- The bundle after a sequence of edits, up to the first that is refused. -/
def applyAll (bundle : Bundle) (edits : List Edit) : Except AttributeFault Bundle :=
  edits.foldlM apply bundle

/-- The text part of the serialized bundle, marker included. -/
def text (bundle : Bundle) : List Char :=
  bundle.root.text ++ marker

/-- The serialized bundle. -/
def serialize (bundle : Bundle) : List UInt8 :=
  Text.Utf8.encode bundle.text ++ bundle.appendix

/-- What is noted about an attachment to the node of this name. -/
def attachRecord (size start : Nat) (name : String) : Journal.Record where
  level := .trace
  topic := .bundle
  text := s!"attached {size} byte(s) at offset {start} to node '{name}'"

end Bundle

end Offload.Container
