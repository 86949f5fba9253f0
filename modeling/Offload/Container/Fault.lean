import Offload.Container.Node
import Offload.Text.Utf8

/-! # Container faults

Every way in which reading or writing a container can fail, by cause. `Fault.message` words each.
-/

namespace Offload.Container

/-- Why container data or a request on it is refused. -/
inductive Fault where
  /-- No marker separates a tree from an appendix. -/
  | missingMarker
  /-- The bytes before the marker are no text. -/
  | notText (fault : Text.Utf8.Fault)
  /-- A line closes a node while none is open. -/
  | closingUnopened (line : Nat) (name : String)
  /-- A line closes another node than the innermost open one. -/
  | closingOther (line : Nat) (opened found : String)
  /-- A line has nothing before its `=`. -/
  | missingKey (line : Nat)
  /-- A line is neither an attribute nor a bracket. -/
  | unknownLine (line : Nat) (text : String)
  /-- The text ends inside this node. -/
  | unclosed (name : String)
  /-- An attribute cannot be written. -/
  | attribute (fault : AttributeFault)
  /-- The node does not describe a payload. -/
  | notAttachment (name : String)
  /-- The description of a payload lacks this number. -/
  | lacksInteger (key : String)
  /-- A number in the description of a payload is negative. -/
  | negative (key : String)
  /-- The end of the described range is not an offset. -/
  | rangeOverflow
  /-- The described range reaches past the appendix. -/
  | outOfRange (start size length : Nat)
  /-- A header cannot be written to a file. -/
  | cannotWrite (path cause : String)
deriving DecidableEq, Repr

/-- Whether the data itself is at fault: it is no bundle, or describes no payload. The other faults are
those of a write, of the appendix's length and of the file system. -/
def Fault.IsMalformed : Fault → Prop
  | .attribute _ | .outOfRange .. | .cannotWrite .. => False
  | _ => True

/-- What is wrong with malformed data. -/
private def malformed (detail : String) : String :=
  s!"malformed HCF data: {detail}"

/-- The fault in words. -/
def Fault.message : Fault → String
  | .missingMarker => malformed "missing binary appendix marker"
  | .notText fault => malformed s!"node tree is not UTF-8: {fault.message}"
  | .closingUnopened line name =>
    malformed s!"line {line}: closing '{name}' without an open node"
  | .closingOther line opened found =>
    malformed s!"line {line}: expected '\x7d.{opened}', found '\x7d.{found}'"
  | .missingKey line => malformed s!"line {line}: attribute without a key"
  | .unknownLine line text =>
    malformed s!"line {line}: expected attribute or node bracket, found '{text}'"
  | .unclosed name => malformed s!"node '{name}' is never closed"
  | .attribute fault => fault.message
  | .notAttachment name => malformed s!"node '{name}' is not a binary attachment"
  | .lacksInteger key => malformed s!"binary attachment lacks integer '{key}'"
  | .negative key => malformed s!"negative '{key}' in binary attachment"
  | .rangeOverflow => malformed "attachment range overflows"
  | .outOfRange start size length =>
    s!"binary attachment [{start}, {start}+{size}) exceeds appendix of {length} bytes"
  | .cannotWrite path cause => s!"I/O error writing {path}: {cause}"

end Offload.Container
