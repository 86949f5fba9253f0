import Offload.Text.Split
import Offload.Text.Utf8

/-! # Paths as bytes

The system reads a path as bytes and asks of them only where the separators stand. A path need not
be text: one that comes from the environment may hold any bytes, and lengths are counted in bytes.
-/

namespace Offload.Host

/-- A path, or one component of it, as the bytes that the system reads. -/
abbrev RawPath := List UInt8

namespace RawPath

/-- The path that a text spells. -/
def ofText (text : String) : RawPath :=
  Text.Utf8.encode text.toList

/-- The byte between two components. -/
def separator : UInt8 := '/'.toNat.toUInt8

/-- The component that denotes the directory in which it stands. -/
def sameDirectory : RawPath := ofText "."

/-- The component that denotes the directory around the one in which it stands. -/
def parentDirectory : RawPath := ofText ".."

/-- Whether a path begins at the root. -/
def isAbsolute (path : RawPath) : Bool :=
  path.head? == some separator

/-- The components of a path, empty ones included. -/
def components (path : RawPath) : List RawPath :=
  Text.fieldsBy (· == separator) path

/-- A name in a directory. No directory at all stands for the working directory, in which the name
is its own path. -/
def child (directory name : RawPath) : RawPath :=
  if directory = [] then name else directory ++ separator :: name

example : components [47, 97, 47, 47, 255] = [[], [97], [], [255]] := by decide

end RawPath

end Offload.Host
