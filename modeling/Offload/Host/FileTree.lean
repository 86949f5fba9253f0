import Offload.Host.RawPath

/-! # Files of the host

What the driver sees of the machine it runs on: a tree of directories and files, and the directory
it was started in. A path is followed one component at a time, as the system does, so that each way
of not reaching a file has its own cause. All names in the tree are text; a path is bytes, and a
component that is no text denotes nothing. The tree is a value: reading never changes it, and
writing returns the tree afterwards.
-/

namespace Offload.Host

/-- Why the system refuses an operation. -/
inductive Fault where
  | notFound
  | permissionDenied
  | notADirectory
  | isADirectory
  | noSpace
  | nameTooLong
  /-- There is no directory to look for a program in. The system has no cause to give, and repeats
  the one it met last: it was asked about a place in memory that is none. -/
  | nowhereToLook
  /-- A program is to be started with more text than the system hands over. -/
  | argumentsTooLong
  /-- A name with a NUL character never reaches the system. -/
  | nulInName
  /-- A command with a NUL character never reaches the system. -/
  | nulInCommand
  /-- A file to be read as text holds no text. -/
  | notText
deriving DecidableEq, Repr

/-- The fault in words. -/
def Fault.message : Fault → String
  | .notFound => "No such file or directory (os error 2)"
  | .permissionDenied => "Permission denied (os error 13)"
  | .notADirectory => "Not a directory (os error 20)"
  | .isADirectory => "Is a directory (os error 21)"
  | .noSpace => "No space left on device (os error 28)"
  | .nameTooLong => "File name too long (os error 36)"
  | .nowhereToLook => "Bad address (os error 14)"
  | .argumentsTooLong => "Argument list too long (os error 7)"
  | .nulInName => "file name contained an unexpected NUL byte"
  | .nulInCommand => "nul byte found in provided data"
  | .notText => "stream did not contain valid UTF-8"

/-- Programs that the system can start, by what they do. -/
inductive Program where
  /-- Reads and obeys a script. -/
  | shell
  /-- Ends with the given status. -/
  | ends (status : Nat)
deriving DecidableEq, Repr

/-- What a name in a directory stands for. -/
inductive FileNode where
  | directory (entries : List (String × FileNode))
  /-- A regular file that may be read and written but not started. -/
  | file (content : List UInt8)
  | program (program : Program)
  /-- A device on which every write finds no room. -/
  | fullDevice
deriving Inhabited

namespace FileNode

/-- The entry of this name in a directory. -/
def entry? : FileNode → String → Option FileNode
  | .directory entries, name => (entries.find? (·.1 == name)).map (·.2)
  | _, _ => none

/-- The name in a directory that a component of a path denotes. -/
def nameOf? : FileNode → RawPath → Option String
  | .directory entries, component =>
    (entries.find? (RawPath.ofText ·.1 == component)).map (·.1)
  | _, _ => none

/-- Whether the node is a directory. -/
def isDirectory : FileNode → Bool
  | .directory _ => true
  | _ => false

/-- The node at the end of a sequence of names. -/
def get? (node : FileNode) : List String → Option FileNode
  | [] => some node
  | name :: names => (node.entry? name).bind fun next => next.get? names

/-- Put a node at the end of a sequence of names, making the directories on the way. -/
def place (node : FileNode) (new : FileNode) : List String → FileNode
  | [] => new
  | name :: names =>
    let entries := match node with
      | .directory entries => entries
      | _ => []
    let below := ((entries.find? (·.1 == name)).map (·.2)).getD (.directory [])
    let changed := (name, below.place new names)
    .directory (if entries.any (·.1 == name) then
      entries.map fun entry => if entry.1 == name then changed else entry
    else entries ++ [changed])

end FileNode

/-- The files of a machine, and where the driver was started. -/
structure FileTree where
  root : FileNode
  workingDirectory : List String
deriving Inhabited

namespace FileTree

/-- The greatest length of one name, in bytes. -/
def nameLimit : Nat := 255

/-- The least length of a path that is too long, in bytes. -/
def pathLimit : Nat := 4096

/-- Follow components from the directory at `here`, which is given by its names from the root. -/
def follow (root : FileNode) (here : List String) : List RawPath → Except Fault (List String)
  | [] => .ok here
  | component :: rest =>
    match root.get? here with
    | none => .error .notFound
    | some node =>
      if !node.isDirectory then .error .notADirectory
      else if component = [] ∨ component = RawPath.sameDirectory then follow root here rest
      else if component = RawPath.parentDirectory then follow root here.dropLast rest
      else if nameLimit < component.length then .error .nameTooLong
      else
        match node.nameOf? component with
        | none => .error .notFound
        | some name => follow root (here ++ [name]) rest

/-- The directory from which a path is followed, by its names from the root. -/
def start (tree : FileTree) (path : RawPath) : Except Fault (List String) :=
  if path.contains 0 then .error .nulInName
  else if path = [] then .error .notFound
  else if pathLimit ≤ path.length then .error .nameTooLong
  else .ok (if path.isAbsolute then [] else tree.workingDirectory)

/-- The names from the root that a path denotes. -/
def locate (tree : FileTree) (path : RawPath) : Except Fault (List String) := do
  follow tree.root (← tree.start path) path.components

/-- The node that a path denotes. -/
def lookup (tree : FileTree) (path : RawPath) : Except Fault FileNode := do
  let names ← tree.locate path
  match tree.root.get? names with
  | some node => return node
  | none => .error .notFound

/-- The entries of a directory, or nothing if the path denotes no directory. -/
def listing? (tree : FileTree) (path : String) : Option (List (String × FileNode)) :=
  match tree.lookup (.ofText path) with
  | .ok (.directory entries) => some entries
  | _ => none

/-- The components of a path that is text. -/
def componentsOf (path : String) : List String :=
  (Text.fields '/' path.toList).map String.ofList

/-- Components without the empty ones at their end. -/
def withoutTrailing (components : List String) : List String :=
  (components.reverse.dropWhile (· == "")).reverse

/-- Replace or make the file at a path. A path that can only denote a directory, by a separator or
a dot at its end, is refused once the directory around it was found. -/
def write (tree : FileTree) (path : String) (content : List UInt8) : Except Fault FileTree := do
  let here ← tree.start (.ofText path)
  let components := componentsOf path
  let kept := withoutTrailing components
  let parent ← follow tree.root here (kept.dropLast.map .ofText)
  let name := kept.getLastD ""
  match tree.root.get? parent with
  | none => .error .notFound
  | some node =>
    if !node.isDirectory then .error .notADirectory
    else if kept ≠ components ∨ name = "" ∨ name = "." ∨ name = ".." then .error .isADirectory
    else if nameLimit < name.utf8ByteSize then .error .nameTooLong
    else
      match node.entry? name with
      | some (.directory _) => .error .isADirectory
      | some (.program _) => .error .permissionDenied
      | some .fullDevice => .error .noSpace
      | _ => return { tree with root := tree.root.place (.file content) (parent ++ [name]) }

/-- The content of a regular file. -/
def content? (tree : FileTree) (path : String) : Option (List UInt8) :=
  match tree.lookup (.ofText path) with
  | .ok (.file content) => some content
  | _ => none

/-- Follow components from the directory at `here`, making each directory that is not there. -/
def makeWay (root : FileNode) (here : List String) : List String → FileNode × List String
  | [] => (root, here)
  | component :: rest =>
    if component = "" ∨ component = "." then makeWay root here rest
    else if component = ".." then makeWay root here.dropLast rest
    else
      let next := here ++ [component]
      if (root.get? next).any (·.isDirectory) then makeWay root next rest
      else makeWay (root.place (.directory []) next) next rest

/-- The tree with the directories at the end and on the way of a sequence of components, and the
names of the last of them. -/
def withWay (tree : FileTree) (absolute : Bool) (components : List String) :
    FileTree × List String :=
  let (root, names) := makeWay tree.root (if absolute then [] else tree.workingDirectory) components
  ({ tree with root := root }, names)

/-- The tree with a directory at a path, and the directories on the way. -/
def withDirectory (tree : FileTree) (path : String) : FileTree :=
  (tree.withWay (RawPath.ofText path).isAbsolute (componentsOf path)).1

/-- The tree with a regular file at a path, and the directories on the way. -/
def withFile (tree : FileTree) (path : String) (content : List UInt8) : FileTree :=
  let components := componentsOf path
  let (tree, parent) := tree.withWay (RawPath.ofText path).isAbsolute components.dropLast
  { tree with root := tree.root.place (.file content) (parent ++ components.getLast?.toList) }

/-- A machine with the few programs and devices that every machine has, and an empty directory in
which the driver was started. -/
def fresh : FileTree where
  root := .directory [
    ("bin", .directory [
      ("sh", .program .shell), ("true", .program (.ends 0)), ("false", .program (.ends 1))]),
    ("dev", .directory [("full", .fullDevice), ("null", .file [])]),
    ("etc", .directory [("hosts", .file []), ("passwd", .file [])]),
    ("tmp", .directory [("work", .directory [])]),
    ("usr", .directory [("bin", .directory [
      ("sh", .program .shell), ("true", .program (.ends 0)), ("false", .program (.ends 1))])])]
  workingDirectory := ["tmp", "work"]

end FileTree

end Offload.Host
