import Offload.Journal
import Offload.Json.Reader
import Offload.Settings.Fault
import Offload.Text.Path

/-! # Configuration files

An installation keeps default settings in JSON objects, one file or several to a directory. All
files named `*.json` of every directory are merged: directories in the order given, the files of a
directory in the order of their names, and a later value of a key replaces an earlier one. Loading
is all or nothing; the first file that cannot be merged is the error.
-/

namespace Offload.Settings

/-- Defaults by configuration key, and the directories they come from. -/
structure Defaults where
  directories : List String
  entries : Dictionary String
deriving DecidableEq, Repr

namespace Defaults

/-- The directory that is searched unless another one is chosen. -/
def standardDirectory : String := "/etc/AdaptiveCpp"

/-- No defaults. -/
def empty : Defaults := ⟨[], []⟩

/-- Defaults given as pairs; the last value of a key is kept. -/
def ofPairs (pairs : List (String × String)) : Defaults :=
  ⟨[], Dictionary.ofList pairs⟩

/-- The default of a key. -/
def lookup? (defaults : Defaults) (key : String) : Option String :=
  defaults.entries.lookup? key

/-- The default of a key, which must have one. -/
def get (defaults : Defaults) (key : String) : Except Fault String :=
  match defaults.lookup? key with
  | some value => .ok value
  | none => .error (.missingKey key)

/-- The default of a key, or the given value. -/
def getD (defaults : Defaults) (key fallback : String) : String :=
  (defaults.lookup? key).getD fallback

/-- The setting that a JSON value stands for: strings, truth values and numbers stand for their
text. -/
def setting? : Json.Value → Option String
  | .text content => some content
  | .bool b => some (if b then "true" else "false")
  | .number n => some n.text
  | _ => none

/-- Merge the members of one file, in the order of their names. -/
def mergeMembers (file : String) (entries : Dictionary String) :
    List (String × Json.Value) → Except Fault (Dictionary String)
  | [] => .ok entries
  | (key, value) :: rest =>
    match setting? value with
    | some text => mergeMembers file (Dictionary.insert key text entries) rest
    | none => .error (.unsupportedValue file key value.compact)

/-- The object in a file. -/
def readMembers (file : String) (content : List UInt8) :
    Except Fault (Dictionary Json.Value) := do
  let text ← (Text.Utf8.decode content).mapError fun _ => .unreadable file .notText
  (Json.readObject text).mapError (.invalidJson file)

/-- Merge one file. -/
def mergeFile (entries : Dictionary String) (file : String) (content : List UInt8) :
    Except Fault (Dictionary String) := do
  mergeMembers file entries (← readMembers file content)

/-- Whether the name of a regular file marks it as a configuration file. -/
def isConfigName (name : String) : Bool :=
  Text.Path.extension? name.toList == some "json".toList

/-- The configuration files of a directory with their contents, in the order of their names. An
entry that cannot be reached as a regular file does not count. -/
def filesIn (tree : Host.FileTree) (directory : String)
    (listing : List (String × Host.FileNode)) : List (String × List UInt8) :=
  (Dictionary.ofList (listing.filter (isConfigName ·.1))).filterMap fun (name, _) =>
    let file := String.ofList (Text.Path.join directory.toList name.toList)
    (tree.content? file).map (file, ·)

/-- The configuration files of the directories that exist, directory by directory. -/
def files (tree : Host.FileTree) (directories : List String) : List (String × List UInt8) :=
  directories.flatMap fun directory =>
    match tree.listing? directory with
    | some listing => filesIn tree directory listing
    | none => []

/-- Merge files in order. -/
def mergeFiles (entries : Dictionary String) :
    List (String × List UInt8) → Except Fault (Dictionary String)
  | [] => .ok entries
  | (file, content) :: rest => do mergeFiles (← mergeFile entries file content) rest

/-- The defaults that the configuration files of these directories give. -/
def load (tree : Host.FileTree) (directories : List String) : Except Fault Defaults := do
  return ⟨directories, ← mergeFiles [] (files tree directories)⟩

/-- What is noted about one file, and whether it was merged. -/
def fileRecords (file : String) (content : List UInt8) : List Journal.Record × Bool :=
  match readMembers file content with
  | .error _ => ([], false)
  | .ok members =>
    ([⟨.debug, .configFiles, s!"loading {members.length} key(s) from {file}"⟩],
      members.all fun (_, value) => (setting? value).isSome)

/-- What is noted about files read in order, up to the first that cannot be merged. -/
def filesRecords : List (String × List UInt8) → List Journal.Record × Bool
  | [] => ([], true)
  | (file, content) :: rest =>
    let (here, merged) := fileRecords file content
    if merged then
      let (later, all) := filesRecords rest
      (here ++ later, all)
    else (here, false)

/-- What is noted about loading: the directories that are not there, and the files read. -/
def loadRecords (tree : Host.FileTree) : List String → List Journal.Record
  | [] => []
  | directory :: rest =>
    match tree.listing? directory with
    | none =>
      ⟨.debug, .configFiles, s!"config directory {directory} does not exist, skipping"⟩ ::
        loadRecords tree rest
    | some listing =>
      let (here, merged) := filesRecords (filesIn tree directory listing)
      here ++ (if merged then loadRecords tree rest else [])

end Defaults

end Offload.Settings
