import Offload.Host.EnvironmentBlock
import Offload.Host.FileTree
import Offload.Text.Blank
import Offload.Text.Decimal

/-! # Starting a program

How the system finds the program of a command and how the program ends. A name with a separator is a
path; any other name is looked for in the directories of the search path. A program that was found
starts only if its arguments and environment fit what the system hands over. Of the shell only the
scripts are modelled that decide how it ends: they print nothing.
-/

namespace Offload.Host

/-- How a started program ends. -/
inductive Ending where
  | exited (status : Nat)
  | signalled
deriving DecidableEq, Repr

/-- The exit code that an ending stands for; a program ended by a signal has none of its own. -/
def Ending.code : Ending → Int
  | .exited status => status
  | .signalled => -1

namespace Shell

/-- Obey simple commands, given as words, while the last one ended with `status`. -/
def obey (status : Nat) : List (List String) → Ending
  | [] => .exited status
  | ["exit"] :: _ => .exited status
  | ["exit", code] :: _ => .exited (((Text.Decimal.natural? code.toList).getD 2) % 256)
  | ("kill" :: arguments) :: rest =>
    if arguments.getLast? = some "$$" then .signalled else obey 1 rest
  | ["false"] :: rest => obey 1 rest
  | _ :: rest => obey 0 rest

/-- Obey a script: commands end at a line feed or a semicolon, words at blanks. -/
def run (script : List Char) : Ending :=
  let commands := (Text.fieldsBy (fun c => c == ';' || c == '\n') script).map fun command =>
    (Text.words command).map String.ofList
  obey 0 (commands.filter (!·.isEmpty))

end Shell

/-- How a program ends when it is started with these arguments. -/
def Program.ending (tree : FileTree) : Program → List String → Ending
  | .ends status, _ => .exited status
  | .shell, "-c" :: script :: _ => Shell.run script.toList
  | .shell, name :: _ =>
    match tree.content? name with
    | some content => Shell.run (Text.Utf8.decodeLossy content)
    | none => .exited 2
  | .shell, [] => .exited 0

namespace FileTree

/-- The program at a path. -/
def programAt (tree : FileTree) (path : RawPath) : Except Fault Program := do
  match ← tree.lookup path with
  | .program program => return program
  | _ => .error .permissionDenied

/-- The directories in which a name is looked for. A directory longer than any path stands for the
working directory, and at the end of the search path it does not count. -/
def searchDirectories : List RawPath → List RawPath
  | [] => []
  | [last] => if pathLimit ≤ last.length then [] else [last]
  | directory :: rest =>
    (if pathLimit ≤ directory.length then [] else directory) :: searchDirectories rest

/-- Whether a search goes on after a directory in which a program could not be started for this
reason. -/
def isPassedOver : Fault → Bool
  | .notFound | .notADirectory | .permissionDenied => true
  | _ => false

/-- The first program of a name in a list of directories, with its path; `fault` is the reason so
far why there was none. Once a name was found that may not be started, that stays the reason. A
directory that fails in a way that says nothing about the program ends the search. -/
def search (tree : FileTree) (name : RawPath) (fault : Fault) :
    List RawPath → Except Fault (RawPath × Program)
  | [] => .error fault
  | directory :: rest =>
    let path := directory.child name
    match tree.programAt path with
    | .ok program => .ok (path, program)
    | .error cause =>
      if isPassedOver cause then
        search tree name (if fault = .permissionDenied then fault else cause) rest
      else .error cause

/-- The program of a name without separators, with its path. Of a name longer than any entry of a
directory, no more is looked for than it takes to be too long. -/
def find (tree : FileTree) (searchPath : List RawPath) (name : RawPath) :
    Except Fault (RawPath × Program) :=
  tree.search (name.take (nameLimit + 1)) .nowhereToLook (searchDirectories searchPath)

/-- The greatest size of one argument, in bytes. -/
def argumentLimit : Nat := 131071

/-- The size of the space for all that a program is started with, in bytes. -/
def startSpace : Nat := 2097152

/-- The space that a program takes to be started: its path, its arguments and its environment, each
text with a byte at its end, and a pointer of eight bytes to each argument and variable. -/
def startSize (block : EnvironmentBlock) (path : RawPath) (words : List String) : Nat :=
  let sizes := words.map String.utf8ByteSize ++ block.map List.length
  sizes.foldl (fun total size => total + size + 9) (path.length + 1)

/-- Whether a program can be handed its arguments, its name being the first of them, and its
environment. -/
def canStart (block : EnvironmentBlock) (path : RawPath) (words : List String) : Bool :=
  words.all (·.utf8ByteSize ≤ argumentLimit) && startSize block path words ≤ startSpace

/-- Find and run a command in an environment. -/
def launch (tree : FileTree) (block : EnvironmentBlock) (program : String)
    (arguments : List String) : Except Fault Ending := do
  if (program :: arguments).any (·.toList.contains '\x00') then .error .nulInCommand
  else if program = "" then .error .notFound
  else
    let name := RawPath.ofText program
    let (path, found) ←
      if name.contains RawPath.separator then (tree.programAt name).map (name, ·)
      else tree.find block.searchPath name
    if canStart block path (program :: arguments) then return found.ending tree arguments
    else .error .argumentsTooLong

end FileTree

end Offload.Host
