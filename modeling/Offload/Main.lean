import Offload.Invocation.Transcript

/-! # The command line

Reads what an invocation is started with from the system, runs it, and prints what is seen of it.
The command that an invocation comes to is printed as words of a shell, for the calling shell to
execute.
-/

namespace Offload.Host

/-- The pieces between zero bytes, each of which ends in one. -/
def zeroTerminated (block : List UInt8) : List (List UInt8) :=
  (block.splitOn 0).dropLast

/-- The tree with the configuration files of a directory of the system, if it is one. -/
def FileTree.readDirectory (tree : FileTree) (directory : String) : IO FileTree := do
  match ← (IO.FS.realPath directory).toBaseIO with
  | .error _ => return tree
  | .ok place =>
    unless ← place.isDir do return tree
    let mut tree := tree.withDirectory directory
    for entry in ← place.readDir do
      let isConfig := Settings.Defaults.isConfigName entry.fileName
      if isConfig && !(← entry.path.isDir) then
        let content ← IO.FS.readBinFile entry.path
        let name := Text.Path.join directory.toList entry.fileName.toList
        tree := tree.withFile (String.ofList name) content.toList
    return tree

end Offload.Host

open Offload in
/-- Run the driver on the arguments it is started with. -/
def main (arguments : List String) : IO UInt32 := do
  let command ← IO.FS.readBinFile "/proc/self/cmdline"
  let environ ← IO.FS.readBinFile "/proc/self/environ"
  let startedAs := (Host.zeroTerminated command.toList).headD []
  let blank : Invocation := {
    startedAs := String.ofList (Text.Utf8.decodeLossy startedAs)
    arguments := arguments
    environment := Environment.ofSystem (Host.zeroTerminated environ.toList)
    files := ⟨.directory [], []⟩ }
  let directories := blank.directories.toOption.getD []
  let invocation := { blank with files := ← directories.foldlM (·.readDirectory ·) blank.files }
  let course := invocation.run
  for event in course.events do
    match event with
    | .output text => IO.print text
    | .warning message => IO.eprint (Invocation.warningLine message)
  match course.result with
  | .ok (.done code) => return (code % 256).toNat.toUInt32
  | .ok (.execute command) =>
    IO.println command.display
    return 0
  | .error fault =>
    IO.eprintln fault.line
    return (Invocation.failureCode % 256).toNat.toUInt32
