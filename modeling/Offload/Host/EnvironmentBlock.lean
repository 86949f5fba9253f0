import Offload.Host.RawPath

/-! # Environment blocks

The environment as a program receives it when it is started: raw entries of bytes, each a name, `=`
and a value. The one who starts a program gives each name one value and hands the entries over in
the order of the names. A name may hold `=` itself, so two entries can read as the same variable;
which of them counts is then a matter of that order.
-/

namespace Offload.Host

/-- The raw entries of the environment with which a program is started. -/
abbrev EnvironmentBlock := List (List UInt8)

namespace EnvironmentBlock

/-- The byte between a name and its value. -/
def separator : UInt8 := '='.toNat.toUInt8

/-- Give a name its value, in the order of the names and in place of an earlier value. -/
def assign (name value : List UInt8) :
    List (List UInt8 × List UInt8) → List (List UInt8 × List UInt8)
  | [] => [(name, value)]
  | (known, old) :: rest =>
    if name = known then (name, value) :: rest
    else if name < known then (name, value) :: (known, old) :: rest
    else (known, old) :: assign name value rest

/-- The entries for variables that are given one after the other. -/
def ofVariables (given : List (List UInt8 × List UInt8)) : EnvironmentBlock :=
  let assigned := given.foldl (fun known (name, value) => assign name value known) []
  assigned.map fun (name, value) => name ++ separator :: value

/-- The value behind a name in the first entry that begins with the name and `=`. -/
def value? (block : EnvironmentBlock) (name : List UInt8) : Option (List UInt8) :=
  let start := name ++ [separator]
  (block.find? (start.isPrefixOf ·)).map (·.drop start.length)

/-- The variable that lists the directories in which programs are looked for. -/
def searchVariable : List UInt8 := Text.Utf8.encode "PATH".toList

/-- The byte between two directories of a list. -/
def listSeparator : UInt8 := ':'.toNat.toUInt8

/-- The directories in which programs are looked for if the environment lists none. -/
def standardSearchPath : List RawPath := [.ofText "/bin", .ofText "/usr/bin"]

/-- The directories in which programs are looked for. They need not be text. -/
def searchPath (block : EnvironmentBlock) : List RawPath :=
  match block.value? searchVariable with
  | some listed => Text.fieldsBy (· == listSeparator) listed
  | none => standardSearchPath

example : ofVariables [([98], [49]), ([97, 61], [50]), ([97], [51]), ([98], [52])] =
    [[97, 61, 51], [97, 61, 61, 50], [98, 61, 52]] := by decide

example : searchPath [[80, 65, 84, 72, 61, 255, 58]] = [[255], []] := by decide

end EnvironmentBlock

end Offload.Host
