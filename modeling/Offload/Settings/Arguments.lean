import Offload.Dictionary
import Offload.Journal
import Offload.Options.Spelling
import Offload.Settings.Basic

/-! # Arguments of the driver and of the compiler

An argument is the driver's if the part before its first `=` is the flag of an option, as written or
after its legacy spelling is upgraded. All others go to the compiler as they are. The driver's own
arguments give values to options: a switch may stand bare, an option that takes a value may not, and
the last of several arguments for one option counts.
-/

namespace Offload.Settings

open Options

/-- Who an argument is for. -/
inductive Recipient where
  | driver
  | compiler
deriving DecidableEq, Repr

/-- The recipient as it is displayed. -/
def Recipient.name : Recipient → String
  | .driver => "Driver"
  | .compiler => "Forwarded"

/-- The option that an argument names as it is written. -/
def optionNamed? (table : Table) (argument : String) : Option Entry :=
  table.byFlag? (Spelling.cut argument).1

/-- Who an argument is for. -/
def recipient (table : Table) (argument : String) : Recipient :=
  if (optionNamed? table argument).isSome ||
      (optionNamed? table (Spelling.upgrade argument)).isSome then .driver
  else .compiler

/-- The arguments the driver consumes, in order. -/
def consumedArguments (table : Table) (arguments : List String) : List String :=
  arguments.filter (recipient table · == .driver)

/-- The arguments for the compiler, in order. -/
def forwardedArguments (table : Table) (arguments : List String) : List String :=
  arguments.filter (recipient table · == .compiler)

/-- The value that an argument gives to its option: nothing where no option is named. -/
def assignment? (table : Table) (argument : String) : Except Fault (Option (Entry × Value)) :=
  let (name, given) := Spelling.cut (Spelling.upgrade argument)
  match table.byFlag? name with
  | none => .ok none
  | some option =>
    match given with
    | some text => .ok (some (option, .ofText option text))
    | none =>
      if option.isSwitch then .ok (some (option, .switch true))
      else .error (.missingValue name)

/-- Values given by the driver's arguments, by the key of their option. -/
def assign (table : Table) (values : Dictionary Value) :
    List String → Except Fault (Dictionary Value)
  | [] => .ok values
  | argument :: rest =>
    match assignment? table argument with
    | .error fault => .error fault
    | .ok none => assign table values rest
    | .ok (some (option, value)) => assign table (Dictionary.insert option.key value values) rest

/-- Values given on the command line, by the key of their option. -/
def commandLineValues (table : Table) (consumed : List String) :
    Except Fault (Dictionary Value) :=
  assign table [] consumed

/-- What is noted about who each argument is for. -/
def recipientRecords (table : Table) (arguments : List String) : List Journal.Record :=
  arguments.map fun argument =>
    ⟨.trace, .resolution,
      s!"argument '{argument}' classified as {(recipient table argument).name}"⟩

/-- What is noted about the driver's arguments, up to the first that is refused. -/
def assignRecords (table : Table) : List String → List Journal.Record
  | [] => []
  | argument :: rest =>
    let upgraded :=
      if Spelling.isLegacy argument then
        [⟨.debug, .resolution,
          s!"upgraded deprecated argument '{argument}' to '{Spelling.upgrade argument}'"⟩]
      else []
    upgraded ++
      match assignment? table argument with
      | .error _ => []
      | .ok _ => assignRecords table rest

end Offload.Settings
