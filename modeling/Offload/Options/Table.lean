import Offload.Dictionary

/-! # Option tables

An option of the driver has one key and three spellings: a flag on the command line, a variable in
the environment, and a key in the configuration files. A table lists the options in the order in
which they are reported; where two options share a spelling, the first one has it.
-/

namespace Offload.Options

/-- One option and its spellings. -/
structure Entry where
  /-- The name by which the driver knows the option. -/
  key : String
  /-- The flag that sets it on the command line. -/
  flag : String
  /-- The variable that sets it in the environment. -/
  envName : String
  /-- The key that sets it in the configuration files. -/
  configKey : String
  description : String
  /-- Whether the option is on or off, rather than a value. -/
  isSwitch : Bool
  /-- The value when nothing sets it. -/
  default? : Option String
deriving DecidableEq, Repr

/-- Options in the order of the report. -/
abbrev Table := List Entry

namespace Table

/-- The option of this key. -/
def find? (table : Table) (key : String) : Option Entry :=
  List.find? (·.key == key) table

/-- The option that this flag sets. -/
def byFlag? (table : Table) (flag : String) : Option Entry :=
  List.find? (·.flag == flag) table

/-- The option that this variable sets. -/
def byEnvName? (table : Table) (name : String) : Option Entry :=
  List.find? (·.envName == name) table

/-- The options that take a value. -/
def valued (table : Table) : List Entry :=
  table.filter (!·.isSwitch)

/-- The options that are on or off. -/
def switches (table : Table) : List Entry :=
  table.filter (·.isSwitch)

/-- Names in order, each once. -/
def sortedNames (names : List String) : List String :=
  (Dictionary.ofList (names.map (·, ()))).map (·.1)

/-- All flags, in order and each once. -/
def flags (table : Table) : List String :=
  sortedNames (table.map (·.flag))

/-- All variables, in order and each once. -/
def envNames (table : Table) : List String :=
  sortedNames (table.map (·.envName))

end Table

end Offload.Options
