import Offload.Environment
import Offload.Settings.Arguments
import Offload.Settings.Files

/-! # Resolving settings

The value of an option comes from the first source that gives one: the command line, the
environment, the configuration files, the table itself. In the environment a current spelling counts
before every legacy one, and of two legacy spellings the one that is later in name order counts.

The directory of the configuration files is found before they are read, so for that one option the
files and their values have no say.
-/

namespace Offload.Settings

open Options

/-- Variables that name an option as they are written: current spellings. -/
def currentVariable? (table : Table) (name : String) : Option Entry :=
  table.byEnvName? name

/-- Variables that name an option only after their legacy spelling is upgraded. -/
def legacyVariable? (table : Table) (name : String) : Option Entry :=
  if (table.byEnvName? name).isSome then none
  else table.byEnvName? (Spelling.upgrade name)

/-- Values of the variables for which `named?` finds an option, by its key; of several variables for
one option the last one counts. -/
def collect (named? : String → Option Entry) (environment : Environment) : Dictionary String :=
  environment.foldl (fun values (name, value) =>
    match named? name with
    | some option => Dictionary.insert option.key value values
    | none => values) []

/-- Values given in the environment, by the key of their option. -/
def environmentValues (table : Table) (environment : Environment) : Dictionary String :=
  (collect (currentVariable? table) environment).foldl
    (fun values (key, value) => Dictionary.insert key value values)
    (collect (legacyVariable? table) environment)

/-- The effective value of one option, given what is left of the values of each source. -/
def choose (option : Entry) (commandLine : Dictionary Value) (environment : Dictionary String)
    (defaults : Defaults) : Option Resolved :=
  match commandLine.lookup? option.key with
  | some value => some ⟨value, .commandLine⟩
  | none =>
    match environment.lookup? option.key with
    | some text => some ⟨.ofText option text, .environment⟩
    | none =>
      match defaults.lookup? option.configKey with
      | some text => some ⟨.ofText option text, .configFile⟩
      | none => option.default?.map fun text => ⟨.ofText option text, .builtin⟩

/-- The settings of the options of a table. A value from the command line or the environment is used
for one option only, so a second option of the same key gets what the first one left. -/
def chooseAll (commandLine : Dictionary Value) (environment : Dictionary String)
    (defaults : Defaults) : Table → List Setting
  | [] => []
  | option :: rest =>
    let setting := ⟨option, choose option commandLine environment defaults⟩
    if (commandLine.lookup? option.key).isSome then
      setting :: chooseAll (commandLine.erase option.key) environment defaults rest
    else
      setting :: chooseAll commandLine (environment.erase option.key) defaults rest

/-- The settings of an invocation. -/
def resolve (table : Table) (arguments : List String) (environment : Environment)
    (defaults : Defaults) : Except Fault Settings := do
  let consumed := consumedArguments table arguments
  let commandLine ← commandLineValues table consumed
  return {
    list := chooseAll commandLine (environmentValues table environment) defaults table
    consumed := consumed
    forwarded := forwardedArguments table arguments }

/-- The key of the option that chooses the directory of the configuration files. -/
def directoryKey : String := "config-file-dir"

/-- The directories whose configuration files are read. -/
def configDirectories (table : Table) (arguments : List String) (environment : Environment) :
    Except Fault (List String) := do
  let some option := table.find? directoryKey
    | .error (.unknownOption directoryKey)
  let commandLine ← commandLineValues table (consumedArguments table arguments)
  match commandLine.lookup? directoryKey with
  | some value => return [value.display]
  | none =>
    match (environmentValues table environment).lookup? directoryKey with
    | some directory => return [directory]
    | none => return [option.default?.getD Defaults.standardDirectory]

/-- What is noted about legacy variables. -/
def environmentRecords (table : Table) (environment : Environment) : List Journal.Record :=
  environment.filterMap fun (name, _) =>
    (legacyVariable? table name).map fun option =>
      ⟨.debug, .resolution,
        s!"using deprecated environment variable {name} for {option.envName}"⟩

/-- What is noted about an option that has a value. -/
def settingRecord? (setting : Setting) : Option Journal.Record :=
  setting.resolved?.map fun resolved =>
    ⟨.debug, .resolution, s!"{setting.option.key} = '{resolved.value.display}' " ++
      s!"(from {resolved.source.name})"⟩

/-- What is noted while settings are resolved. -/
def resolveRecords (table : Table) (arguments : List String) (environment : Environment)
    (defaults : Defaults) : List Journal.Record :=
  recipientRecords table arguments ++
    assignRecords table (consumedArguments table arguments) ++
    match resolve table arguments environment defaults with
    | .error _ => []
    | .ok settings =>
      environmentRecords table environment ++ settings.list.filterMap settingRecord?

/-- What is noted while the directories of the configuration files are found. -/
def directoryRecords (table : Table) (arguments : List String) (environment : Environment) :
    List Journal.Record :=
  let consumed := consumedArguments table arguments
  recipientRecords table arguments ++
    if (table.find? directoryKey).isNone then []
    else
      assignRecords table consumed ++
        match commandLineValues table consumed with
        | .error _ => []
        | .ok values =>
          if (values.lookup? directoryKey).isSome then [] else environmentRecords table environment

end Offload.Settings
