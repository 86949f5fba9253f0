import Offload.Host.FileTree
import Offload.Json.Fault
import Offload.Options.Table

/-! # Settings faults

Every way in which the settings of an invocation cannot be found out, by cause.
-/

namespace Offload.Settings

/-- Why settings are refused. -/
inductive Fault where
  /-- No option has this key. -/
  | unknownOption (key : String)
  /-- Nothing sets the option. -/
  | notSet (option : Options.Entry)
  /-- An environment entry is no assignment. -/
  | malformedVariable (entry : String)
  /-- A flag that needs a value was given without one. -/
  | missingValue (flag : String)
  /-- A switch was read as a value. -/
  | switchRead (key : String)
  /-- A configuration file gives a key a value that is no setting. -/
  | unsupportedValue (file key found : String)
  /-- No configuration file gives the key a value. -/
  | missingKey (key : String)
  /-- The flag belongs to another implementation. -/
  | foreignFlag (flag : String)
  /-- A file or directory cannot be read. -/
  | unreadable (path : String) (cause : Host.Fault)
  /-- A configuration file is no JSON object. -/
  | invalidJson (path : String) (cause : Json.Fault)
deriving DecidableEq, Repr

/-- What could not be understood. -/
private def misread (detail : String) : String :=
  s!"config parse error: {detail}"

/-- The fault in words. -/
def Fault.message : Fault → String
  | .unknownOption key => s!"unknown option '{key}'"
  | .notSet option =>
    s!"option '{option.key}' is not set (use {option.flag}, {option.envName} or the " ++
      s!"'{option.configKey}' config key)"
  | .malformedVariable entry =>
    misread s!"malformed environment entry '{entry}' (expected KEY=VALUE)"
  | .missingValue flag => misread s!"option {flag} requires a value ({flag}=<value>)"
  | .switchRead key => misread s!"'{key}' is a flag, not a value option"
  | .unsupportedValue file key found =>
    misread (s!"{file}: value of '{key}' must be a string, boolean or number, " ++
      s!"found {found}")
  | .missingKey key => s!"accessed missing key in config files: {key}"
  | .foreignFlag flag =>
    s!"the {flag} flag is a component from a different SYCL implementation. " ++
      "This flag is neither needed nor meaningful for AdaptiveCpp. Its use is unsupported."
  | .unreadable path cause => s!"I/O error reading {path}: {cause.message}"
  | .invalidJson path cause => s!"invalid JSON in {path}: {cause.message}"

/-- The cause behind the fault, in words. -/
def Fault.cause? : Fault → Option String
  | .unreadable _ cause => some cause.message
  | .invalidJson _ cause => some cause.message
  | _ => none

end Offload.Settings
