import Offload.Settings.Fault
import Offload.Target.Backend

/-! # Target faults

Every way in which targets cannot be chosen, by cause.
-/

namespace Offload.Target

/-- The form of the architectures of a backend. -/
structure ArchitectureForm where
  /-- How every architecture begins; a digit follows. -/
  beginning : String
  /-- The form as it is described. -/
  description : String
deriving DecidableEq, Repr

/-- What is wrong with a list of targets. -/
inductive ListFault where
  /-- No backend has this name. -/
  | unknownBackend (name : String)
  /-- The backend does not come in a flavor of this name. -/
  | unknownFlavor (name : String) (backend : Backend)
  /-- An architecture in this segment is empty. -/
  | emptyArchitecture (segment : String)
  /-- The backend takes no architectures. -/
  | needlessArchitecture (backend : Backend) (architecture : String)
  /-- The backend takes one architecture only. -/
  | tooManyArchitectures (backend : Backend) (count : Nat)
  /-- The architecture does not have the form of the backend's architectures. -/
  | malformedArchitecture (backend : Backend) (form : ArchitectureForm) (architecture : String)
  /-- The backend was listed before. -/
  | repeatedBackend (backend : Backend)
  /-- The list is empty. -/
  | noBackends
  /-- No platform has this name. -/
  | unknownPlatform (name : String)
deriving DecidableEq, Repr

/-- The fault in words. -/
def ListFault.message : ListFault → String
  | .unknownBackend name => s!"unknown backend '{name}'"
  | .unknownFlavor name backend => s!"unknown flavor '{name}' for backend '{backend.name}'"
  | .emptyArchitecture segment => s!"empty architecture in '{segment}'"
  | .needlessArchitecture backend architecture =>
    s!"backend '{backend.name}' does not accept an architecture list (got '{architecture}')"
  | .tooManyArchitectures backend count =>
    s!"backend '{backend.name}' accepts at most one architecture, got {count}"
  | .malformedArchitecture backend form architecture =>
    s!"'{architecture}' is not a valid {backend.name} architecture " ++
      s!"(expected {form.description})"
  | .repeatedBackend backend => s!"backend '{backend.name}' is listed more than once"
  | .noBackends => "no backends specified"
  | .unknownPlatform name =>
    s!"unknown legacy platform '{name}' (expected cpu, cuda or rocm)"

/-- Why targets cannot be chosen. -/
inductive Fault where
  /-- The text given for the targets means none. -/
  | invalidList (given : String) (cause : ListFault)
  /-- Two backends exclude each other. -/
  | incompatible (first second : String)
  /-- No backend has a compiler, and neither has this option. -/
  | noHostCompiler (option : String)
  /-- The settings do not say. -/
  | settings (cause : Settings.Fault)
deriving DecidableEq, Repr

/-- The fault in words. -/
def Fault.message : Fault → String
  | .invalidList given cause => s!"invalid target specification '{given}': {cause.message}"
  | .incompatible first second => s!"backends {first} and {second} cannot be combined"
  | .noHostCompiler option =>
    s!"no host compiler available: no backend provides one and {option} is not set"
  | .settings cause => cause.message

/-- The cause behind the fault, in words. -/
def Fault.cause? : Fault → Option String
  | .settings cause => cause.cause?
  | _ => none

end Offload.Target
