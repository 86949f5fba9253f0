/-! # Backends

The ways of compiling for a device, the flavors a backend comes in, and the two modes of working
through device and host code. All three are closed vocabularies: `ofName?` reads exactly the names
that `name` writes.
-/

namespace Offload.Target

/-- Whether device and host code are compiled in one pass or apart. -/
inductive Multipass where
  | integrated
  | explicit
deriving DecidableEq, Repr, Inhabited

/-- The mode as it is displayed. -/
def Multipass.name : Multipass → String
  | .integrated => "integrated multipass"
  | .explicit => "explicit multipass"

/-- A variant of a backend that is chosen by name. -/
inductive Flavor where
  | libraryOnly
  | accelerated
  | explicitMultipass
  | integratedMultipass
deriving DecidableEq, Repr

namespace Flavor

/-- Every flavor. -/
def all : List Flavor := [.libraryOnly, .accelerated, .explicitMultipass, .integratedMultipass]

/-- The name of a flavor in a list of targets. -/
def name : Flavor → String
  | .libraryOnly => "library-only"
  | .accelerated => "accelerated"
  | .explicitMultipass => "explicit-multipass"
  | .integratedMultipass => "integrated-multipass"

/-- The flavor of a name. -/
def ofName? (name : String) : Option Flavor :=
  all.find? (·.name == name)

/-- The mode that a flavor insists on. -/
def multipass? : Flavor → Option Multipass
  | .explicitMultipass => some .explicit
  | .integratedMultipass => some .integrated
  | .libraryOnly | .accelerated => none

theorem mem_all (flavor : Flavor) : flavor ∈ all := by
  cases flavor <;> decide

theorem ofName?_name (flavor : Flavor) : ofName? flavor.name = some flavor := by
  cases flavor <;> decide

theorem name_of_ofName? {name : String} {flavor : Flavor} (known : ofName? name = some flavor) :
    flavor.name = name := by
  simpa using List.find?_some known

end Flavor

/-- A way of compiling for a device. -/
inductive Backend where
  /-- Host processors, by OpenMP. -/
  | omp
  /-- CUDA devices, by clang. -/
  | cuda
  /-- CUDA devices, by nvc++. -/
  | cudaNvcxx
  /-- HIP devices, by clang. -/
  | hip
  /-- Any device, chosen when the program runs. -/
  | generic
deriving DecidableEq, Repr

namespace Backend

/-- Every backend, in the order of the documentation. -/
def all : List Backend := [.omp, .cuda, .cudaNvcxx, .hip, .generic]

/-- The name of a backend in a list of targets. -/
def name : Backend → String
  | .omp => "omp"
  | .cuda => "cuda"
  | .cudaNvcxx => "cuda-nvcxx"
  | .hip => "hip"
  | .generic => "generic"

/-- The backend of a name. -/
def ofName? (name : String) : Option Backend :=
  all.find? (·.name == name)

/-- The flavors that a backend comes in. -/
def flavors : Backend → List Flavor
  | .omp => [.libraryOnly, .accelerated]
  | .cuda | .hip => [.explicitMultipass, .integratedMultipass]
  | .cudaNvcxx | .generic => []

/-- Whether a backend comes in a flavor. -/
def accepts (backend : Backend) (flavor : Flavor) : Bool :=
  backend.flavors.contains flavor

theorem mem_all (backend : Backend) : backend ∈ all := by
  cases backend <;> decide

theorem ofName?_name (backend : Backend) : ofName? backend.name = some backend := by
  cases backend <;> decide

theorem name_of_ofName? {name : String} {backend : Backend}
    (known : ofName? name = some backend) : backend.name = name := by
  simpa using List.find?_some known

end Backend

end Offload.Target
