import Offload.Options.Builtin
import Offload.Settings.Basic
import Offload.Target.Fault

/-! # Platforms

An earlier way to choose one backend: the name of a platform and, for devices, one architecture.
Platforms count only where targets are left at their default. The list of targets is then written
from the platform, and a warning says what to give instead.
-/

namespace Offload.Target

open Options

/-- The backend that a platform stands for. The case of the name does not matter. -/
def platformBackend? (folded : String) : Option Backend :=
  if ["cpu", "host", "omp"].contains folded then some .omp
  else if ["cuda", "nvidia"].contains folded then some .cuda
  else if ["rocm", "hip", "amd"].contains folded then some .hip
  else none

/-- The list of targets that a platform and an architecture stand for. Host processors have no
architecture. -/
def ofPlatform (platform : String) (architecture? : Option String) : Except Fault String :=
  let folded := String.ofList (platform.toList.map Char.toLower)
  match platformBackend? folded with
  | none => .error (.invalidList platform (.unknownPlatform folded))
  | some .omp => .ok Backend.omp.name
  | some backend =>
    match architecture? with
    | some architecture => .ok s!"{backend.name}:{architecture}"
    | none => .ok backend.name

/-- The warning for a list that was written from a platform. -/
def platformWarning (derived : String) : String :=
  "--acpp-platform and --acpp-gpu-arch are deprecated; " ++
    s!"use --acpp-targets='{derived}' instead."

/-- Settings that do not say what targets there are. -/
def ofSettings {α : Type} (found : Except Settings.Fault α) : Except Fault α :=
  found.mapError .settings

/-- The list of targets in effect, and the warning if it was written from a platform. -/
def effective (settings : Settings) : Except Fault (String × Option String) := do
  let given ← ofSettings (settings.value Builtin.targets.key)
  let source? ← ofSettings (settings.source? Builtin.targets.key)
  if source? = some .builtin then
    match ← ofSettings (settings.value? Builtin.platform.key) with
    | none => return (given, none)
    | some platform =>
      let architecture? ← ofSettings (settings.value? Builtin.gpuArch.key)
      let derived ← ofPlatform platform architecture?
      return (derived, some (platformWarning derived))
  else return (given, none)

end Offload.Target
