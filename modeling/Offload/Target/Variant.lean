import Offload.Target.Basic
import Offload.Target.Platform

/-! # Variants

What a target comes to under the settings: one variant of its backend, with the mode it runs in. A
variant has a name of its own, may insist on a mode, may want a compiler, and adds flags to the
compilation of the host code and to linking. Which options hold its flags depends on the variant
alone.
-/

namespace Offload.Target

open Options

/-- How the code for devices is compiled by clang. -/
structure Device where
  /-- The flavor that was asked for. -/
  flavor? : Option Flavor
  architectures : List String
  /-- The mode that it runs in. -/
  multipass : Multipass
deriving DecidableEq, Repr

/-- A variant of a backend. -/
inductive Variant where
  /-- OpenMP with any compiler that knows it. -/
  | ompLibraryOnly
  /-- OpenMP with support by clang. -/
  | ompAccelerated
  | cuda (device : Device)
  | cudaNvcxx (architecture? : Option String)
  | hip (device : Device)
  /-- One pass for all devices. -/
  | sscp
deriving DecidableEq, Repr

/-- A compiler that a variant wants, and how strongly. -/
structure Preference where
  executable : String
  priority : Nat
deriving DecidableEq, Repr

/-- How the code for devices starts out: in the mode its flavor insists on, or else in the given
one. -/
def device (target : Target) (mode : Multipass) : Device where
  flavor? := target.flavor?
  architectures := target.architectures
  multipass := (target.flavor?.bind (·.multipass?)).getD mode

/-- The variant that a target comes to when the others run in `mode`. -/
def elaborate (settings : Settings) (mode : Multipass) (target : Target) :
    Except Fault Variant :=
  match target.backend with
  | .omp =>
    match target.flavor? with
    | some .accelerated => .ok .ompAccelerated
    | some .libraryOnly => .ok .ompLibraryOnly
    | _ => do
      if ← ofSettings (settings.isOn? Builtin.useAcceleratedCpu.key) then
        return .ompAccelerated
      else return .ompLibraryOnly
  | .cuda => .ok (.cuda (target.device mode))
  | .hip => .ok (.hip (target.device mode))
  | .cudaNvcxx => .ok (.cudaNvcxx target.architectures.head?)
  | .generic => .ok .sscp

namespace Variant

/-- The backend that the variant is one of. -/
def backend : Variant → Backend
  | .ompLibraryOnly | .ompAccelerated => .omp
  | .cuda _ => .cuda
  | .cudaNvcxx _ => .cudaNvcxx
  | .hip _ => .hip
  | .sscp => .generic

/-- The code for devices, where clang compiles it. -/
def device? : Variant → Option Device
  | .cuda device | .hip device => some device
  | _ => none

/-- The name of the variant, mode included. -/
def name : Variant → String
  | .ompLibraryOnly => "omp.library-only"
  | .ompAccelerated => "omp.accelerated"
  | .cuda device =>
    match device.multipass with
    | .integrated => "cuda.integrated-multipass"
    | .explicit => "cuda.explicit-multipass"
  | .cudaNvcxx _ => "cuda-nvcxx"
  | .hip device =>
    match device.multipass with
    | .integrated => "hip.integrated-multipass"
    | .explicit => "hip.explicit-multipass"
  | .sscp => "sscp"

/-- The mode that the variant insists on. -/
def insistsOn? : Variant → Option Multipass
  | .ompLibraryOnly | .ompAccelerated => none
  | .cuda device | .hip device => device.flavor?.bind (·.multipass?)
  | .cudaNvcxx _ | .sscp => some .integrated

/-- The variant in a mode. Only code for devices that clang compiles has one. -/
def inMode (mode : Multipass) : Variant → Variant
  | .cuda device => .cuda { device with multipass := mode }
  | .hip device => .hip { device with multipass := mode }
  | other => other

/-- The option that names the compiler the variant wants, and how strongly it wants it. -/
def compilerOption : Variant → Entry × Nat
  | .ompLibraryOnly => (Builtin.cpuCompiler, 1)
  | .ompAccelerated | .cuda _ | .hip _ | .sscp => (Builtin.clang, 2)
  | .cudaNvcxx _ => (Builtin.nvcxx, 3)

/-- The compiler that the variant wants, if the settings name it. -/
def preference? (settings : Settings) (variant : Variant) : Except Fault (Option Preference) := do
  let (option, priority) := variant.compilerOption
  let executable? ← ofSettings (settings.value? option.key)
  return executable?.map (⟨·, priority⟩)

/-- The option that holds the flags for compiling. -/
def cxxFlagsOption? : Variant → Option Entry
  | .ompLibraryOnly | .ompAccelerated => some Builtin.ompCxxFlags
  | .cuda _ => some Builtin.cudaCxxFlags
  | .hip _ => some Builtin.rocmCxxFlags
  | .cudaNvcxx _ | .sscp => none

/-- The option that holds the flags for linking. -/
def linkLineOption? : Variant → Option Entry
  | .ompLibraryOnly | .ompAccelerated => some Builtin.ompLinkLine
  | .cuda _ => some Builtin.cudaLinkLine
  | .hip _ => some Builtin.rocmLinkLine
  | .cudaNvcxx _ | .sscp => none

/-- The words of an option's value; none if nothing sets it. -/
def configuredWords (settings : Settings) : Option Entry → Except Fault (List String)
  | none => .ok []
  | some option => do
    match ← ofSettings (settings.value? option.key) with
    | none => return []
    | some value => return (Text.words value.toList).map String.ofList

/-- The flag with an option's value behind it; none if nothing sets it. -/
def pathFlag (settings : Settings) (option : Entry) (flag : String) :
    Except Fault (List String) := do
  return (← ofSettings (settings.value? option.key)).toList.map (flag ++ ·)

/-- The flags by which the variant has code for devices compiled along with the host code. -/
def deviceFlags (settings : Settings) : Variant → Except Fault (List String)
  | .cuda device =>
    match device.multipass with
    | .explicit => .ok []
    | .integrated => do
      let path ← pathFlag settings Builtin.cudaPath "--cuda-path="
      return ["-x", "cuda"] ++ device.architectures.map ("--cuda-gpu-arch=" ++ ·) ++ path
  | .hip device =>
    match device.multipass with
    | .explicit => .ok []
    | .integrated => do
      let path ← pathFlag settings Builtin.rocmPath "--rocm-path="
      return ["-x", "hip"] ++ device.architectures.map ("--offload-arch=" ++ ·) ++ path
  | .cudaNvcxx architecture? => .ok ("-cuda" :: architecture?.toList.map ("-gpu=" ++ ·))
  | .ompLibraryOnly | .ompAccelerated | .sscp => .ok []

/-- The flags that the variant adds to the compilation of the host code. -/
def hostPassFlags (settings : Settings) (variant : Variant) : Except Fault (List String) := do
  let configured ← configuredWords settings variant.cxxFlagsOption?
  return configured ++ (← variant.deviceFlags settings)

/-- The flags that the variant adds to linking. -/
def linkFlags (settings : Settings) (variant : Variant) : Except Fault (List String) :=
  configuredWords settings variant.linkLineOption?

end Variant

end Offload.Target
