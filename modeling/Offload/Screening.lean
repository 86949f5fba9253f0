import Offload.Settings.Fault
import Offload.Text.Path

/-! # Screening arguments

What can be told from the arguments alone, before any setting is known: whether one belongs to
another implementation, whether help or a report is asked for, whether the driver was started under
one of its earlier names. Of the arguments for the compiler it is told whether they compile anything
or only link, and what about them deserves a warning. File names follow `Text.Path`.
-/

namespace Offload.Screening

/-- The beginnings of flags that belong to other implementations. -/
def foreignBeginnings : List (List Char) := ["-fsycl".toList]

/-- Whether a flag belongs to another implementation. -/
def isForeign (argument : String) : Bool :=
  foreignBeginnings.any (Text.beginsWith · argument.toList)

/-- The first argument that belongs to another implementation is an error. -/
def rejectForeign (arguments : List String) : Except Settings.Fault Unit :=
  match arguments.find? isForeign with
  | some argument => .error (.foreignFlag argument)
  | none => .ok ()

/-- The flag that asks for help. -/
def helpFlag : String := "--help"

/-- The flags that ask for the version and the settings, under all names of the driver. -/
def versionFlags : List String := ["--acpp-version", "--opensycl-version", "--hipsycl-version"]

/-- Earlier names of the driver. -/
def formerNames : List String := ["syclcc", "syclcc-clang"]

/-- The warning for a driver that is started under an earlier name. -/
def formerNameWarning? (startedAs : String) : Option String :=
  match Text.Path.fileName? startedAs.toList with
  | none => none
  | some file =>
    let name := String.ofList file
    if formerNames.contains name then some s!"{name} is deprecated; please use acpp instead."
    else none

/-- Whether some argument chooses a level of optimization. -/
def choosesOptimization (forwarded : List String) : Bool :=
  forwarded.any fun argument => Text.beginsWith "-O".toList argument.toList

/-- The extensions of source files, in lower case. -/
def sourceExtensions : List String := ["cpp", "cxx", "cc", "c", "c++", "cu", "hip", "sycl"]

/-- Whether an argument names a source file. The case of the extension does not matter. -/
def namesSource (argument : String) : Bool :=
  !Text.beginsWith ['-'] argument.toList &&
    match Text.Path.extension? argument.toList with
    | some suffix => sourceExtensions.contains (String.ofList (suffix.map Char.toLower))
    | none => false

/-- Whether no argument names a source file, so that there is nothing but objects to link. -/
def linksOnly (forwarded : List String) : Bool :=
  !forwarded.any namesSource

/-- The years of the language standards that are too old. -/
def outdatedYears : List String := ["98", "03", "11", "14", "0x"]

/-- The standard that an argument chooses, by its year; the name of the language before it may be
given with or without extensions. -/
def standardYear? (argument : String) : Option (List Char) :=
  (Text.afterPrefix? "-std=".toList argument.toList).bind fun standard =>
    match Text.afterPrefix? "c++".toList standard with
    | some year => some year
    | none => Text.afterPrefix? "gnu++".toList standard

/-- Whether an argument chooses a standard that is too old. -/
def isOutdated (argument : String) : Bool :=
  match standardYear? argument with
  | some year => outdatedYears.contains (String.ofList year)
  | none => false

/-- The first argument that chooses a standard that is too old. -/
def outdatedStandard? (forwarded : List String) : Option String :=
  forwarded.find? isOutdated

/-- The warning for sources that are compiled without optimization. -/
def unoptimizedWarning : String :=
  "No optimization flag was given, optimizations are disabled by default. " ++
    "Performance may be degraded. Compile with e.g. -O2/-O3 to enable optimizations."

/-- The warning for a standard that is too old. -/
def outdatedWarning (argument : String) : String :=
  s!"{argument} selects a C++ standard older than C++17, which AdaptiveCpp requires."

/-- The warnings about the arguments for the compiler, in order. -/
def warnings (forwarded : List String) : List String :=
  (if !linksOnly forwarded && !choosesOptimization forwarded then [unoptimizedWarning] else []) ++
    (outdatedStandard? forwarded).toList.map outdatedWarning

end Offload.Screening
