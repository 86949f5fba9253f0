import Offload.Text.Split

/-! # Legacy spellings

The driver was distributed under two earlier names, and arguments and variables that begin with one
of those names are still understood. Upgrading replaces the legacy beginning by the current one and
changes nothing else; whether a spelling is legacy is asked of the same table.
-/

namespace Offload.Options.Spelling

/-- Each legacy beginning with the one that took its place. -/
def replacements : List (List Char × List Char) := [
  ("--hipsycl-".toList, "--acpp-".toList),
  ("--opensycl-".toList, "--acpp-".toList),
  ("HIPSYCL_".toList, "ACPP_".toList),
  ("OPENSYCL_".toList, "ACPP_".toList)]

/-- Replace the beginning of a text by the first replacement that applies. -/
def upgradeBy : List (List Char × List Char) → List Char → List Char
  | [], text => text
  | (legacy, current) :: others, text =>
    match Text.afterPrefix? legacy text with
    | some rest => current ++ rest
    | none => upgradeBy others text

/-- The current spelling of a name or of a whole argument. -/
def upgrade (name : String) : String :=
  String.ofList (upgradeBy replacements name.toList)

/-- Whether a name or an argument has a legacy beginning. -/
def isLegacy (name : String) : Bool :=
  replacements.any fun (legacy, _) => Text.beginsWith legacy name.toList

/-- The part of an argument before its first `=`, and the value after it. -/
def cut (argument : String) : String × Option String :=
  let (name, value) := Text.cutAt '=' argument.toList
  (String.ofList name, value.map String.ofList)

end Offload.Options.Spelling
