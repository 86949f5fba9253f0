import Offload.Settings.Basic

/-! # The version and settings report

The report names the version and then every option in the order of the table, with its value and
where the value came from. Values begin in one column: keys are filled up to the size of the
longest one, counted in bytes, although a key takes up as many places as it has characters.
-/

namespace Offload.Report

/-- The version of the driver. -/
def version : String := "0.1.0"

/-- The line that names the version. -/
def versionLine : String := s!"acpp [AdaptiveCpp compilation driver], version {version}"

/-- A key filled up with spaces to a number of places. -/
def fill (width : Nat) (key : String) : String :=
  key ++ String.ofList (List.replicate (width - key.length) ' ')

/-- The width of the column of keys. -/
def width (settings : Settings) : Nat :=
  (settings.list.map fun setting => setting.option.key.utf8ByteSize).foldl max 0

/-- The value of an option and its source, as reported. -/
def finding : Option Settings.Resolved → String
  | some resolved => s!"{resolved.value.display} ({resolved.source.name})"
  | none => "<unset>"

/-- The line for one option. -/
def settingLine (width : Nat) (setting : Settings.Setting) : String :=
  "  " ++ fill width setting.option.key ++ "  " ++ finding setting.resolved?

/-- The lines of the report. -/
def lines (settings : Settings) : List String :=
  versionLine :: "Configuration:" :: settings.list.map (settingLine (width settings))

/-- The report, every line ended. -/
def text (settings : Settings) : String :=
  String.join ((lines settings).map (· ++ "\n"))

end Offload.Report
