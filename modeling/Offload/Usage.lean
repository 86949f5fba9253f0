import Offload.Options.Builtin
import Offload.Text.Split

/-! # The usage text

What `--help` prints: how the driver is started, then every option of the table with its flag, its
description and its other two spellings, options with a value before switches, and a closing remark.
-/

namespace Offload.Usage

open Options

/-- The text before the options. -/
def opening : List String := [
  "AdaptiveCpp compiler driver",
  "",
  "Usage: acpp <options> [compiler arguments...]",
  "",
  "Options:"]

/-- The text after the options. -/
def closing : List String := [
  "",
  "Any other options will be forwarded to the compiler.",
  "",
  "Note: Command line arguments take precedence over environment variables,",
  "which take precedence over the config files in --acpp-config-file-dir."]

/-- A flag and the lines that explain it. -/
def paragraph (flag : String) (explanation : List String) : List String :=
  ("      " ++ flag) :: explanation.map ("          " ++ ·)

/-- The other spellings of an option, and its value when nothing sets it. -/
def spellings (option : Entry) : String :=
  s!"[env: {option.envName}] [config: {option.configKey}]" ++
    match option.default? with
    | some value => s!" [default: {value}]"
    | none => ""

/-- The lines of a description. -/
def descriptionLines (option : Entry) : List String :=
  (Text.fields '\n' option.description.toList).map String.ofList

/-- The lines for one option. -/
def entry (option : Entry) : List String :=
  let flag := if option.isSwitch then option.flag else option.flag ++ " <VALUE>"
  paragraph flag (descriptionLines option ++ [spellings option])

/-- The lines for what is no option of the table. -/
def requests : List String :=
  paragraph "--acpp-version" ["Print AdaptiveCpp version and configuration"] ++
    paragraph "--help" ["Print this help message"]

/-- The lines of the usage text. -/
def lines (table : Table) : List String :=
  opening ++ table.valued.flatMap entry ++ table.switches.flatMap entry ++ requests ++ closing

/-- The usage text: every line ended, and one empty line. -/
def text (table : Table) : String :=
  String.join ((lines table).map (· ++ "\n")) ++ "\n"

end Offload.Usage
