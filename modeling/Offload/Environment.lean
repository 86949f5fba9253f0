import Offload.Dictionary
import Offload.Host.EnvironmentBlock
import Offload.Options.Spelling
import Offload.Text.Utf8

/-! # The environment

A snapshot of the environment variables, in the order of their names. A later value of a name
replaces an earlier one.
-/

namespace Offload

/-- Environment variables by name. -/
abbrev Environment := Dictionary String

namespace Environment

/-- The environment of raw entries, each cut at its first `=`; the first entry without one is the
error. -/
def ofEntries (entries : List String) : Except String Environment := do
  let pairs ← entries.mapM fun entry =>
    match Options.Spelling.cut entry with
    | (name, some value) => Except.ok (name, value)
    | (_, none) => Except.error entry
  return Dictionary.ofList pairs

/-- Where a raw entry of the system is cut: at the first `=` that is not its first byte. -/
def cutEntry? : List UInt8 → Option (List UInt8 × List UInt8)
  | [] => none
  | first :: rest =>
    let isSeparator := fun byte : UInt8 => byte == Host.EnvironmentBlock.separator
    match rest.dropWhile (!isSeparator ·) with
    | [] => none
    | _ :: value => some (first :: rest.takeWhile (!isSeparator ·), value)

/-- The variable of a raw entry of the system, if its name and its value are text. -/
def ofEntry? (entry : List UInt8) : Option (String × String) := do
  let (name, value) ← cutEntry? entry
  let name ← (Text.Utf8.decode name).toOption
  let value ← (Text.Utf8.decode value).toOption
  return (String.ofList name, String.ofList value)

/-- The environment of the raw entries that the system gives; entries that are no variable, or that
are not text, do not count. Of two entries that read as the same variable the later counts. -/
def ofSystem (block : Host.EnvironmentBlock) : Environment :=
  Dictionary.ofList (block.filterMap ofEntry?)

end Environment

end Offload
