import Offload.Text.Split

/-! # File names and extensions

A path names its file by its last component. Empty components and single dots after the first
position do not count, so trailing separators and `/.` are ignored, and a path that ends in `..`
or denotes the root names no file. The extension follows the last dot of the file name; a dot in
first position begins no extension.
-/

namespace Offload.Text.Path

/-- The components that matter, in order. A single dot counts only as the first component of a
relative path, where it denotes the current directory. -/
def components (path : List Char) : List (List Char) :=
  match fields '/' path with
  | [] => []
  | first :: others =>
    let kept := others.filter fun component => !component.isEmpty && component != ['.']
    if first.isEmpty then kept else first :: kept

/-- The name of the file that a path denotes. -/
def fileName? (path : List Char) : Option (List Char) :=
  match (components path).getLast? with
  | none => none
  | some name => if name == ['.'] || name == ['.', '.'] then none else some name

/-- The text after the last dot of a file name, unless that dot comes first or the name is `..`. -/
def extension? (path : List Char) : Option (List Char) :=
  (fileName? path).bind fun name =>
    let reversed := name.reverse
    match cutAt '.' reversed with
    | (_, none) => none
    | (_, some []) => none
    | (suffix, some _) => some suffix.reverse

/-- A directory as given, joined with a file name by one separator. -/
def join (directory name : List Char) : List Char :=
  match directory.getLast? with
  | none => name
  | some '/' => directory ++ name
  | some _ => directory ++ '/' :: name

end Offload.Text.Path
