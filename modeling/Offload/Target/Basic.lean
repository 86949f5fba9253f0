import Offload.Journal
import Offload.Target.Fault
import Offload.Text.Blank

/-! # Lists of targets

A list of targets is text: segments between semicolons, blank ones ignored, each the name of a
backend, optionally a dot and a flavor, optionally a colon and architectures between commas. Names
and architectures may have blanks around them. `Target.parse` reads such a text in order, so of two
faults the first one is reported, and no backend may occur twice. `Target.display` writes one target
in this form.
-/

namespace Offload

/-- A backend to compile for. -/
structure Target where
  backend : Target.Backend
  flavor? : Option Target.Flavor
  architectures : List String
deriving DecidableEq, Repr

namespace Target

/-- The form of the architectures of a backend; nothing for a backend that takes none. -/
def Backend.form? : Backend → Option ArchitectureForm
  | .cuda => some ⟨"sm_", "sm_XY, e.g. sm_70"⟩
  | .hip => some ⟨"gfx", "gfxXYZ, e.g. gfx906"⟩
  | .cudaNvcxx => some ⟨"cc", "ccXY, e.g. cc70"⟩
  | .omp | .generic => none

/-- Whether an architecture has a form: its beginning, then a digit, then ASCII letters and digits
only. -/
def ArchitectureForm.admits (form : ArchitectureForm) (architecture : String) : Bool :=
  match Text.afterPrefix? form.beginning.toList architecture.toList with
  | some (digit :: rest) => digit.isDigit && rest.all Char.isAlphanum
  | _ => false

/-- Check the architectures that are listed for a backend. -/
def Backend.checkArchitectures (backend : Backend) (architectures : List String) :
    Except ListFault Unit :=
  match backend.form? with
  | none =>
    match architectures with
    | [] => .ok ()
    | architecture :: _ => .error (.needlessArchitecture backend architecture)
  | some form =>
    if backend = .cudaNvcxx ∧ 1 < architectures.length then
      .error (.tooManyArchitectures backend architectures.length)
    else
      match architectures.find? (!form.admits ·) with
      | some architecture => .error (.malformedArchitecture backend form architecture)
      | none => .ok ()

/-- Read the name of a backend and of a flavor it comes in. -/
def readName (name : List Char) : Except ListFault (Backend × Option Flavor) :=
  let (front, rest) := Text.cutAt '.' name
  let backendName := String.ofList front
  match Backend.ofName? backendName with
  | none => .error (.unknownBackend backendName)
  | some backend =>
    match rest.map String.ofList with
    | none => .ok (backend, none)
    | some flavorName =>
      match (Flavor.ofName? flavorName).filter backend.accepts with
      | some flavor => .ok (backend, some flavor)
      | none => .error (.unknownFlavor flavorName backend)

/-- Read architectures between commas. No architecture is empty. -/
def readArchitectures (segment text : List Char) : Except ListFault (List String) :=
  let items := (Text.fields ',' text).map Text.trim
  if items.any (·.isEmpty) then .error (.emptyArchitecture (String.ofList segment))
  else .ok (items.map String.ofList)

/-- Read one segment that has no blanks around it. -/
def readSegment (segment : List Char) : Except ListFault Target := do
  let (front, list?) := Text.cutAt ':' segment
  let (backend, flavor?) ← readName (Text.trim front)
  let architectures ← match list? with
    | some list => readArchitectures segment list
    | none => .ok []
  backend.checkArchitectures architectures
  return ⟨backend, flavor?, architectures⟩

/-- Read segments after the targets that were read before. -/
def readSegments (targets : List Target) : List (List Char) → Except ListFault (List Target)
  | [] => .ok targets
  | segment :: rest =>
    match readSegment segment with
    | .error cause => .error cause
    | .ok target =>
      if targets.any (·.backend == target.backend) then .error (.repeatedBackend target.backend)
      else readSegments (targets ++ [target]) rest

/-- The segments of a list of targets, without the blanks around them and without empty ones. -/
def segments (text : List Char) : List (List Char) :=
  ((Text.fields ';' text).map Text.trim).filter (!·.isEmpty)

/-- Read a list of targets. -/
def readList (text : List Char) : Except ListFault (List Target) := do
  match ← readSegments [] (segments text) with
  | [] => .error .noBackends
  | targets => return targets

/-- The targets that a text lists, in its order. -/
def parse (given : String) : Except Fault (List Target) :=
  (readList given.toList).mapError (.invalidList given)

/-- A flavor as it is written behind the name of its backend. -/
def flavorSuffix : Option Flavor → List Char
  | some flavor => '.' :: flavor.name.toList
  | none => []

/-- Architectures as they are written behind a name. -/
def architectureSuffix (architectures : List String) : List Char :=
  if architectures.isEmpty then []
  else ':' :: Text.joinFields ',' (architectures.map String.toList)

/-- A target as it is written in a list. -/
def display (target : Target) : String :=
  String.ofList (target.backend.name.toList ++ flavorSuffix target.flavor? ++
    architectureSuffix target.architectures)

/-- What is noted when a list of targets was read. -/
def parseRecords (given : String) : List Journal.Record :=
  match parse given with
  | .error _ => []
  | .ok targets =>
    [⟨.debug, .targetSpec, "parsed targets: " ++ "; ".intercalate (targets.map display)⟩]

end Target

end Offload
