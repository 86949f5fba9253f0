import Offload.Container.Fault
import Offload.Container.Bundle
import Offload.Container.Hex
import Offload.Host.FileTree

/-! # Integration headers

A header embeds one back end's bundle in a source file as a byte array and registers it under
the bundle's object id. The back end's name enters two identifiers; characters that no identifier
may hold are replaced, so the rendered text always has eight lines.
-/

namespace Offload.Container

/-- One back end's bundle and the id under which it is registered. -/
structure Header where
  objectId : UInt64
  backend : String
  bundle : Bundle
deriving DecidableEq

namespace Header

/-- A header whose bundle names the object and what generated it. -/
def create (backend : String) (objectId : UInt64) : Header where
  objectId := objectId
  backend := backend
  bundle := {
    Bundle.empty with
    root := (Node.root.put "object-id" (.text (toString objectId.toNat))).put
      "generator" (.text "acpp") }

/-- The id drawn from 60 random bits. The fourth hexadecimal digit from the right is the version of
the identifiers from which ids are taken, and is always 4. -/
def drawnId (bits : Nat) : UInt64 :=
  ((bits / 0x1000 % 0x1000000000000) * 0x10000 + 0x4000 + bits % 0x1000).toUInt64

/-- A header with an id drawn from a random source, and the source afterwards. -/
def draw (backend : String) (source : StdGen) : Header × StdGen :=
  let (bits, next) := randNat source 0 (Nat.pow 2 60 - 1)
  (create backend (drawnId bits), next)

/-- A name with every character replaced that an identifier may not hold. -/
def identifier (name : String) : List Char :=
  name.toList.map fun c => if c.isAlphanum then c else '_'

/-- The lines of the rendered header. -/
def lines (header : Header) : List String :=
  let upper := String.ofList ((identifier header.backend).map Char.toUpper)
  let lower := String.ofList ((identifier header.backend).map Char.toLower)
  let id := toString header.objectId.toNat
  let data := header.bundle.serialize
  let guard := "ACPP_" ++ upper ++ "_INTEGRATION_HEADER"
  ["#ifndef " ++ guard,
    "#define " ++ guard,
    "",
    "static const std::size_t __acpp_local_" ++ lower ++ "_hcf_object_id = " ++ id ++ "ull;",
    "const unsigned char __acpp_hcf_object_" ++ id ++ " [] = \x7b " ++
      String.ofList (Hex.items data) ++ " \x7d;",
    "ACPP_STATIC_HCF_REGISTRATION(" ++ id ++ "ull, __acpp_hcf_object_" ++ id ++ ", " ++
      toString data.length ++ ")",
    "",
    "#endif"]

/-- The rendered header; every line ends with a line feed. -/
def render (header : Header) : String :=
  String.join (header.lines.map (· ++ "\n"))

/-- The files after the rendered header replaced whatever was at a path. -/
def writeTo (header : Header) (tree : Host.FileTree) (path : String) :
    Except Fault Host.FileTree :=
  (tree.write path (Text.Utf8.encode header.render.toList)).mapError fun cause =>
    .cannotWrite path cause.message

/-- What is noted about a header written to a file. -/
def writeRecord (header : Header) (path : String) : Journal.Record where
  level := .debug
  topic := .header
  text := s!"wrote {header.backend} integration header (object {header.objectId.toNat}) to {path}"

end Header

end Offload.Container
