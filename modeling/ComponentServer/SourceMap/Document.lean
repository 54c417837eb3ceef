import ComponentServer.Json.Reader
import ComponentServer.SourceMap.Mappings

/-!
Source map documents, version 3. A document is an object with the members `version`, `sources` and
`mappings`, or an array of the three in this order; other members are passed over.
-/

namespace ComponentServer.SourceMap

structure Document where
  version : Nat
  sources : List Text
  mappings : Text
deriving DecidableEq, Repr

inductive Error where
  /-- Not JSON, or not the members that a document needs. -/
  | malformed
  | version (found : Nat)
  | vlq (error : VlqError)
deriving DecidableEq, Repr

/-- What is said of an error. The words of the JSON reader itself, its complaint with a line and a
column, are not modelled: `<json>` stands in their place. -/
def Error.message : Error → String
  | malformed => "malformed source map: <json>"
  | version found => "unsupported source map version " ++ toString found
  | vlq error => error.message

namespace Document

/-- The document of its three members, of which only the version is required. -/
def ofParts? (version sources mappings : Option Json) : Option Document := do
  let version ← (← version).word?
  let sources ← (sources.map Json.textList?).getD (some [])
  let mappings ← (mappings.map Json.text?).getD (some [])
  return ⟨version, sources, mappings⟩

def ofJson? : Json → Option Document
  | .object members => do
    if members.any (·.1.isNone) then none
    let version ← Json.member? members "version".toList
    let sources ← Json.member? members "sources".toList
    let mappings ← Json.member? members "mappings".toList
    ofParts? version sources mappings
  | .array items =>
    if items.length ≤ 3 then ofParts? items[0]? items[1]? items[2]? else none
  | _ => none

/-- A document in its text form, as an object with its members in alphabetical order. -/
def render (document : Document) : Text :=
  "\x7b\"mappings\":".toList ++ Json.quote document.mappings ++
    ",\"names\":[],\"sources\":[".toList ++
    List.intercalate [','] (document.sources.map Json.quote) ++
    "],\"version\":".toList ++ Text.ofNat document.version ++ ['\x7d']

end Document

/-- Reads a document and decodes its mappings. -/
def parse (json : Text) : Except Error Mappings :=
  match (Json.parse? json).bind Document.ofJson? with
  | none => .error .malformed
  | some document =>
    if document.version = 3 then (decode document.mappings).mapError .vlq
    else .error (.version document.version)

end ComponentServer.SourceMap
