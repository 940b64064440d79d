/-
# The published contracts

Each contract is published as a schema: a heading, and the keywords that say which data it
accepts (`Schema.keywords`).  The one for quantities names the form of a symbol and refers to it,
the one for holdings spells it out.
-/
import Holdings.Contract.Forms
import Holdings.Document.Schema
import Holdings.Document.Writer
import Holdings.Folder

namespace Holdings.Contract

open Holdings.Document

/-! ## 1. Keywords of a form -/

/-- A bound under a keyword, if there is one. -/
def boundEntry (keyword : String) (bound : Option Int) : List (String × Document) :=
  (bound.map fun b => (keyword, .int b)).toList

/-- The keywords of a record of exactly these fields. -/
def recordKeywords (names : List String) (properties : List (String × Document)) :
    List (String × Document) := [
  ("type", .string "object"), ("required", .list (names.map .string)),
  ("additionalProperties", .bool false), ("properties", .fields properties)]

mutual

/-- The keywords that say what a form accepts. -/
def Schema.keywords : Schema → List (String × Document)
  | .text maxLength => [("type", .string "string"), ("maxLength", .int maxLength)]
  | .integer lowest highest =>
    ("type", .string "integer") :: boundEntry "minimum" lowest ++ boundEntry "maximum" highest
  | .record fields => recordKeywords (fields.map Prod.fst) (Schema.fieldEntries fields)

/-- The keywords of every field. -/
def Schema.fieldEntries : List (String × Schema) → List (String × Document)
  | [] => []
  | (name, form) :: rest => (name, .fields form.keywords) :: Schema.fieldEntries rest

end

/-! ## 2. The documents -/

/-- The language that the documents are written in. -/
def schemaLanguage : String := "https://json-schema.org/draft/2020-12/schema"

/-- What stands above the keywords of a document. -/
def heading (title description : String) : List (String × Document) := [
  ("$schema", .string schemaLanguage),
  ("$id", .string ("https://ledger-assets/contracts/" ++ title ++ ".json")),
  ("title", .string title), ("description", .string description)]

/-- The contract for quantities. -/
def quantityDocument : Document :=
  .fields (heading "quantity"
      "JSON form of a Quantity. Range and symbol validity are enforced by the constructor." ++
    recordKeywords ["amount", "symbol"] [
      ("amount", .fields ((Schema.integer none none).keywords ++
        [("description", .string "Amount scaled by 10^precision")])),
      ("symbol", .fields [("$ref", .string "#/$defs/symbol")])] ++
    [("$defs", .fields [("symbol", .fields symbolForm.keywords)])])

/-- The contract for holdings. -/
def holdingDocument : Document :=
  .fields (heading "owned_quantity"
      "JSON form of an OwnedQuantity: a quantity and the identity of its owner." ++
    holdingForm.keywords)

/-- The folder of the documents, with the names of the folders around it. -/
def publishedFolder : Folder :=
  ⟨["schema", "contracts", "core", "ledger_assets"],
    [("quantity.json", quantityDocument), ("owned_quantity.json", holdingDocument)].map fun f =>
      (⟨.around 0, f.1⟩, String.ofList f.2.write)⟩

example : isSchema quantityDocument = true ∧ isSchema holdingDocument = true := by
  decide +kernel

end Holdings.Contract
