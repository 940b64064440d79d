/-
# Keywords of schemas

A schema is a document that says which data is valid.  Each keyword of its language wants a value
of some form (`Demand`); names that are no keywords may have any value.  `keywords` is the table, in
the order in which the keywords of a schema are looked at.

A demand on a value that holds neither schemas nor patterns is decided here (`Demand.holdsOf`);
what the others mean is in `Document/Schema.lean`.
-/
import Holdings.Document
import Holdings.Text.Digits

namespace Holdings.Document

open Holdings.Text

/-! ## 1. Demands -/

/-- What a keyword wants of its value. -/
inductive Demand where
  | anything
  /-- A schema. -/
  | schema
  /-- A list of schemas that is not empty. -/
  | schemas
  /-- A record of schemas. -/
  | schemaMap
  /-- A record of schemas whose keys are patterns. -/
  | patternMap
  /-- A record of schemas and lists of names. -/
  | dependencies
  /-- A schema or a list of names. -/
  | dependency
  /-- A record of lists of names. -/
  | nameMap
  /-- A list of texts, none twice. -/
  | names
  /-- A record of truth values. -/
  | flagMap
  | flag
  | text
  /-- A text that holds no sign of a fragment before its last character. -/
  | resource
  /-- A name of letters, digits, hyphens, points and underscores. -/
  | anchor
  | pattern
  | number
  /-- A number above zero. -/
  | positive
  /-- An integer that is not negative. -/
  | count
  | list
  /-- The name of a type, or a list of some, none twice. -/
  | types
  deriving DecidableEq, Repr, Inhabited

/-- The keywords with what they want, in the order in which they are looked at. -/
def keywords : List (String × Demand) := [
  ("$id", .resource), ("$schema", .text), ("$ref", .text), ("$anchor", .anchor),
  ("$dynamicRef", .text), ("$dynamicAnchor", .anchor), ("$vocabulary", .flagMap),
  ("$comment", .text), ("$defs", .schemaMap), ("prefixItems", .schemas), ("items", .schema),
  ("contains", .schema), ("additionalProperties", .schema), ("properties", .schemaMap),
  ("patternProperties", .patternMap), ("dependentSchemas", .schemaMap), ("propertyNames", .schema),
  ("if", .schema), ("then", .schema), ("else", .schema), ("allOf", .schemas), ("anyOf", .schemas),
  ("oneOf", .schemas), ("not", .schema), ("unevaluatedItems", .schema),
  ("unevaluatedProperties", .schema), ("type", .types), ("const", .anything), ("enum", .list),
  ("multipleOf", .positive), ("maximum", .number), ("exclusiveMaximum", .number),
  ("minimum", .number), ("exclusiveMinimum", .number), ("maxLength", .count),
  ("minLength", .count), ("pattern", .pattern), ("maxItems", .count), ("minItems", .count),
  ("uniqueItems", .flag), ("maxContains", .count), ("minContains", .count),
  ("maxProperties", .count), ("minProperties", .count), ("required", .names),
  ("dependentRequired", .nameMap), ("title", .text), ("description", .text),
  ("default", .anything), ("deprecated", .flag), ("readOnly", .flag), ("writeOnly", .flag),
  ("examples", .list), ("format", .text), ("contentEncoding", .text), ("contentMediaType", .text),
  ("contentSchema", .schema), ("definitions", .schemaMap), ("dependencies", .dependencies),
  ("$recursiveAnchor", .anchor), ("$recursiveRef", .text)]

/-- What a keyword wants. -/
def demandOf (keyword : CodeText) : Demand :=
  (keyword.toString?.bind fun s => keywords.lookup s).getD .anything

/-- The place of a keyword in the order in which they are looked at. -/
def rankOf (keyword : CodeText) : Nat :=
  let name := keyword.toString?
  (keywords.findIdx? fun row => some row.1 = name).getD keywords.length

/-! ## 2. Texts -/

/-- The text without a line feed at its end. -/
def dropLineFeed (t : CodeText) : CodeText :=
  if t.getLast? = some (.char '\n') then t.dropLast else t

/-- Whether a text may name a resource. -/
def isResource (t : CodeText) : Bool := !(dropLineFeed t).dropLast.contains (.char '#')

/-- Whether a text may be an anchor. -/
def isAnchor (t : CodeText) : Bool :=
  match (dropLineFeed t).mapM CodePoint.char? with
  | some (c :: cs) =>
    (c.isAlpha || c = '_') && cs.all fun d => d.isAlphanum || "-._".toList.contains d
  | _ => false

/-- The names of types. -/
def typeNames : List CodeText :=
  ["array", "boolean", "integer", "null", "number", "object", "string"].map CodeText.ofString

/-- The texts of a list that holds nothing else, none of them twice. -/
def distinctTexts? (xs : List Document) : Option (List CodeText) :=
  let texts := xs.filterMap fun
    | .text t => some t
    | _ => none
  if texts.length = xs.length ∧ texts.Nodup then some texts else none

/-! ## 3. Values without schemas -/

/-- Whether a value is a list of texts, none twice. -/
def areNames : Document → Bool
  | .list xs => (distinctTexts? xs).isSome
  | _ => false

/-- Whether a value is the name of a type, or a list of some. -/
def areTypes : Document → Bool
  | .text t => typeNames.contains t
  | .list xs => !xs.isEmpty && ((distinctTexts? xs).map fun ts => ts.all typeNames.contains).getD false
  | _ => false

/-- Whether a value is an integer or a whole number that is not negative. -/
def isCount : Document → Bool
  | .int n => 0 ≤ n
  | .float x => x.isWhole && !x.lt 0
  | _ => false

/-- Whether a value is a number above zero.  What is not a number at all is not below it either. -/
def isPositive : Document → Bool
  | .int n => 0 < n
  | .float x => !(x.lt 0 || x.isZero)
  | _ => false

/-- Whether a value is what a demand wants, if the demand asks neither for schemas nor for
patterns. -/
def Demand.holdsOf : Demand → Document → Bool
  | .anything, _ => true
  | .names, v => areNames v
  | .types, v => areTypes v
  | .count, v => isCount v
  | .positive, v => isPositive v
  | .flag, .bool _ => true
  | .list, .list _ => true
  | .number, .int _ => true
  | .number, .float _ => true
  | .text, .text _ => true
  | .resource, .text t => isResource t
  | .anchor, .text t => isAnchor t
  | .nameMap, .record es => es.all fun e => areNames e.2
  | .flagMap, .record es => es.all fun e => match e.2 with
    | .bool _ => true
    | _ => false
  | _, _ => false

end Holdings.Document
