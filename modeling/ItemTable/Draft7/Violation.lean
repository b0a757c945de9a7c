import ItemTable.Json.Text

set_option autoImplicit false

/-! # Violations

A violation says where a value breaks a schema: at which place of the value, by which keyword of the
schema, and how. Places are lists of bare segments; a schema path shows a followed reference as the
step `$ref`. A check that has no end leaves a violation as well, which says just that. -/

namespace ItemTable

namespace Draft7

/-- Where a validation is: in the value and in the schema. -/
structure Place where
  location : List String
  schemaPath : List String
  deriving DecidableEq, Repr, Inhabited

namespace Place

/-- The beginning: the whole value and the whole schema. -/
def root : Place := ⟨[], []⟩

/-- One step further in the schema. -/
def keyword (place : Place) (name : String) : Place :=
  { place with schemaPath := place.schemaPath ++ [name] }

/-- One step further in the value. -/
def inside (place : Place) (segment : String) : Place :=
  { place with location := place.location ++ [segment] }

end Place

/-- What is wrong with the content of a text. -/
inductive ContentFault
  /-- The text is not in the encoding of this name. -/
  | encoding (name : String)
  /-- The bytes that the text encodes are no text. -/
  | bytes (reason : String)
  /-- The text, or what it encodes, is not of the media type of this name. -/
  | mediaType (name : String)
  deriving DecidableEq, Repr

namespace ContentFault

/-- The keyword that is broken. -/
def keyword : ContentFault → String
  | .encoding _ => "contentEncoding"
  | _ => "contentMediaType"

/-- The wording of a fault of a text. -/
def message (shown : String) : ContentFault → String
  | .encoding name => shown ++ " is not compliant with \"" ++ name ++ "\" content encoding"
  | .bytes reason => reason
  | .mediaType name => shown ++ " is not compliant with \"" ++ name ++ "\" media type"

end ContentFault

/-- What is wrong with a value. -/
inductive Problem
  | notOfType (types : List String)
  | notAmong (allowed : List Json)
  | notConstant (expected : Json)
  | belowMinimum (limit : Number) (exclusive : Bool)
  | aboveMaximum (limit : Number) (exclusive : Bool)
  | notMultiple (divisor : Number)
  | shorterThan (limit : Nat)
  | longerThan (limit : Nat)
  | noMatch (pattern : String)
  /-- The search for a pattern was given up. -/
  | searchTooLong
  | notInFormat (format : String)
  | content (fault : ContentFault)
  | fewerItems (limit : Nat)
  | moreItems (limit : Nat)
  | repeatedItems
  | nothingContained
  /-- Elements after the ones that have a schema. -/
  | unexpectedItems (allowed : Nat)
  | missingProperty (name : String)
  | unexpectedProperties (names : List String)
  | fewerProperties (limit : Nat)
  | moreProperties (limit : Nat)
  | noAlternative (keyword : String)
  | severalAlternatives
  | forbidden (schema : Json)
  /-- The schema that allows nothing. -/
  | never
  /-- The check goes on and on: nothing can be said of the value. -/
  | endless

/-- Whether a check has no end. -/
def Problem.isEndless : Problem → Bool
  | .endless => true
  | _ => false

/-- One break of a schema, with the value that the message shows. -/
structure Violation where
  place : Place
  shown : Json
  problem : Problem

/-- Whether a violation says that the check has no end. -/
def Violation.isEndless (violation : Violation) : Bool := violation.problem.isEndless

/-- A count and its noun. -/
def counted (n : Nat) (one many : String) : String :=
  Nat.repr n ++ " " ++ (if n = 1 then one else many)

/-- The names of the types of JSON values, in the order in which messages list them. -/
def simpleTypes : List String :=
  ["array", "boolean", "integer", "null", "number", "object", "string"]

/-- What was unexpected, in parentheses. -/
def unexpected (texts : List String) : String :=
  "(" ++ ", ".intercalate texts ++ (if texts.length = 1 then " was" else " were") ++ " unexpected)"

/-- The wording of a problem with a value. -/
def Problem.message (shown : Json) : Problem → String
  | .notOfType [name] => shown.text ++ " is not of type \"" ++ name ++ "\""
  | .notOfType names =>
    shown.text ++ " is not of types "
      ++ ", ".intercalate ((simpleTypes.filter names.contains).map fun n => "\"" ++ n ++ "\"")
  | .notAmong allowed => shown.text ++ " is not one of " ++ (Json.array allowed).text
  | .notConstant expected => expected.text ++ " was expected"
  | .belowMinimum limit false => shown.text ++ " is less than the minimum of " ++ limit.text
  | .belowMinimum limit true =>
    shown.text ++ " is less than or equal to the minimum of " ++ limit.text
  | .aboveMaximum limit false => shown.text ++ " is greater than the maximum of " ++ limit.text
  | .aboveMaximum limit true =>
    shown.text ++ " is greater than or equal to the maximum of " ++ limit.text
  | .notMultiple divisor =>
    shown.text ++ " is not a multiple of " ++ Layout.numeral.text divisor.toBinary64
  | .shorterThan limit =>
    shown.text ++ " is shorter than " ++ counted limit "character" "characters"
  | .longerThan limit => shown.text ++ " is longer than " ++ counted limit "character" "characters"
  | .noMatch pattern => shown.text ++ " does not match \"" ++ pattern ++ "\""
  | .searchTooLong => "Error executing regex: Max limit for backtracking count exceeded"
  | .notInFormat format => shown.text ++ " is not a \"" ++ format ++ "\""
  | .content fault => fault.message shown.text
  | .fewerItems limit => shown.text ++ " has less than " ++ counted limit "item" "items"
  | .moreItems limit => shown.text ++ " has more than " ++ counted limit "item" "items"
  | .repeatedItems => shown.text ++ " has non-unique elements"
  | .nothingContained => "None of " ++ shown.text ++ " are valid under the given schema"
  | .unexpectedItems allowed =>
    "Additional items are not allowed "
      ++ unexpected (((shown.array?.getD []).drop allowed).map Json.text)
  | .missingProperty name => jsonString name ++ " is a required property"
  | .unexpectedProperties names =>
    "Additional properties are not allowed " ++ unexpected (names.map fun n => "'" ++ n ++ "'")
  | .fewerProperties limit =>
    shown.text ++ " has less than " ++ counted limit "property" "properties"
  | .moreProperties limit =>
    shown.text ++ " has more than " ++ counted limit "property" "properties"
  | .noAlternative keyword =>
    shown.text ++ " is not valid under any of the schemas listed in the '" ++ keyword ++ "' keyword"
  | .severalAlternatives =>
    shown.text ++ " is valid under more than one of the schemas listed in the 'oneOf' keyword"
  | .forbidden schema => schema.text ++ " is not allowed for " ++ shown.text
  | .never => "False schema does not allow " ++ shown.text
  | .endless => "the check of " ++ shown.text ++ " does not end"

/-- The wording of a violation. -/
def Violation.message (violation : Violation) : String :=
  violation.problem.message violation.shown

end Draft7

end ItemTable
