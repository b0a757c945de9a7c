import ItemTable.Schema
import ItemTable.Schema.Finding

set_option autoImplicit false

/-! # Checks by schema

A payload is checked against a lowered document, and of its violations one is reported: that the
check has no end, or else the first of a type, or else the first. The report is worded by the
lowered node that the schema path leads to. What a lowered set asks of its elements is reported as a
fault of the set's type. -/

namespace ItemTable

/-- A value as findings show it: strings in single quotes, all else as JSON. -/
def Json.shown : Json → String
  | .string s => "'" ++ s ++ "'"
  | other => other.text

namespace Finding

/-- A value of a wrong type at a node. -/
def wrongType (value : Json) (names : List String) (node : Json) (location : List String) :
    Finding where
  kind := .type
  message := value.shown ++ " is not of type "
    ++ ", ".intercalate (names.map fun name => "'" ++ name ++ "'")
  path := location
  enumValues := ((node.member? "enum").bind Json.array?).getD []

/-- A finding without allowed values. -/
def plain (kind : FindingKind) (message : String) (location : List String) : Finding :=
  ⟨kind, message, location, []⟩

/-- The first of the required names that an object lacks. -/
def missingProperty (value : Json) (required : Json) (location : List String) : Finding :=
  let missing := (required.stringElements.find? fun name => (value.member? name).isNone).getD ""
  plain .required ("'" ++ missing ++ "' is a required property") location

/-- Members of an object that its node does not name. -/
def unexpectedProperties (value : Json) (node : Json) (location : List String) : Finding :=
  let known := ((node.member? "properties").bind Json.object?).getD []
  let unexpected := (Record.names (value.object?.getD [])).filter fun name => !known.contains name
  let verb := if unexpected.length = 1 then "was" else "were"
  plain .additionalProperties
    ("Additional properties are not allowed ("
      ++ ", ".intercalate (unexpected.map fun name => "'" ++ name ++ "'")
      ++ " " ++ verb ++ " unexpected)")
    location

/-- A value that is none of the allowed ones. -/
def notAllowed (value : Json) (allowed : Json) (location : List String) : Finding :=
  plain .enum
    (value.shown ++ " is not one of [" ++ ", ".intercalate ((allowed.array?.getD []).map Json.shown)
      ++ "]")
    location

/-- An array with too few elements. -/
def tooShort (value : Json) (location : List String) : Finding :=
  let fault :=
    match value with
    | .array [] => "should be non-empty"
    | _ => "is too short"
  plain .minItems (value.shown ++ " " ++ fault) location

/-- An array with too many elements. -/
def tooLong (value : Json) (location : List String) : Finding :=
  plain .maxItems (value.shown ++ " is too long") location

end Finding

namespace Schema

/-- The names of `type`: one or several. -/
def namesOfType : Json → List String
  | .string name => [name]
  | other => other.stringElements

/-- The part of a document one step along a schema path. -/
def follow? (root node : Json) (step : String) : Option Json :=
  match reference? node with
  | some reference => if step = "$ref" then target? root reference else node.segment? step
  | none => node.segment? step

/-- The parts that a schema path passes, each with the step that it takes from there, and the part
at the end. -/
def trail? (root : Json) : Json → List String → Option (List (Json × String) × Json)
  | node, [] => some ([], node)
  | node, step :: rest => do
    let next ← follow? root node step
    let (passed, last) ← trail? root next rest
    some ((node, step) :: passed, last)

/-- The keywords that a set's lowered node has for its type. -/
def typeKeywords : List String := ["type", "items", "uniqueItems"]

/-- The last node on a trail whose store type the trail breaks, with the type's name and the keyword
that was broken. -/
def brokenStoreType? (trail : List (Json × String)) : Option (Json × String × String) :=
  trail.reverse.findSome? fun (node, step) =>
    match (node.member? StoreType.marker).bind Json.string? with
    | some name => if step ∈ typeKeywords then some (node, name, step) else none
    | none => none

/-- The finding of a keyword's violation; `parent` is the node that has the keyword. -/
def describeKeyword (keyword : String) (argument parent value : Json) (location : List String)
    (message : String) : Finding :=
  match keyword with
  | "type" => .wrongType value (namesOfType argument) parent location
  | "required" => .missingProperty value argument location
  | "additionalProperties" => .unexpectedProperties value parent location
  | "enum" => .notAllowed value argument location
  | "minItems" => .tooShort value location
  | "maxItems" => .tooLong value location
  | _ => .plain .other message location

/-- The finding of a violation, by the node that its schema path leads to. -/
def describeAt (schema : Schema) (payload : Json) (violation : Draft7.Violation) : Finding :=
  let location := violation.place.location
  let valueAt (location : List String) : Json := (payload.at? location).getD .null
  match trail? schema.full schema.full violation.place.schemaPath with
  | none => .plain .other violation.message location
  | some (trail, argument) =>
    match brokenStoreType? trail, trail.getLast? with
    | some (node, name, "items"), _ =>
      .wrongType (valueAt location.dropLast) [name] node location.dropLast
    | some (node, name, _), _ => .wrongType (valueAt location) [name] node location
    | none, some (parent, keyword) =>
      describeKeyword keyword argument parent (valueAt location) location violation.message
    | none, none => .plain .other violation.message location

/-- The finding of a violation. -/
def describe (schema : Schema) (payload : Json) (violation : Draft7.Violation) : Finding :=
  if violation.isEndless then .plain .other violation.message violation.place.location
  else schema.describeAt payload violation

/-- Whether a violation is of a type. -/
def isOfType (violation : Draft7.Violation) : Bool :=
  violation.place.schemaPath.getLast? == some "type"

/-- The violation to report. -/
def mostTelling? (violations : List Draft7.Violation) : Option Draft7.Violation :=
  ((violations.find? (·.isEndless)).or (violations.find? isOfType)).or violations.head?

/-- The finding of a payload against a lowered document. -/
def check (schema : Schema) (lowered payload : Json) : Option Finding :=
  (mostTelling? (Draft7.violations schema.library lowered payload)).map (schema.describe payload)

/-- What is wrong with a whole item. -/
def validate (schema : Schema) (item : Json) : Option Finding := schema.check schema.full item

/-- What is wrong with a part of an item. -/
def validatePart (schema : Schema) (part : Json) : Option Finding :=
  schema.check schema.relaxed part

end Schema

end ItemTable
