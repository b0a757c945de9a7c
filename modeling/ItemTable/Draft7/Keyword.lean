import ItemTable.Draft7.Library
import ItemTable.Pattern.Matcher

set_option autoImplicit false

/-! # The keywords of draft 7

Each keyword of a schema looks at the value alone, or hands parts of it on to other schemas, or asks
whether they fit these. The functions here take the check of a schema as an argument, so a keyword
knows nothing of references or of the order of keywords. Every group of keywords says `[]` to the
keywords of the other groups. -/

namespace ItemTable

-- Powers are those of core, whatever else is imported.
attribute [local instance (high)] instPowNat

namespace Draft7

/-- The check of a value against a schema at a place. -/
abbrev Check := Json → Place → Json → List Violation

/-- One violation if the test fails. -/
def expect (holds : Bool) (place : Place) (value : Json) (problem : Problem) : List Violation :=
  if holds then [] else [⟨place, value, problem⟩]

/-- Whether a value fits a schema, by what the check found: a question that stops at the first
violation, and has no answer if the check has no end. -/
def fits? : List Violation → Option Bool
  | [] => some true
  | first :: _ => if first.isEndless then none else some false

/-- Whether one of several answers is yes, asked in turn up to that one. -/
def anyFits? : List (Option Bool) → Option Bool
  | [] => some false
  | some true :: _ => some true
  | some false :: rest => anyFits? rest
  | none :: _ => none

/-- How many of several answers are yes, asked in turn up to the second one. -/
def countFits? : List (Option Bool) → Option Nat
  | [] => some 0
  | some true :: rest => (anyFits? rest).map fun another => if another then 2 else 1
  | some false :: rest => countFits? rest
  | none :: _ => none

/-- One violation if the answer is no, or if there is none. -/
def expect? (holds : Option Bool) (place : Place) (value : Json) (problem : Problem) :
    List Violation :=
  match holds with
  | some true => []
  | some false => [⟨place, value, problem⟩]
  | none => [⟨place, value, .endless⟩]

/-- The greatest count. -/
def greatestCount : Nat := 2 ^ (64 : Nat) - 1

/-- The count that a keyword takes: a negative number counts as zero, one beyond the greatest count
as that. -/
def count (argument : Json) : Nat :=
  match argument with
  | .number (.int i) => i.val.toNat
  | .number (.float x) => min x.truncate.toNat greatestCount
  | _ => 0

/-- The number that a keyword takes. -/
def limit (argument : Json) : Number :=
  match argument with
  | .number n => n
  | _ => default

/-- Whether a number is an integer: since draft 6 a float without a fraction is one. -/
def isInteger (dialect : Dialect) : Number → Bool
  | .int _ => true
  | .float x => dialect != .four && x.isIntegral

/-- Whether a value has the type of a name. -/
def isOfType (dialect : Dialect) (value : Json) (name : String) : Bool :=
  match value with
  | .null => name == "null"
  | .bool _ => name == "boolean"
  | .number n => name == "number" || (name == "integer" && isInteger dialect n)
  | .string _ => name == "string"
  | .array _ => name == "array"
  | .object _ => name == "object"

/-- Whether a value has one of several types. Next to other types, `integer` means integers alone.
-/
def isOfTypes (dialect : Dialect) (value : Json) (names : List String) : Bool :=
  match names with
  | [name] => isOfType dialect value name
  | names =>
    match value with
    | .number (.float _) => names.contains "number"
    | value => names.any (isOfType dialect value)

/-- The names of `type`: one or several. -/
def typeNames (argument : Json) : List String :=
  match argument with
  | .string name => [name]
  | other => other.stringElements

/-- Whether no two elements have the same value. -/
def areDistinct : List Json → Bool
  | [] => true
  | x :: rest => !rest.any (x.sameValue ·) && areDistinct rest

/-- Whether a value is the one that `const` asks for. Two numbers are the same if they are near. -/
def isConstant (expected value : Json) : Bool :=
  match expected, value with
  | .number a, .number b => a.isNear b
  | expected, value => expected.sameValue value

/-- Keywords for values of any type. -/
def anyValue (dialect : Dialect) (place : Place) (value : Json) (keyword : String)
    (argument : Json) : List Violation :=
  match keyword with
  | "type" =>
    let names := typeNames argument
    expect (isOfTypes dialect value names) place value (.notOfType names)
  | "enum" =>
    let allowed := argument.array?.getD []
    expect (allowed.any (·.sameValue value)) place value (.notAmong allowed)
  | "const" => expect (isConstant argument value) place value (.notConstant argument)
  | _ => []

/-- Keywords for numbers. -/
def numbers (place : Place) (value : Json) (keyword : String) (argument : Json) :
    List Violation :=
  match value with
  | .number n =>
    let bound := limit argument
    let side := n.compare bound
    match keyword with
    | "minimum" => expect (side != .lt) place value (.belowMinimum bound false)
    | "maximum" => expect (side != .gt) place value (.aboveMaximum bound false)
    | "exclusiveMinimum" => expect (side == .gt) place value (.belowMinimum bound true)
    | "exclusiveMaximum" => expect (side == .lt) place value (.aboveMaximum bound true)
    | "multipleOf" => expect (n.isMultipleOf bound) place value (.notMultiple bound)
    | _ => []
  | _ => []

/-- Keywords for strings. Lengths count code points. -/
def strings (library : Library) (dialect : Dialect) (place : Place) (value : Json)
    (keyword : String) (argument : Json) : List Violation :=
  match value with
  | .string s =>
    let bound := count argument
    match keyword with
    | "minLength" => expect (decide (bound ≤ s.length)) place value (.shorterThan bound)
    | "maxLength" => expect (decide (s.length ≤ bound)) place value (.longerThan bound)
    | "pattern" =>
      match (argument.string?).bind Matcher.ofText? with
      | none => []
      | some matcher =>
        match matcher.search s with
        | .found => []
        | .absent => [⟨place, value, .noMatch matcher.shown⟩]
        | .givenUp => [⟨place, value, .searchTooLong⟩]
    | "format" =>
      match argument.string? with
      | none => []
      | some format => expect (library.hasFormat dialect format s) place value (.notInFormat format)
    | _ => []
  | _ => []

/-- The violation of a text whose content has a fault; `outer` is the place of the schema. -/
def contentViolations (outer : Place) (value : Json) (fault : Option ContentFault) :
    List Violation :=
  match fault with
  | none => []
  | some fault => [⟨outer.keyword fault.keyword, value, .content fault⟩]

/-- Keywords for the content of strings; `outer` is the place of the schema. Next to a media type,
the encoding is checked with that. -/
def contents (library : Library) (siblings : Record Json) (outer : Place) (value : Json)
    (keyword : String) (argument : Json) : List Violation :=
  match value with
  | .string s =>
    match keyword with
    | "contentEncoding" =>
      if siblings.contains "contentMediaType" then []
      else contentViolations outer value (library.fault? argument.string? none s)
    | "contentMediaType" =>
      let encoding := (siblings.get? "contentEncoding").bind Json.string?
      contentViolations outer value (library.fault? encoding argument.string? s)
    | _ => []
  | _ => []

/-- The violations of each element from position `first` on, all against one schema. -/
def checkElements (check : Check) (place : Place) (schema : Json) : Nat → List Json → List Violation
  | _, [] => []
  | first, x :: rest =>
    check schema (place.inside (Nat.repr first)) x
      ++ checkElements check place schema (first + 1) rest

/-- The violations of elements against a schema for each position. -/
def checkTuple (check : Check) (place : Place) : Nat → List Json → List Json → List Violation
  | position, schema :: schemas, x :: rest =>
    check schema ((place.keyword (Nat.repr position)).inside (Nat.repr position)) x
      ++ checkTuple check place (position + 1) schemas rest
  | _, _, _ => []

/-- Keywords for arrays. -/
def arrays (check : Check) (siblings : Record Json) (place : Place) (value : Json)
    (keyword : String) (argument : Json) : List Violation :=
  match value with
  | .array elements =>
    let bound := count argument
    match keyword with
    | "items" =>
      match argument with
      | .array schemas => checkTuple check place 0 schemas elements
      | schema => checkElements check place schema 0 elements
    | "additionalItems" =>
      match siblings.get? "items", argument with
      | some (.array schemas), .object _ =>
        checkElements check place argument schemas.length (elements.drop schemas.length)
      | some (.array schemas), .bool false =>
        expect (decide (elements.length ≤ schemas.length)) place value
          (.unexpectedItems schemas.length)
      | _, _ => []
    | "minItems" => expect (decide (bound ≤ elements.length)) place value (.fewerItems bound)
    | "maxItems" => expect (decide (elements.length ≤ bound)) place value (.moreItems bound)
    | "uniqueItems" =>
      expect (argument.bool? != some true || areDistinct elements) place value .repeatedItems
    | "contains" =>
      expect? (anyFits? (elements.map fun x => fits? (check argument place x))) place value
        .nothingContained
    | _ => []
  | _ => []

/-- Whether the schema's `additionalProperties` takes over the work of `properties` and
`patternProperties`. -/
def governsProperties (siblings : Record Json) : Bool :=
  match siblings.get? "additionalProperties" with
  | some (.bool false) => true
  | some (.object _) => true
  | _ => false

/-- The schemas that a keyword gives to names. -/
def schemasUnder (siblings : Record Json) (keyword : String) : Record Json :=
  ((siblings.get? keyword).bind Json.object?).getD []

/-- The violations of one member against the patterns that match its name; `place` is that of
`patternProperties`. -/
def checkPatterns (check : Check) (place : Place) (patterns : Record Json) (name : String)
    (value : Json) : List Violation :=
  (patterns.filter fun p => Matcher.isFound p.1 name).flatMap fun (pattern, schema) =>
    check schema ((place.keyword pattern).inside name) value

/-- Whether a name has a schema of its own or matches a pattern. -/
def isExpected (properties patterns : Record Json) (name : String) : Bool :=
  properties.contains name || patterns.any fun p => Matcher.isFound p.1 name

/-- The violations of one member against its own schema and the patterns, or against the schema for
all other members. -/
def checkMember (check : Check) (place : Place) (properties patterns : Record Json)
    (others : Json) (name : String) (value : Json) : List Violation :=
  (match properties.get? name with
    | some schema => check schema (((place.keyword "properties").keyword name).inside name) value
    | none => [])
  ++ checkPatterns check (place.keyword "patternProperties") patterns name value
  ++ (if isExpected properties patterns name || !others.isObject then []
      else check others ((place.keyword "additionalProperties").inside name) value)

/-- `additionalProperties`, a schema or `false`, with `properties` and `patternProperties`. Where
the schema names no properties at all, a first member shows itself. -/
def additional (check : Check) (siblings : Record Json) (place : Place) (members : Record Json)
    (argument : Json) : List Violation :=
  let properties := schemasUnder siblings "properties"
  let patterns := schemasUnder siblings "patternProperties"
  let here := place.keyword "additionalProperties"
  let unexpected := members.filter fun m => !isExpected properties patterns m.1
  (members.flatMap fun (name, value) =>
    checkMember check place properties patterns argument name value)
  ++ (if argument.isObject then []
      else if siblings.contains "properties" || siblings.contains "patternProperties" then
        expect unexpected.isEmpty here (.object members)
          (.unexpectedProperties (Record.names unexpected))
      else
        match members with
        | [] => []
        | (_, first) :: _ => [⟨here, first, .never⟩])

/-- One violation for each of the names that a member list lacks. -/
def lacking (place : Place) (members : Record Json) (names : List String) : List Violation :=
  (names.filter fun name => !members.contains name).map fun name =>
    ⟨place, .object members, .missingProperty name⟩

/-- The violations of an object against one entry of `dependencies`. -/
def dependency (check : Check) (place : Place) (members : Record Json) (name : String)
    (needed : Json) : List Violation :=
  if members.contains name then
    match needed with
    | .array _ => lacking place members needed.stringElements
    | schema => check schema (place.keyword name) (.object members)
  else []

/-- Keywords for objects; `outer` is the place of the schema. -/
def objects (check : Check) (siblings : Record Json) (outer : Place) (value : Json)
    (keyword : String) (argument : Json) : List Violation :=
  match value with
  | .object members =>
    let place := outer.keyword keyword
    let bound := count argument
    match keyword with
    | "properties" =>
      if governsProperties siblings then []
      else (argument.object?.getD []).flatMap fun (name, schema) =>
        match Record.get? members name with
        | some part => check schema ((place.keyword name).inside name) part
        | none => []
    | "patternProperties" =>
      if governsProperties siblings then []
      else (argument.object?.getD []).flatMap fun (pattern, schema) =>
        (members.filter fun m => Matcher.isFound pattern m.1).flatMap fun (name, part) =>
          check schema ((place.keyword pattern).inside name) part
    | "additionalProperties" =>
      if governsProperties siblings then additional check siblings outer members argument else []
    | "required" => lacking place members argument.stringElements
    | "minProperties" =>
      expect (decide (bound ≤ members.length)) place value (.fewerProperties bound)
    | "maxProperties" =>
      expect (decide (members.length ≤ bound)) place value (.moreProperties bound)
    | "propertyNames" =>
      match argument with
      | .bool false => expect members.isEmpty place value .never
      | schema => members.flatMap fun m => check schema place (.string m.1)
    | "dependencies" =>
      (argument.object?.getD []).flatMap fun (name, needed) =>
        dependency check place members name needed
    | _ => []
  | _ => []

/-- The violations of a value against each of several schemas. -/
def checkEach (check : Check) (place : Place) (value : Json) : Nat → List Json → List Violation
  | _, [] => []
  | position, schema :: rest =>
    check schema (place.keyword (Nat.repr position)) value
      ++ checkEach check place value (position + 1) rest

/-- Keywords that combine schemas; `outer` is the place of the schema. A condition is asked only
next to a branch. -/
def combined (check : Check) (siblings : Record Json) (outer : Place) (value : Json)
    (keyword : String) (argument : Json) : List Violation :=
  let place := outer.keyword keyword
  let fits (schema : Json) : Option Bool := fits? (check schema place value)
  let branch (name : String) : List Violation :=
    match siblings.get? name with
    | some schema => check schema (outer.keyword name) value
    | none => []
  match keyword with
  | "allOf" => checkEach check place value 0 (argument.array?.getD [])
  | "anyOf" =>
    expect? (anyFits? ((argument.array?.getD []).map fits)) place value (.noAlternative "anyOf")
  | "oneOf" =>
    match countFits? ((argument.array?.getD []).map fits) with
    | some 0 => [⟨place, value, .noAlternative "oneOf"⟩]
    | some 1 => []
    | some _ => [⟨place, value, .severalAlternatives⟩]
    | none => [⟨place, value, .endless⟩]
  | "not" => expect? ((fits argument).map (!·)) place value (.forbidden argument)
  | "if" =>
    if siblings.contains "then" || siblings.contains "else" then
      match fits argument with
      | some true => branch "then"
      | some false => branch "else"
      | none => [⟨place, value, .endless⟩]
    else []
  | _ => []

/-- The violations of a value against one keyword of a schema with these members. -/
def keywordViolations (library : Library) (dialect : Dialect) (check : Check)
    (siblings : Record Json) (place : Place) (value : Json) (keyword : String) (argument : Json) :
    List Violation :=
  anyValue dialect (place.keyword keyword) value keyword argument
    ++ numbers (place.keyword keyword) value keyword argument
    ++ strings library dialect (place.keyword keyword) value keyword argument
    ++ contents library siblings place value keyword argument
    ++ arrays check siblings (place.keyword keyword) value keyword argument
    ++ objects check siblings place value keyword argument
    ++ combined check siblings place value keyword argument

end Draft7

end ItemTable
