import ItemTable.Draft7.Form
import ItemTable.Draft7.Library
import ItemTable.Json.Pointer

set_option autoImplicit false

/-! # References inside a schema

A reference names a part of the same document: a number sign and a JSON pointer, in which any byte
may be given by a percent sign and two hexadecimal digits. `referencesResolve` follows every
reference that a validation could meet. What a reference leads to has to work as a schema, but need
not have the form of one: `schemaUses?` is `none` only where a keyword cannot be used as it is. On
this rests the library that runs use, `Library.pointers`. -/

namespace ItemTable

namespace Draft7

/-- The bytes of a text with percent escapes undone; a percent sign without two digits stays. -/
def percentBytes : List Char → List UInt8
  | '%' :: a :: b :: rest =>
    match Json.hexValue? a, Json.hexValue? b with
    | some high, some low => UInt8.ofNat (16 * high + low) :: percentBytes rest
    | _, _ => String.utf8EncodeChar '%' ++ percentBytes (a :: b :: rest)
  | c :: rest => String.utf8EncodeChar c ++ percentBytes rest
  | [] => []
  termination_by cs => cs.length

/-- A text with percent escapes undone, if the bytes are UTF-8. -/
def unescapePercent? (cs : List Char) : Option (List Char) :=
  if cs.contains '%' then
    (String.fromUTF8? (ByteArray.mk (percentBytes cs).toArray)).map String.toList
  else some cs

/-- A position as a reference spells it: digits, perhaps after a plus sign. -/
def position? (segment : List Char) : Option Nat :=
  let digits :=
    match segment with
    | '+' :: rest => rest
    | cs => cs
  if !digits.isEmpty && digits.all Char.isDigit then some (digitsValue digits) else none

/-- The part of a document that segments lead to. -/
def reach? : Json → List (List Char) → Option Json
  | value, [] => some value
  | .array elements, segment :: rest =>
    ((position? segment).bind (elements[·]?)).bind fun part => reach? part rest
  | .object members, segment :: rest =>
    (Record.get? members (String.ofList (unescapeSegment segment))).bind fun part =>
      reach? part rest
  | _, _ :: _ => none

/-- The part of a document that a reference names. -/
def resolve? (root : Json) (reference : String) : Option Json :=
  match reference.toList with
  | [] => some root
  | ['#'] => some root
  | '#' :: '/' :: pointer => (unescapePercent? pointer).bind fun cs => reach? root (splitSlash cs)
  | _ => none

/-- Whether a value is a count. Draft 4 takes no float for one and no negative number. -/
def isCount (dialect : Dialect) : Json → Bool
  | .number (.int i) => dialect != .four || decide (0 ≤ i.val)
  | .number (.float x) => dialect != .four && x.isIntegral
  | _ => false

/-- Whether a value is an array of strings. -/
def isStrings (value : Json) : Bool :=
  match value with
  | .array elements => elements.all (·.string?.isSome)
  | _ => false

/-- Whether a value names types. -/
def namesTypes (value : Json) : Bool :=
  match value with
  | .array elements => elements.all isTypeName
  | value => isTypeName value

/-- Whether a keyword without schemas inside can be used with a value. -/
def isUsable (dialect : Dialect) (keyword : String) (value : Json) : Bool :=
  match keyword with
  | "type" => namesTypes value
  | "enum" => value.isArray
  | "required" => isStrings value
  | "minimum" | "maximum" | "exclusiveMinimum" | "exclusiveMaximum" | "multipleOf" =>
    fitsPlain .number value
  | "minLength" | "maxLength" | "minItems" | "maxItems" | "minProperties" | "maxProperties" =>
    isCount dialect value
  | "pattern" => fitsPlain .pattern value
  | _ => true

/-- Whether a keyword's value counts as a schema or as several: `then` and `else` do next to `if`,
which needs one of them, `additionalItems` does next to an array `items`, and where other keywords
take only some schemas, all else is ignored. -/
def usedForm (siblings : Record Json) (keyword : String) (value : Json) : Form :=
  match keyword with
  | "if" => if siblings.contains "then" || siblings.contains "else" then .schema else .anything
  | "then" | "else" => if siblings.contains "if" then .schema else .anything
  | "additionalItems" =>
    if value.isObject && ((siblings.get? "items").map Json.isArray).getD false then .schema
    else .anything
  | "propertyNames" => if value.isObject then .schema else .anything
  | "items" => if value.isObject || value.isArray then .schemaOrSchemas else .anything
  | "definitions" => .anything
  | keyword => formOf keyword

/-- The references of two parts, if both can be used. -/
def both (first second : Option (List String)) : Option (List String) :=
  first.bind fun xs => second.map fun ys => xs ++ ys

/-- No references, if a condition holds. -/
def noneIf (usable : Bool) : Option (List String) := if usable then some [] else none

/-- The references of a schema with these members, where `others` are those under its keywords. Next
to `$ref` no other keyword counts. -/
def ownReference (members : Record Json) (others : Option (List String)) : Option (List String) :=
  match members.get? "$ref" with
  | some (.string reference) => if isReference reference then some [reference] else none
  | some _ => none
  | none => others

mutual
/-- The references that a schema inside another one uses, if it can be used. -/
def schemaUses? (dialect : Dialect) : Json → Option (List String)
  | .bool _ => some []
  | .object members =>
    ownReference members (keywordsUse? (dialect.inside members) members members)
  | _ => none

/-- The references under keywords. -/
def keywordsUse? (dialect : Dialect) (siblings : Record Json) :
    List (String × Json) → Option (List String)
  | [] => some []
  | (keyword, value) :: rest =>
    if dialect.knows keyword then
      both (argumentUses? dialect siblings keyword value) (keywordsUse? dialect siblings rest)
    else keywordsUse? dialect siblings rest

/-- The references under one keyword. -/
def argumentUses? (dialect : Dialect) (siblings : Record Json) (keyword : String) :
    Json → Option (List String)
  | .object members =>
    match usedForm siblings keyword (.object members) with
    | .schema | .schemaOrSchemas =>
      ownReference members (keywordsUse? (dialect.inside members) members members)
    | .named => entriesUse? dialect members
    | .patterned =>
      if members.all fun m => (Matcher.ofText? m.1).isSome then entriesUse? dialect members
      else none
    | .dependencies => dependenciesUse? dialect members
    | .schemas => none
    | _ => noneIf (isUsable dialect keyword (.object members))
  | .array elements =>
    match usedForm siblings keyword (.array elements) with
    | .schemas | .schemaOrSchemas => elementsUse? dialect elements
    | .schema | .named | .patterned | .dependencies => none
    | _ => noneIf (isUsable dialect keyword (.array elements))
  | value =>
    match usedForm siblings keyword value with
    | .schema | .schemaOrSchemas =>
      match value with
      | .bool _ => some []
      | _ => none
    | .schemas | .named | .patterned | .dependencies => none
    | _ => noneIf (isUsable dialect keyword value)

/-- The references in an object of schemas. -/
def entriesUse? (dialect : Dialect) : List (String × Json) → Option (List String)
  | [] => some []
  | (_, value) :: rest => both (schemaUses? dialect value) (entriesUse? dialect rest)

/-- The references in an object of schemas and arrays of names. -/
def dependenciesUse? (dialect : Dialect) : List (String × Json) → Option (List String)
  | [] => some []
  | (_, .array names) :: rest =>
    both (noneIf (isStrings (.array names))) (dependenciesUse? dialect rest)
  | (_, value) :: rest => both (schemaUses? dialect value) (dependenciesUse? dialect rest)

/-- The references in an array of schemas. -/
def elementsUse? (dialect : Dialect) : List Json → Option (List String)
  | [] => some []
  | value :: rest => both (schemaUses? dialect value) (elementsUse? dialect rest)
end

/-- The references of a schema that is a whole document or what a reference names: its dialect is
draft 7, whatever it says. -/
def targetUses? : Json → Option (List String)
  | .bool _ => some []
  | .object members => ownReference members (keywordsUse? .seven members members)
  | _ => none

/-- Whether all pending references, and those in their targets, name schemas that can be used. -/
def followAll (root : Json) : Nat → List String → List String → Bool
  | 0, _, pending => pending.isEmpty
  | _ + 1, _, [] => true
  | fuel + 1, seen, reference :: rest =>
    if reference ∈ seen then followAll root fuel seen rest
    else
      match (resolve? root reference).bind targetUses? with
      | none => false
      | some further => followAll root fuel (reference :: seen) (further ++ rest)

/-- Whether every reference that a validation could meet names a schema that can be used. A
reference is followed once, and a target holds no more references than the document has parts. -/
def referencesResolve (root : Json) : Bool :=
  match targetUses? root with
  | none => false
  | some references => followAll root ((root.size + 1) * (root.size + 1)) [] references

/-- Whether a document is a draft 7 schema whose references resolve. -/
def isComplete (root : Json) : Bool := isSchema root && referencesResolve root

/-- The library of documents that refer to themselves alone, by pointers. It knows no formats and no
kinds of content, and schemas have no addresses in it. -/
def Library.pointers : Library where
  hasFormat _ _ _ := true
  fault? _ _ _ := none
  join outer _ := outer
  resolve? root base reference :=
    (Draft7.resolve? root reference).map fun target => (target, ⟨.seven, base⟩)
  accepts := isComplete
  room := 65536

end Draft7

end ItemTable
