import ItemTable.Draft7.Dialect
import ItemTable.Draft7.Violation
import ItemTable.Pattern.Matcher

set_option autoImplicit false

/-! # The form of draft 7 documents

What a draft 7 schema looks like: which keyword takes a schema, several schemas, a count, a pattern
and so on. `Form.fits` checks a document against a form; members under unknown names may hold
anything. -/

namespace ItemTable

namespace Draft7

/-- What a keyword takes. -/
inductive Form
  | anything
  | text
  /-- A reference to a part of the document. -/
  | reference
  /-- The name of a dialect. -/
  | dialect
  | truth
  | array
  | number
  | positiveNumber
  /-- A whole number that is not negative. -/
  | count
  | pattern
  /-- An array of distinct strings. -/
  | names
  /-- A type name or an array of distinct ones. -/
  | typeNames
  | schema
  /-- An array of at least one schema. -/
  | schemas
  | schemaOrSchemas
  | schemaOrNames
  /-- An object of schemas. -/
  | named
  /-- An object of schemas under patterns. -/
  | patterned
  /-- An object of schemas or arrays of names. -/
  | dependencies
  deriving DecidableEq, Repr

/-- What each keyword takes. -/
def keywordForms : List (String × Form) :=
  [("$id", .text), ("$schema", .dialect), ("$ref", .reference), ("$comment", .text),
    ("title", .text),
    ("description", .text), ("format", .text), ("contentMediaType", .text),
    ("contentEncoding", .text), ("readOnly", .truth), ("writeOnly", .truth),
    ("uniqueItems", .truth),
    ("examples", .array), ("enum", .array), ("multipleOf", .positiveNumber), ("maximum", .number),
    ("exclusiveMaximum", .number), ("minimum", .number), ("exclusiveMinimum", .number),
    ("maxLength", .count), ("minLength", .count), ("maxItems", .count), ("minItems", .count),
    ("maxProperties", .count), ("minProperties", .count), ("pattern", .pattern),
    ("required", .names), ("type", .typeNames), ("additionalItems", .schema),
    ("items", .schemaOrSchemas), ("contains", .schema), ("additionalProperties", .schema),
    ("definitions", .named), ("properties", .named), ("patternProperties", .patterned),
    ("dependencies", .dependencies), ("propertyNames", .schema), ("if", .schema), ("then", .schema),
    ("else", .schema), ("allOf", .schemas), ("anyOf", .schemas), ("oneOf", .schemas),
    ("not", .schema)]

/-- What a keyword takes; an unknown one takes anything. -/
def formOf (keyword : String) : Form := (Record.get? keywordForms keyword).getD .anything

/-- Whether an array holds strings only, and none twice. -/
def areNames (elements : List Json) : Bool :=
  elements.all (·.string?.isSome)
    && (distinct (elements.filterMap Json.string?)).length == elements.length

/-- Whether a value is the name of a type. -/
def isTypeName (value : Json) : Bool :=
  match value with
  | .string s => simpleTypes.contains s
  | _ => false

/-- Whether a text is made of the characters that may stand in the fragment of a reference: letters,
digits, some signs, and a percent sign before two hexadecimal digits. -/
def isFragment : List Char → Bool
  | [] => true
  | '%' :: a :: b :: rest =>
    (Json.hexValue? a).isSome && (Json.hexValue? b).isSome && isFragment rest
  | c :: rest =>
    (c.isAlphanum || "-._~!$&'()*+,;=:@/?".toList.contains c) && isFragment rest

/-- Whether a text is a reference: to the whole document, to a part of it or to a known dialect. -/
def isReference (text : String) : Bool :=
  match text.toList with
  | [] => true
  | '#' :: fragment => isFragment fragment
  | cs => Dialect.isKnown text && isFragment (cs.takeWhile (· != '#'))
    && isFragment ((cs.dropWhile (· != '#')).drop 1)

/-- Whether a value without schemas inside fits a form. -/
def fitsPlain (form : Form) (value : Json) : Bool :=
  match form, value with
  | .anything, _ => true
  | .text, .string _ => true
  | .reference, .string s => isReference s
  | .dialect, .string s => Dialect.isKnown s && isReference s
  | .truth, .bool _ => true
  | .array, .array _ => true
  | .number, .number _ => true
  | .positiveNumber, .number n => n.compare (.int .zero) == .gt
  | .count, .number n => n.isIntegral && n.compare (.int .zero) != .lt
  | .pattern, .string s => (Matcher.ofText? s).isSome
  | .names, .array elements => areNames elements
  | .typeNames, .array elements =>
    !elements.isEmpty && elements.all isTypeName && areNames elements
  | .typeNames, value => isTypeName value
  | _, _ => false

/-- Whether the form asks for a schema or allows one. -/
def Form.takesSchema : Form → Bool
  | .schema | .schemaOrSchemas | .schemaOrNames => true
  | _ => false

mutual
/-- Whether a value fits a form. -/
def Form.fits (form : Form) : Json → Bool
  | .object members =>
    match form with
    | .schema | .schemaOrSchemas | .schemaOrNames => keywordsFit members
    | .named => membersFit .schema members
    | .patterned => membersFit .schema members && members.all fun m => (Matcher.ofText? m.1).isSome
    | .dependencies => membersFit .schemaOrNames members
    | form => fitsPlain form (.object members)
  | .array elements =>
    match form with
    | .schemas | .schemaOrSchemas => !elements.isEmpty && elementsFit elements
    | .schemaOrNames => areNames elements
    | form => fitsPlain form (.array elements)
  | .bool b => form.takesSchema || fitsPlain form (.bool b)
  | .null => fitsPlain form .null
  | .number n => fitsPlain form (.number n)
  | .string s => fitsPlain form (.string s)

/-- Whether each member fits what its keyword takes. -/
def keywordsFit : List (String × Json) → Bool
  | [] => true
  | (keyword, value) :: rest => Form.fits (formOf keyword) value && keywordsFit rest

/-- Whether each member's value fits a form. -/
def membersFit (form : Form) : List (String × Json) → Bool
  | [] => true
  | (_, value) :: rest => Form.fits form value && membersFit form rest

/-- Whether all elements are schemas. -/
def elementsFit : List Json → Bool
  | [] => true
  | value :: rest => Form.fits .schema value && elementsFit rest
end

/-- Whether a document has the form of a schema. -/
def isSchema (document : Json) : Bool := Form.schema.fits document

end Draft7

end ItemTable
