import ItemTable.Json

set_option autoImplicit false

/-! # JSON pointers

A pointer is a list of segments. Inside an object a segment is a member's name, inside an array the
decimal numeral of a position. In a text each segment follows a slash; `~1` stands for a slash and
`~0` for a tilde. -/

namespace ItemTable

/-- A segment with its two escapes undone. -/
def unescapeSegment : List Char → List Char
  | '~' :: '1' :: rest => '/' :: unescapeSegment rest
  | '~' :: '0' :: rest => '~' :: unescapeSegment rest
  | c :: rest => c :: unescapeSegment rest
  | [] => []

/-- The pieces of a text between slashes. -/
def splitSlash : List Char → List (List Char)
  | [] => [[]]
  | c :: rest =>
    if c = '/' then [] :: splitSlash rest
    else
      match splitSlash rest with
      | [] => [[c]]
      | piece :: pieces => (c :: piece) :: pieces

/-- The segments of a pointer's text: it is empty or starts with a slash. -/
def pointerSegments? : List Char → Option (List String)
  | [] => some []
  | '/' :: rest => some ((splitSlash rest).map fun s => String.ofList (unescapeSegment s))
  | _ => none

/-- A position as a pointer spells it: digits, without a leading zero. -/
def positionOfSegment? (segment : String) : Option Nat :=
  match segment.toList with
  | [] => none
  | cs =>
    if cs.all Char.isDigit ∧ ¬ (cs.head? = some '0' ∧ 1 < cs.length) then some (digitsValue cs)
    else none

namespace Json

/-- The part of a document under one segment. -/
def segment? : Json → String → Option Json
  | .object members, name => Record.get? members name
  | .array elements, name => (positionOfSegment? name).bind fun i => elements[i]?
  | _, _ => none

/-- The part of a document at a list of segments. -/
def at? : Json → List String → Option Json
  | value, [] => some value
  | value, segment :: rest => (value.segment? segment).bind fun part => part.at? rest

/-- The part of a document that a pointer's text names. -/
def pointer? (value : Json) (text : List Char) : Option Json :=
  (pointerSegments? text).bind value.at?

end Json

end ItemTable
