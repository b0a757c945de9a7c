import ItemTable.Json

set_option autoImplicit false

/-! # The compact text of a document

No blanks, members in their order. A string escapes the quote, the backslash and control characters,
the usual five of them by a letter and the others by four hexadecimal digits. -/

namespace ItemTable

/-- A character inside a JSON string. -/
def jsonEscape (c : Char) : List Char :=
  if c = '"' then ['\\', '"']
  else if c = '\\' then ['\\', '\\']
  else if c = '\n' then ['\\', 'n']
  else if c = '\r' then ['\\', 'r']
  else if c = '\t' then ['\\', 't']
  else if c.toNat = 8 then ['\\', 'b']
  else if c.toNat = 12 then ['\\', 'f']
  else if c.toNat < 32 then
    ['\\', 'u', '0', '0', Nat.digitChar (c.toNat / 16), Nat.digitChar (c.toNat % 16)]
  else [c]

/-- A JSON string. -/
def jsonString (s : String) : String :=
  "\"" ++ String.ofList (s.toList.flatMap jsonEscape) ++ "\""

namespace Json

mutual
/-- The compact text. -/
def text : Json → String
  | .null => "null"
  | .bool true => "true"
  | .bool false => "false"
  | .number n => n.text
  | .string s => jsonString s
  | .array elements => "[" ++ ",".intercalate (elementTexts elements) ++ "]"
  | .object members => "\x7b" ++ ",".intercalate (memberTexts members) ++ "\x7d"

/-- The texts of elements. -/
def elementTexts : List Json → List String
  | [] => []
  | x :: xs => text x :: elementTexts xs

/-- The texts of members, each a name, a colon and a value. -/
def memberTexts : List (String × Json) → List String
  | [] => []
  | (name, x) :: xs => (jsonString name ++ ":" ++ text x) :: memberTexts xs
end

end Json

end ItemTable
