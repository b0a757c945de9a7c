import ItemTable.Text.Category
import ItemTable.Text.Category.Trait

set_option autoImplicit false

/-! # Quoted lists of names

Messages show names in quotes, so that empty names and blanks stay visible: `["a", "q\"x"]`. A quote
and a backslash follow a backslash, tab, line feed, carriage return and NUL are letters after one,
and any other character without a glyph is its code point in braces.

Without a glyph are controls, format characters, separators other than the space, characters for
private use, code points that stand for nothing, and what joins the character before it. -/

namespace ItemTable

namespace Glyph

open Category

/-- Whether a character joins the one before it: a mark that takes no room, or a sign that serves as
one. -/
def isJoining (code : Nat) : Bool :=
  nonspacingMarks.mem code || enclosingMarks.mem code || joiningCharacters.mem code

/-- The categories of characters with a glyph. -/
def visible : List Runs := letters ++ marks ++ numbers ++ punctuation ++ symbols

/-- Whether a character has no glyph of its own. -/
def isGlyphless (c : Char) : Bool :=
  if c.toNat < 127 then c.toNat < 32
  else !visible.any (Runs.mem c.toNat) || isJoining c.toNat

end Glyph

namespace Quoted

/-- A character inside quotes. -/
def character (c : Char) : List Char :=
  if c = '"' then ['\\', '"']
  else if c = '\\' then ['\\', '\\']
  else if c = '\t' then ['\\', 't']
  else if c = '\n' then ['\\', 'n']
  else if c = '\r' then ['\\', 'r']
  else if c.toNat = 0 then ['\\', '0']
  else if Glyph.isGlyphless c then
    ['\\', 'u', '\x7b'] ++ Nat.toDigits 16 c.toNat ++ ['\x7d']
  else [c]

/-- A name in quotes. -/
def name (s : String) : String := "\"" ++ String.ofList (s.toList.flatMap character) ++ "\""

/-- Names in quotes, in brackets. -/
def names (ss : List String) : String := "[" ++ ", ".intercalate (ss.map name) ++ "]"

end Quoted

end ItemTable
