import ItemTable.Text.Category
import ItemTable.Text.Category.Trait
import ItemTable.Text.Script.FromA
import ItemTable.Text.Script.FromD
import ItemTable.Text.Script.FromK
import ItemTable.Text.Script.FromN
import ItemTable.Text.Script.FromT

set_option autoImplicit false

/-! # Properties of characters by name

A property is a trait, a general category or a script: a writing system, with the characters that
belong to it alone. Names count without case, separators and a first `is`. -/

namespace ItemTable

namespace Script

/-- The names of scripts and their characters. -/
def named : List (List String × Runs) := fromA ++ fromD ++ fromK ++ fromN ++ fromT

end Script

namespace Property

open Category

/-- What words consist of: letters, marks, digits, connectors and the two joiners. -/
def word : CharTable where
  runs := letters ++ marks ++ [letterNumbers, decimalDigits, connectors, otherAlphabetic,
    [(0x200c, 0x200d, 1)]]

/-- White space. -/
def blank : CharTable := ⟨[whiteSpace], [], false⟩

/-- Decimal digits. -/
def digit : CharTable := ⟨[decimalDigits], [], false⟩

/-- What may start a name. -/
def nameStart : List Runs := letters ++ [letterNumbers, otherNameStart]

/-- What may go on a name. -/
def namePart : List Runs :=
  nameStart ++ [nonspacingMarks, spacingMarks, decimalDigits, connectors, otherNamePart]

/-- The names of traits, in small letters and without separators. -/
def traits : List (List String × CharTable) :=
  [ (["alphabetic", "alpha"], ⟨letters ++ [letterNumbers, otherAlphabetic], [], false⟩),
    (["lowercase", "lower"], ⟨[lowercaseLetters, otherLowercase], [], false⟩),
    (["uppercase", "upper"], ⟨[uppercaseLetters, otherUppercase], [], false⟩),
    (["cased"], ⟨cased ++ [otherLowercase, otherUppercase], [], false⟩),
    (["whitespace", "wspace", "space"], blank),
    (["hexdigit", "hex"], ⟨[hexDigits], [], false⟩),
    (["asciihexdigit", "ahex"],
      ⟨[[(0x30, 0x39, 1), (0x41, 0x46, 1), (0x61, 0x66, 1)]], [], false⟩),
    (["dash"], ⟨[dashSigns], [], false⟩),
    (["ideographic", "ideo"], ⟨[ideographs], [], false⟩),
    (["math"], ⟨[mathSymbols, otherMath], [], false⟩),
    (["idstart", "ids"], ⟨nameStart, [(0x2e2f, 0x2e2f, 1)], false⟩),
    (["idcontinue", "idc"], ⟨namePart, [(0x2e2f, 0x2e2f, 1)], false⟩),
    (["xidstart", "xids"],
      ⟨nameStart,
        [(0x37a, 0x37a, 1), (0xe33, 0xe33, 1), (0xeb3, 0xeb3, 1), (0x2e2f, 0x2e2f, 1),
         (0x309b, 0x309c, 1), (0xfc5e, 0xfc63, 1), (0xfdfa, 0xfdfb, 1), (0xfe70, 0xfe7e, 2),
         (0xff9e, 0xff9f, 1)], false⟩),
    (["xidcontinue", "xidc"],
      ⟨namePart,
        [(0x37a, 0x37a, 1), (0x2e2f, 0x2e2f, 1), (0x309b, 0x309c, 1), (0xfc5e, 0xfc63, 1),
         (0xfdfa, 0xfdfb, 1), (0xfe70, 0xfe7e, 2)], false⟩),
    (["emoji"], ⟨[emoji], [], false⟩),
    (["emojipresentation", "epres"], ⟨[emojiPresentation], [], false⟩),
    (["emojimodifier", "emod"], ⟨[[(0x1f3fb, 0x1f3ff, 1)]], [], false⟩),
    (["emojimodifierbase", "ebase"], ⟨[emojiModifierBase], [], false⟩),
    (["emojicomponent", "ecomp"], ⟨[emojiComponent], [], false⟩),
    (["extendedpictographic", "extpict"], ⟨[pictographs], [], false⟩),
    (["graphemeextend", "grext"],
      ⟨[nonspacingMarks, enclosingMarks, joiningCharacters], [], false⟩),
    (["joincontrol", "joinc"], ⟨[[(0x200c, 0x200d, 1)]], [], false⟩),
    (["patternsyntax", "patsyn"], ⟨[patternSyntax], [], false⟩),
    (["patternwhitespace", "patws"],
      ⟨[[(9, 13, 1), (32, 32, 1), (0x85, 0x85, 1), (0x200e, 0x200f, 1), (0x2028, 0x2029, 1)]], [],
        false⟩),
    (["quotationmark", "qmark"], ⟨[quotationMarks], [], false⟩),
    (["diacritic", "dia"], ⟨[diacritics], [], false⟩),
    (["extender", "ext"], ⟨[extenders], [], false⟩),
    (["variationselector", "vs"],
      ⟨[[(0x180b, 0x180d, 1), (0x180f, 0x180f, 1), (0xfe00, 0xfe0f, 1), (0xe0100, 0xe01ef, 1)]], [],
        false⟩),
    (["regionalindicator", "ri"], ⟨[[(0x1f1e6, 0x1f1ff, 1)]], [], false⟩) ]

/-- A name without case, blanks, hyphens and underscores, and without `is` before other letters. -/
def looseName (name : String) : String :=
  let cs := (name.toList.filter fun c => c.toNat < 128 && c != ' ' && c != '-' && c != '_').map
    Char.toLower
  match cs with
  | ['i', 's', 'c'] => "isc"
  | 'i' :: 's' :: rest => String.ofList rest
  | _ => String.ofList cs

/-- The entry of a table under a loose name. -/
def find? {α : Type} (table : List (List String × α)) (name : String) : Option α :=
  (table.find? fun entry => entry.1.contains name).map (·.2)

/-- The characters of a category. -/
def category? (name : String) : Option CharTable := find? Category.named (looseName name)

/-- The characters of a script. -/
def script? (name : String) : Option CharTable :=
  (find? Script.named (looseName name)).map fun runs => ⟨[runs], [], false⟩

/-- The characters of a trait, a category or a script, whichever has the name first. -/
def any? (name : String) : Option CharTable :=
  (find? traits (looseName name)).or ((category? name).or (script? name))

/-- The characters for which a property has a value. -/
def valued? (name value : String) : Option CharTable :=
  match looseName name with
  | "gc" | "generalcategory" => category? value
  | "sc" | "script" => script? value
  | _ => none

end Property

end ItemTable
