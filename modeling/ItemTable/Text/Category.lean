import ItemTable.Text.Category.Control
import ItemTable.Text.Category.Letter
import ItemTable.Text.Category.Mark
import ItemTable.Text.Category.OtherLetter
import ItemTable.Text.Category.Sign

set_option autoImplicit false

/-! # General categories

The Unicode standard puts every character into one general category; a code point that stands for
nothing yet is unassigned. Groups of categories have names of their own. -/

namespace ItemTable

namespace Category

/-- Letters that have a case. -/
def cased : List Runs := [uppercaseLetters, lowercaseLetters, titlecaseLetters]

/-- Letters. -/
def letters : List Runs := cased ++ [modifierLetters, otherLetters]

/-- Marks. -/
def marks : List Runs := [nonspacingMarks, spacingMarks, enclosingMarks]

/-- Numbers. -/
def numbers : List Runs := [decimalDigits, letterNumbers, otherNumbers]

/-- Punctuation. -/
def punctuation : List Runs :=
  [connectors, dashes, openers, closers, initialQuotes, finalQuotes, otherPunctuation]

/-- Symbols. -/
def symbols : List Runs := [mathSymbols, currencySymbols, modifierSymbols, otherSymbols]

/-- Separators. -/
def separators : List Runs := [spaces, lineSeparators, paragraphSeparators]

/-- All characters that are neither controls nor formats nor for private use. -/
def plain : List Runs := letters ++ marks ++ numbers ++ punctuation ++ symbols ++ separators

/-- All assigned characters. -/
def assigned : List Runs := plain ++ [controls, formats, privateUse]

/-- The names of categories and of their groups, in small letters and without separators. -/
def named : List (List String × CharTable) :=
  [ (["c", "other"], ⟨plain, [], true⟩),
    (["cc", "control", "cntrl"], ⟨[controls], [], false⟩),
    (["cf", "format"], ⟨[formats], [], false⟩),
    (["cn", "unassigned"], ⟨assigned, [], true⟩),
    (["co", "privateuse"], ⟨[privateUse], [], false⟩),
    (["l", "letter"], ⟨letters, [], false⟩),
    (["lc", "casedletter"], ⟨cased, [], false⟩),
    (["ll", "lowercaseletter"], ⟨[lowercaseLetters], [], false⟩),
    (["lm", "modifierletter"], ⟨[modifierLetters], [], false⟩),
    (["lo", "otherletter"], ⟨[otherLetters], [], false⟩),
    (["lt", "titlecaseletter"], ⟨[titlecaseLetters], [], false⟩),
    (["lu", "uppercaseletter"], ⟨[uppercaseLetters], [], false⟩),
    (["m", "mark", "combiningmark"], ⟨marks, [], false⟩),
    (["mc", "spacingmark"], ⟨[spacingMarks], [], false⟩),
    (["me", "enclosingmark"], ⟨[enclosingMarks], [], false⟩),
    (["mn", "nonspacingmark"], ⟨[nonspacingMarks], [], false⟩),
    (["n", "number"], ⟨numbers, [], false⟩),
    (["nd", "decimalnumber", "digit"], ⟨[decimalDigits], [], false⟩),
    (["nl", "letternumber"], ⟨[letterNumbers], [], false⟩),
    (["no", "othernumber"], ⟨[otherNumbers], [], false⟩),
    (["p", "punctuation", "punct"], ⟨punctuation, [], false⟩),
    (["pc", "connectorpunctuation"], ⟨[connectors], [], false⟩),
    (["pd", "dashpunctuation"], ⟨[dashes], [], false⟩),
    (["pe", "closepunctuation"], ⟨[closers], [], false⟩),
    (["pf", "finalpunctuation"], ⟨[finalQuotes], [], false⟩),
    (["pi", "initialpunctuation"], ⟨[initialQuotes], [], false⟩),
    (["po", "otherpunctuation"], ⟨[otherPunctuation], [], false⟩),
    (["ps", "openpunctuation"], ⟨[openers], [], false⟩),
    (["s", "symbol"], ⟨symbols, [], false⟩),
    (["sc", "currencysymbol"], ⟨[currencySymbols], [], false⟩),
    (["sk", "modifiersymbol"], ⟨[modifierSymbols], [], false⟩),
    (["sm", "mathsymbol"], ⟨[mathSymbols], [], false⟩),
    (["so", "othersymbol"], ⟨[otherSymbols], [], false⟩),
    (["z", "separator"], ⟨separators, [], false⟩),
    (["zl", "lineseparator"], ⟨[lineSeparators], [], false⟩),
    (["zp", "paragraphseparator"], ⟨[paragraphSeparators], [], false⟩),
    (["zs", "spaceseparator"], ⟨[spaces], [], false⟩),
    (["any"], ⟨[], [], true⟩),
    (["assigned"], ⟨assigned, [], false⟩),
    (["ascii"], ⟨[[(0, 127, 1)]], [], false⟩) ]

end Category

end ItemTable
