import ItemTable.Json.Reader
import ItemTable.Pattern.CharSet

set_option autoImplicit false

/-! # Escapes in patterns

What may follow a backslash in a portable pattern. Where a text is no portable pattern a `Refusal`
says what was found instead. -/

namespace ItemTable

namespace Pattern

/-- Why a text is no portable pattern. -/
inductive Refusal
  /-- It looks ahead or behind. -/
  | lookAround
  /-- It refers back to a group. -/
  | backReference
  /-- It has a letter for a control character; `rest` is what follows `\c`. -/
  | control (rest : List Char)
  /-- It is no pattern. -/
  | malformed
  deriving DecidableEq, Repr

/-- What an escape stands for. -/
inductive Escaped
  | char (c : Char)
  /-- The bell, which has a letter in some notations only. -/
  | bell
  | set (members : CharSet)
  /-- A letter that stands for a set. -/
  | shorthand (letter : Char)
  /-- A place in the text. -/
  | place

/-- The character of a code. -/
def charOfCode? (code : Nat) : Option Char :=
  if code < 0xD800 ∨ (0xE000 ≤ code ∧ code < 0x110000) then some (Char.ofNat code) else none

/-- The value of hexadecimal digits. -/
def hexDigitsValue (digits : List Char) : Nat :=
  digits.foldl (fun n c => 16 * n + (Json.hexValue? c).getD 0) 0

/-- Whether a character is a hexadecimal digit. -/
def isHexDigit (c : Char) : Bool := (Json.hexValue? c).isSome

/-- A character by exactly `count` hexadecimal digits, or by digits in braces. -/
def readCode? (count : Nat) (cs : List Char) : Option (Char × List Char) :=
  let digits := cs.take count
  if digits.length = count ∧ digits.all isHexDigit then
    (charOfCode? (hexDigitsValue digits)).map fun c => (c, cs.drop count)
  else
    match cs with
    | '\x7b' :: cs =>
      let digits := cs.takeWhile isHexDigit
      match cs.dropWhile isHexDigit with
      | '\x7d' :: rest =>
        if digits.isEmpty ∨ 8 < digits.length then none
        else (charOfCode? (hexDigitsValue digits)).map fun c => (c, rest)
      | _ => none
    | _ => none

/-- How many digits follow a letter that introduces a code. -/
def codeLength? (letter : Char) : Option Nat :=
  match letter with
  | 'x' => some 2
  | 'u' => some 4
  | 'U' => some 8
  | _ => none

/-- The part of a text before the first place where another text stands, and the part after that. -/
def splitAt? (mark : List Char) : List Char → Option (List Char × List Char)
  | [] => none
  | c :: rest =>
    if mark.isPrefixOf (c :: rest) then some ([], (c :: rest).drop mark.length)
    else (splitAt? mark rest).map fun (before, after) => (c :: before, after)

/-- The characters of a property as braces enclose it, a name or a name and a value. -/
def propertySet? (content : List Char) : Option CharSet :=
  let valued (parts : List Char × List Char) : Option CharSet :=
    (Property.valued? (String.ofList parts.1) (String.ofList parts.2)).map .table
  match splitAt? ['!', '='] content, splitAt? [':'] content, splitAt? ['='] content with
  | some parts, _, _ => (valued parts).map .complement
  | _, some parts, _ => valued parts
  | _, _, some parts => valued parts
  | _, _, _ => (Property.any? (String.ofList content)).map .table

/-- A property after its letter: a name of one letter, or one in braces. -/
def readProperty? (fold negated : Bool) : List Char → Option (CharSet × List Char)
  | '\x7b' :: cs =>
    match cs.dropWhile (· != '\x7d') with
    | _ :: rest =>
      (propertySet? (cs.takeWhile (· != '\x7d'))).map fun set =>
        ((set.withCase fold).negateIf negated, rest)
    | [] => none
  | c :: rest =>
    (Property.category? (String.singleton c)).map fun table =>
      (((CharSet.table table).withCase fold).negateIf negated, rest)
  | [] => none

/-- A result that is there, or the refusal of a malformed text. -/
def orMalformed {α : Type} (result : Option α) : Except Refusal α :=
  match result with
  | some a => .ok a
  | none => .error .malformed

/-- Whether a character may follow a backslash to stand for itself. -/
def standsForItself (c : Char) : Bool :=
  c.toNat < 128 && !c.isAlphanum && c != '<' && c != '>'

/-- An escape, after its backslash. -/
def readEscape (fold : Bool) : List Char → Except Refusal (Escaped × List Char)
  | [] => .error .malformed
  | 'p' :: rest => orMalformed ((readProperty? fold false rest).map fun (s, r) => (.set s, r))
  | 'P' :: rest => orMalformed ((readProperty? fold true rest).map fun (s, r) => (.set s, r))
  | 'b' :: '\x7b' :: _ => .error .malformed
  | 'c' :: letter :: rest =>
    if letter.isAlpha then .error (.control (letter :: rest)) else .error .malformed
  | c :: rest =>
    if c.isDigit then .error .backReference
    else if "dDwWsS".toList.contains c then .ok (.shorthand c, rest)
    else if "AzbB<>".toList.contains c then .ok (.place, rest)
    else if standsForItself c then .ok (.char c, rest)
    else
      match c with
      | 'a' => .ok (.bell, rest)
      | 'f' => .ok (.char (Char.ofNat 12), rest)
      | 't' => .ok (.char '\t', rest)
      | 'n' => .ok (.char '\n', rest)
      | 'r' => .ok (.char '\r', rest)
      | 'v' => .ok (.char (Char.ofNat 11), rest)
      | c =>
        match codeLength? c with
        | some count => orMalformed ((readCode? count rest).map fun (c, r) => (.char c, r))
        | none => .error .malformed

end Pattern

end ItemTable
