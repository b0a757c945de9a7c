import ItemTable.Pattern.Brackets

set_option autoImplicit false

/-! # Portable patterns

A pattern is written in the portable notation, in which the shorthands `\d`, `\w` and `\s` mean the
same everywhere: digits, word characters of ASCII, and a few blanks. `spellOut?` writes them as sets
in brackets and control characters as themselves. A pattern with look-around or references to groups
is not portable and stays as it is; any other text is no pattern. -/

namespace ItemTable

-- Powers are those of core, whatever else is imported.
attribute [local instance (high)] instPowNat

namespace Pattern

/-- The set in brackets that a shorthand is short for. -/
def spelled (letter : Char) : String :=
  let blanks := String.ofList
    ([32, 9, 10, 13, 11, 12, 0xa0, 0xfeff, 0x2003, 0x2029].map Char.ofNat)
  match letter with
  | 'd' => "[0-9]"
  | 'D' => "[^0-9]"
  | 'w' => "[A-Za-z0-9_]"
  | 'W' => "[^A-Za-z0-9_]"
  | 's' => "[" ++ blanks ++ "]"
  | _ => "[^" ++ blanks ++ "]"

/-- A text with the marked shorthands spelled out. -/
def replaceShorthands (marks : List Nat) : List Char → List Char
  | [] => []
  | '\\' :: letter :: rest =>
    if (rest.length + 2) ∈ marks then (spelled letter).toList ++ replaceShorthands marks rest
    else '\\' :: replaceShorthands marks (letter :: rest)
  | c :: rest => c :: replaceShorthands marks rest

/-- What a reading has found: where shorthands are, and whether a letter stands for the bell. -/
structure Found where
  marks : List Nat
  bell : Bool

/-- A decimal numeral that fits 32 bits, with blanks around it. -/
def readNumeral? (cs : List Char) : Option (Nat × List Char) :=
  let cs := cs.dropWhile CharSet.isBlank
  let (digits, rest) := splitDigits cs
  if digits.isEmpty ∨ 2 ^ (32 : Nat) ≤ digitsValue digits then none
  else some (digitsValue digits, rest.dropWhile CharSet.isBlank)

/-- What follows a count in braces, after the opening brace. -/
def skipCounts? (spaced : Bool) (cs : List Char) : Option (List Char) :=
  match readNumeral? cs with
  | some (_, '\x7d' :: rest) => some rest
  | some (low, ',' :: rest) =>
    match skipBlanks spaced rest with
    | '\x7d' :: rest => some rest
    | rest =>
      match readNumeral? rest with
      | some (high, '\x7d' :: rest) => if low ≤ high then some rest else none
      | _ => none
  | _ => none

/-- A text without the mark that makes the repetition before it prefer fewer rounds. -/
def skipLazy : List Char → List Char
  | '?' :: rest => rest
  | cs => cs

/-- What the opening of a group says. -/
inductive Opening
  /-- Flags for what follows; whether blanks count from here on. -/
  | flags (spaced : Bool)
  /-- A group; whether blanks count in it, and its name. -/
  | group (spaced : Bool) (name : Option String)

/-- Whether blanks count after flags. -/
def spacedAfter (spaced : Bool) (flags : List Char) : Bool :=
  if (flags.takeWhile (· != '-')).contains 'x' then true
  else if flags.contains 'x' then false
  else spaced

/-- Whether flags are letters that mean something, each once, with at most one hyphen before some.
-/
def areFlags (flags : List Char) : Bool :=
  flags.all "imsUuRx-".toList.contains && flags.Nodup && flags.getLast? != some '-'

/-- Whether a text is the name of a group. -/
def isGroupName (name : List Char) : Bool :=
  match name with
  | [] => false
  | c :: rest =>
    (c = '_' || CharSet.isLetter c)
      && rest.all fun c => "_.[]".toList.contains c || CharSet.isAlphanumeric c

/-- A group with a name, after the opening angle. -/
def readGroupName (spaced : Bool) (names : List String) (cs : List Char) :
    Except Refusal (Opening × List Char) :=
  let name := cs.takeWhile (· != '>')
  match cs.dropWhile (· != '>') with
  | _ :: rest =>
    if isGroupName name && !names.contains (String.ofList name) then
      .ok (.group spaced (some (String.ofList name)), rest)
    else .error .malformed
  | [] => .error .malformed

/-- The opening of a group, after its parenthesis. -/
def readOpening (spaced : Bool) (names : List String) :
    List Char → Except Refusal (Opening × List Char)
  | '?' :: '=' :: _ => .error .lookAround
  | '?' :: '!' :: _ => .error .lookAround
  | '?' :: '<' :: '=' :: _ => .error .lookAround
  | '?' :: '<' :: '!' :: _ => .error .lookAround
  | '?' :: 'P' :: '<' :: cs => readGroupName spaced names cs
  | '?' :: '<' :: cs => readGroupName spaced names cs
  | '?' :: cs =>
    let flags := cs.takeWhile fun c => c != ':' && c != ')'
    match cs.dropWhile fun c => c != ':' && c != ')' with
    | c :: rest =>
      if !areFlags flags || (flags.isEmpty && c = ')') then .error .malformed
      else if c = ')' then .ok (.flags (spacedAfter spaced flags), rest)
      else .ok (.group (spacedAfter spaced flags) none, rest)
    | [] => .error .malformed
  | cs => .ok (.group spaced none, cs)

/-- Reads a portable pattern. `outer` says for each open group whether blanks count outside of it,
and `repeatable` whether there is something before that can be repeated. -/
def scan : Nat → Bool → List Bool → Bool → List String → Found → List Char → Except Refusal Found
  | 0, _, _, _, _, _, _ => .error .malformed
  | fuel + 1, spaced, outer, repeatable, names, found, cs =>
    match skipBlanks spaced cs with
    | [] => if outer.isEmpty then .ok found else .error .malformed
    | '(' :: rest => do
      let (opening, rest) ← readOpening spaced names (skipBlanks spaced rest)
      match opening with
      | .flags inner => scan fuel inner outer false names found rest
      | .group inner name => scan fuel inner (spaced :: outer) false (name.toList ++ names) found rest
    | ')' :: rest =>
      match outer with
      | [] => .error .malformed
      | before :: outer => scan fuel before outer true names found rest
    | '|' :: rest => scan fuel spaced outer false names found rest
    | '[' :: rest => do
      let (_, marks, rest) ← readBrackets false spaced (2 * rest.length + 2) rest
      scan fuel spaced outer true names ⟨marks ++ found.marks, found.bell⟩ rest
    | '\\' :: rest => do
      let (escaped, after) ← readEscape false rest
      match escaped with
      | .shorthand _ =>
        scan fuel spaced outer true names ⟨(rest.length + 1) :: found.marks, found.bell⟩ after
      | .bell => scan fuel spaced outer true names ⟨found.marks, true⟩ after
      | _ => scan fuel spaced outer true names found after
    | '\x7b' :: rest =>
      match repeatable, skipCounts? spaced (skipBlanks spaced rest) with
      | true, some rest => scan fuel spaced outer true names found (skipLazy (skipBlanks spaced rest))
      | _, _ => .error .malformed
    | c :: rest =>
      if c = '*' ∨ c = '+' ∨ c = '?' then
        if repeatable then scan fuel spaced outer true names found (skipLazy rest)
        else .error .malformed
      else scan fuel spaced outer true names found rest

/-- The text of a pattern with its shorthands spelled out, at most `fuel` of its control characters
written as themselves. -/
def spellOutWithin : Nat → List Char → Option (List Char)
  | 0, _ => none
  | fuel + 1, cs =>
    match scan (cs.length + 1) false [] false [] ⟨[], false⟩ cs with
    | .ok found => if found.bell then none else some (replaceShorthands found.marks cs)
    | .error .lookAround => some cs
    | .error .backReference => some cs
    | .error (.control (letter :: rest)) =>
      spellOutWithin fuel
        (cs.take (cs.length - (rest.length + 3)) ++ Char.ofNat (letter.toNat % 32) :: rest)
    | .error _ => none

/-- The text of a pattern as it is searched for; `none` if the text is no pattern. -/
def spellOut? (text : String) : Option String :=
  let cs := text.toList
  (spellOutWithin (cs.length + 1) cs).map String.ofList

end Pattern

end ItemTable
