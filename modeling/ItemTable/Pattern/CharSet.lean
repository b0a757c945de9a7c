import ItemTable.Text.Property

set_option autoImplicit false

/-! # Sets of characters

What one character of a text may be, as a pattern says it: characters, ranges, tables of the Unicode
standard and their combinations. A set without case has every character that differs in case alone
from one of its members. -/

namespace ItemTable

/-- A set of characters. -/
inductive CharSet
  | range (first last : Char)
  | table (members : CharTable)
  | union (parts : List CharSet)
  | complement (set : CharSet)
  | both (first second : CharSet)
  /-- The members without their case. -/
  | caseless (set : CharSet)
  deriving Inhabited

namespace CharSet

mutual
/-- Whether a character belongs to a set. -/
def mem : CharSet → Char → Bool
  | .range first last, c => first ≤ c && c ≤ last
  | .table members, c => members.mem c
  | .union parts, c => memAny parts c
  | .complement set, c => !mem set c
  | .both first second, c => mem first c && mem second c
  | .caseless set, c => mem set c || (Folding.variants c).any (mem set)

/-- Whether a character belongs to one of the sets. -/
def memAny : List CharSet → Char → Bool
  | [], _ => false
  | set :: rest, c => mem set c || memAny rest c
end

/-- One character. -/
def single (c : Char) : CharSet := .range c c

/-- Every character. -/
def any : CharSet := .complement (.union [])

/-- Every character but the line feed. -/
def anyButNewline : CharSet := .complement (single '\n')

/-- The members of the first set that are not in the second. -/
def without (first second : CharSet) : CharSet := .both first (.complement second)

/-- The members of exactly one of the sets. -/
def either (first second : CharSet) : CharSet := .union [without first second, without second first]

/-- A set with or without case. -/
def withCase (fold : Bool) (set : CharSet) : CharSet := if fold then .caseless set else set

/-- The complement of a set, or the set itself. -/
def negateIf (negated : Bool) (set : CharSet) : CharSet := if negated then .complement set else set

/-- Whether a character is part of a word. -/
def isWord (c : Char) : Bool :=
  if c.toNat < 128 then c.isAlphanum || c == '_' else Property.word.mem c

/-- Whether a character is a letter. -/
def isLetter (c : Char) : Bool :=
  if c.toNat < 128 then c.isAlpha
  else CharTable.mem c
    ⟨Category.letters ++ [Category.letterNumbers, Category.otherAlphabetic], [], false⟩

/-- Whether a character is a letter or a number. -/
def isAlphanumeric (c : Char) : Bool :=
  isLetter c || if c.toNat < 128 then c.isDigit
    else CharTable.mem c ⟨Category.numbers, [], false⟩

/-- Whether a character is white space. -/
def isBlank (c : Char) : Bool :=
  if c.toNat < 128 then c == ' ' || (9 ≤ c.toNat && c.toNat ≤ 13) else Property.blank.mem c

/-- The set of a letter after a backslash: digits, word characters or white space, or all others if
the letter is in upper case. -/
def shorthand (letter : Char) : CharSet :=
  match letter with
  | 'd' => .table Property.digit
  | 'D' => .complement (.table Property.digit)
  | 'w' => .table Property.word
  | 'W' => .complement (.table Property.word)
  | 's' => .table Property.blank
  | _ => .complement (.table Property.blank)

mutual
/-- How much room a set takes in a compiled pattern, in bytes: a little for each range beyond ASCII.
-/
def room : CharSet → Nat
  | .range first last => if last.toNat < 128 then 32 else if first = last then 96 else 160
  | .table members => 28 * (members.runs.map List.length).sum + 32
  | .union parts => roomAll parts + 32
  | .complement set => room set + 400
  | .both first second => room first + room second
  | .caseless set => 2 * room set

/-- How much room sets take. -/
def roomAll : List CharSet → Nat
  | [] => 0
  | set :: rest => room set + roomAll rest
end

end CharSet

end ItemTable
