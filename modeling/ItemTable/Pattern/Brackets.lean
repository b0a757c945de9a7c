import ItemTable.Pattern.Escape

set_option autoImplicit false

/-! # Sets in brackets

Members, ranges, named classes and sets in brackets of their own, joined by `&&`, `--` and `~~` from
the left. With a caret first, a set has all other characters. The reader returns the set, what
follows it, and where the shorthands in it are: each by the length of the text from its backslash
on. -/

namespace ItemTable

namespace Pattern

/-- What precedes the part of a set after an operator. -/
inductive Pending
  | nothing
  | intersect (first : CharSet)
  | subtract (first : CharSet)
  | differ (first : CharSet)

namespace Pending

/-- The set of all parts so far. -/
def close (pending : Pending) (members : List CharSet) : CharSet :=
  let second := CharSet.union members
  match pending with
  | .nothing => second
  | .intersect first => .both first second
  | .subtract first => first.without second
  | .differ first => first.either second

end Pending

/-- A text from its first character on that is neither blank nor in a comment. Blanks and comments
count in spaced patterns only. -/
def skipBlanks (spaced : Bool) : List Char → List Char
  | [] => []
  | c :: rest =>
    if !spaced then c :: rest
    else if CharSet.isBlank c then skipBlanks spaced rest
    else if c = '#' then skipComment spaced rest
    else c :: rest
where
  /-- A text from the first such character after a comment on. -/
  skipComment (spaced : Bool) : List Char → List Char
    | [] => []
    | c :: rest => if c = '\n' then skipBlanks spaced rest else skipComment spaced rest

/-- The named classes of ASCII characters. -/
def asciiClass? (name : String) : Option CharSet :=
  let digit := CharSet.range '0' '9'
  let lower := CharSet.range 'a' 'z'
  let upper := CharSet.range 'A' 'Z'
  match name with
  | "alnum" => some (.union [digit, upper, lower])
  | "alpha" => some (.union [upper, lower])
  | "ascii" => some (.range (Char.ofNat 0) (Char.ofNat 127))
  | "blank" => some (.union [.single '\t', .single ' '])
  | "cntrl" => some (.union [.range (Char.ofNat 0) (Char.ofNat 31), .single (Char.ofNat 127)])
  | "digit" => some digit
  | "graph" => some (.range '!' '~')
  | "lower" => some lower
  | "print" => some (.range ' ' '~')
  | "punct" => some (.union [.range '!' '/', .range ':' '@', .range '[' (Char.ofNat 96),
      .range '\x7b' '~'])
  | "space" => some (.union [.range '\t' '\r', .single ' '])
  | "upper" => some upper
  | "word" => some (.union [digit, upper, lower, .single '_'])
  | "xdigit" => some (.union [digit, .range 'A' 'F', .range 'a' 'f'])
  | _ => none

/-- A named class after the bracket that opens it. -/
def readNamedClass? (fold : Bool) : List Char → Option (CharSet × List Char)
  | ':' :: cs =>
    let negated := cs.head? = some '^'
    let cs := if negated then cs.drop 1 else cs
    match cs.dropWhile (· != ':') with
    | ':' :: ']' :: rest =>
      (asciiClass? (String.ofList (cs.takeWhile (· != ':')))).map fun set =>
        ((set.withCase fold).negateIf negated, rest)
    | _ => none
  | _ => none

/-- One member as it is written, with the place of its shorthand. -/
def readMember (fold : Bool) : List Char → Except Refusal (Escaped × List Nat × List Char)
  | [] => .error .malformed
  | '\\' :: cs =>
    (readEscape fold cs).map fun (member, rest) =>
      match member with
      | .shorthand letter => (.shorthand letter, [cs.length + 1], rest)
      | member => (member, [], rest)
  | c :: rest => .ok (.char c, [], rest)

/-- The character that a member is, if it is one. -/
def Escaped.char? : Escaped → Option Char
  | .char c => some c
  | .bell => some (Char.ofNat 7)
  | _ => none

/-- The set that a member is. -/
def Escaped.set? (fold : Bool) : Escaped → Option CharSet
  | .char c => some ((CharSet.single c).withCase fold)
  | .bell => some (.single (Char.ofNat 7))
  | .set members => some members
  | .shorthand letter => some (.shorthand letter)
  | .place => none

/-- A member or a range. A hyphen before the closing bracket or before another hyphen starts none.
-/
def readRange (fold spaced : Bool) (cs : List Char) :
    Except Refusal (CharSet × List Nat × List Char) := do
  let (first, marks, rest) ← readMember fold cs
  match skipBlanks spaced rest with
  | [] => .error .malformed
  | '-' :: after =>
    match skipBlanks spaced after with
    | [] => .error .malformed
    | c :: others =>
      if c = ']' ∨ c = '-' then
        let set ← orMalformed (first.set? fold)
        .ok (set, marks, '-' :: after)
      else
        let (last, _, rest) ← readMember fold (c :: others)
        match first.char?, last.char? with
        | some a, some b =>
          if a ≤ b then .ok ((CharSet.range a b).withCase fold, [], rest) else .error .malformed
        | _, _ => .error .malformed
  | rest => do
    let set ← orMalformed (first.set? fold)
    .ok (set, marks, rest)

/-- The hyphens at the start of a set; blanks after each do not count. -/
def splitHyphens (spaced : Bool) : Nat → List Char → List CharSet × List Char
  | 0, cs => ([], cs)
  | fuel + 1, cs =>
    match cs with
    | '-' :: rest =>
      let (hyphens, rest) := splitHyphens spaced fuel (skipBlanks spaced rest)
      (.single '-' :: hyphens, rest)
    | cs => ([], cs)

mutual
/-- A set after its opening bracket. A closing bracket that comes first is a member. -/
def readBrackets (fold spaced : Bool) : Nat → List Char →
    Except Refusal (CharSet × List Nat × List Char)
  | 0, _ => .error .malformed
  | fuel + 1, cs => do
    let cs := skipBlanks spaced cs
    let negated := cs.head? = some '^'
    let cs := if negated then skipBlanks spaced (cs.drop 1) else cs
    let (hyphens, cs) := splitHyphens spaced cs.length cs
    let (members, cs) :=
      match hyphens, cs with
      | [], ']' :: rest => ([CharSet.single ']'], rest)
      | hyphens, cs => (hyphens, cs)
    let (set, marks, rest) ← readMembers fold spaced fuel .nothing members [] cs
    .ok (set.negateIf negated, marks, rest)

/-- The members of a set up to its closing bracket, after those that are there already. -/
def readMembers (fold spaced : Bool) : Nat → Pending → List CharSet → List Nat → List Char →
    Except Refusal (CharSet × List Nat × List Char)
  | 0, _, _, _, _ => .error .malformed
  | fuel + 1, pending, members, marks, cs =>
    match skipBlanks spaced cs with
    | [] => .error .malformed
    | ']' :: rest => .ok (pending.close members, marks, rest)
    | '&' :: '&' :: rest =>
      readMembers fold spaced fuel (.intersect (pending.close members)) [] marks rest
    | '-' :: '-' :: rest =>
      readMembers fold spaced fuel (.subtract (pending.close members)) [] marks rest
    | '~' :: '~' :: rest =>
      readMembers fold spaced fuel (.differ (pending.close members)) [] marks rest
    | '[' :: rest =>
      match readNamedClass? fold rest with
      | some (set, rest) => readMembers fold spaced fuel pending (set :: members) marks rest
      | none => do
        let (set, inner, rest) ← readBrackets fold spaced fuel rest
        readMembers fold spaced fuel pending (set :: members) (inner ++ marks) rest
    | cs => do
      let (set, inner, rest) ← readRange fold spaced cs
      readMembers fold spaced fuel pending (set :: members) (inner ++ marks) rest
end

end Pattern

end ItemTable
