import ItemTable.Pattern.CharSet

set_option autoImplicit false

/-! # Text patterns

A `Pattern` is a regular expression with look-around, references to groups, choices by a test and
parts that give nothing back. Widths count characters. A pattern that needs none of the latter and
no edges of words is plain: it can be matched without trying again. -/

namespace ItemTable

-- Powers are those of core, whatever else is imported.
attribute [local instance (high)] instPowNat

/-- A regular expression. -/
inductive Pattern
  | empty
  /-- One character of a set. -/
  | chars (set : CharSet)
  | seq (parts : List Pattern)
  | alt (branches : List Pattern)
  /-- A group that can be referred to by its number. -/
  | group (number : Nat) (body : Pattern)
  /-- At least `low` times, and at most `high` times if that is given; `greedy` prefers more rounds.
  -/
  | repeated (body : Pattern) (low : Nat) (high : Option Nat) (greedy : Bool)
  /-- The start of the text, or of a line. -/
  | start (ofLine : Bool)
  /-- The end of the text, or of a line. -/
  | stop (ofLine : Bool)
  /-- The edge of a word, or its absence. -/
  | edge (wanted : Bool)
  /-- The start or the end of a word. -/
  | wordEnd (first : Bool)
  /-- Whether the body matches from here on, or the contrary. -/
  | ahead (wanted : Bool) (body : Pattern)
  /-- Whether the body matches up to here, or the contrary. -/
  | behind (wanted : Bool) (body : Pattern)
  /-- The text that a group has matched. -/
  | back (number : Nat)
  /-- The first match of the body only. -/
  | once (body : Pattern)
  /-- Whether a group has matched. -/
  | known (number : Nat)
  /-- `yes` after the first match of `test`, or `no` if there is none. -/
  | choice (test yes no : Pattern)
  deriving Inhabited

namespace Pattern

mutual
/-- The least number of characters that a match takes. -/
def minWidth : Pattern → Nat
  | .chars _ => 1
  | .seq parts => minWidthSum parts
  | .alt branches => minWidthLeast branches
  | .group _ body => minWidth body
  | .repeated body low _ _ => minWidth body * low
  | .once body => minWidth body
  | .choice test yes no => minWidth test + min (minWidth yes) (minWidth no)
  | _ => 0

/-- The sum of the least widths. -/
def minWidthSum : List Pattern → Nat
  | [] => 0
  | p :: rest => minWidth p + minWidthSum rest

/-- The least of the least widths. -/
def minWidthLeast : List Pattern → Nat
  | [] => 0
  | [p] => minWidth p
  | p :: rest => min (minWidth p) (minWidthLeast rest)
end

mutual
/-- Whether all matches take the same number of characters. -/
def isFixed : Pattern → Bool
  | .seq parts => areFixed parts
  | .alt branches => areFixed branches && haveWidth (minWidthLeast branches) branches
  | .group _ body => isFixed body
  | .repeated body low high _ => isFixed body && high == some low
  | .once body => isFixed body
  | .choice test yes no =>
    isFixed test && isFixed yes && isFixed no
      && minWidth test + minWidth yes == minWidth no
  | .back _ => false
  | _ => true

/-- Whether each pattern takes always the same number of characters. -/
def areFixed : List Pattern → Bool
  | [] => true
  | p :: rest => isFixed p && areFixed rest

/-- Whether all patterns have a least width. -/
def haveWidth (width : Nat) : List Pattern → Bool
  | [] => true
  | p :: rest => minWidth p == width && haveWidth width rest
end

mutual
/-- The numbers of the groups that a pattern refers to. -/
def referred : Pattern → List Nat
  | .seq parts => referredIn parts
  | .alt branches => referredIn branches
  | .group _ body | .repeated body _ _ _ | .ahead _ body | .behind _ body | .once body =>
    referred body
  | .back number | .known number => [number]
  | .choice test yes no => referred test ++ referred yes ++ referred no
  | _ => []

/-- The numbers of the groups that patterns refer to. -/
def referredIn : List Pattern → List Nat
  | [] => []
  | p :: rest => referred p ++ referredIn rest
end

mutual
/-- Whether a pattern can be matched without trying again, if `targets` are the groups that are
referred to. -/
def isPlain (targets : List Nat) : Pattern → Bool
  | .seq parts => arePlain targets parts
  | .alt branches => arePlain targets branches
  | .group number body => !targets.contains number && isPlain targets body
  | .repeated body _ _ _ => isPlain targets body
  | .edge _ | .wordEnd _ | .ahead _ _ | .behind _ _ | .back _ | .once _ | .known _
  | .choice _ _ _ => false
  | _ => true

/-- Whether all patterns can be matched so. -/
def arePlain (targets : List Nat) : List Pattern → Bool
  | [] => true
  | p :: rest => isPlain targets p && arePlain targets rest
end

mutual
/-- How much room a plain pattern takes when it is compiled, in bytes: a count copies its body. -/
def room : Pattern → Nat
  | .chars set => set.room
  | .seq parts => roomAll parts
  | .alt branches => 32 + roomAll branches + 8 * branches.length
  | .group _ body => room body + 64
  | .repeated body low high _ =>
    match high with
    | none => room body * max low 1 + 72
    | some high => room body * high + 40 * (high - low) + 32
  | _ => 32

/-- How much room patterns take. -/
def roomAll : List Pattern → Nat
  | [] => 0
  | p :: rest => room p + roomAll rest
end

mutual
/-- Whether all counts of a plain pattern are in order and fit 32 bits. -/
def countsFit : Pattern → Bool
  | .seq parts => allCountsFit parts
  | .alt branches => allCountsFit branches
  | .group _ body => countsFit body
  | .repeated body low high _ =>
    countsFit body && decide (low < 2 ^ (32 : Nat))
      && (high.map fun high => decide (low ≤ high ∧ high < 2 ^ (32 : Nat))).getD true
  | _ => true

/-- Whether all counts of plain patterns do. -/
def allCountsFit : List Pattern → Bool
  | [] => true
  | p :: rest => countsFit p && allCountsFit rest
end

/-- The most room that a compiled plain pattern may take, in bytes. -/
def roomLimit : Nat := 10 * 2 ^ (20 : Nat)

/-- Whether plain patterns, one after the other, can be compiled. -/
def canCompile (parts : List Pattern) : Bool := allCountsFit parts && roomAll parts ≤ roomLimit

end Pattern

end ItemTable
