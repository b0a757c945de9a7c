import ItemTable.Pattern
import Std.Data.HashSet

set_option autoImplicit false

/-! # Ends of matches

`Pattern.ends` gives the positions at which a match of a plain pattern that starts at a given
position may end, those of preferred matches first and each once. A repetition visits each position
at most once, or once in each round where rounds are counted, so no pattern takes long. -/

namespace ItemTable

namespace Pattern

/-- Positions in order, and which ones they are. -/
structure Positions where
  /-- The positions, latest first. -/
  found : List Nat
  isFound : Array Bool

namespace Positions

/-- No positions in a text of a size. -/
def none (size : Nat) : Positions := ⟨[], Array.replicate (size + 1) false⟩

/-- The positions with one more, unless it is there already. -/
def add (positions : Positions) (i : Nat) : Positions :=
  if positions.isFound.getD i true then positions
  else ⟨i :: positions.found, positions.isFound.setIfInBounds i true⟩

/-- The positions in order. -/
def toList (positions : Positions) : List Nat := positions.found.reverse

end Positions

/-- Positions in order, each at its first place. -/
def eachOnce (size : Nat) (positions : List Nat) : List Nat :=
  (positions.foldl Positions.add (.none size)).toList

/-- Where a second step ends after a first one, each position once. -/
def gather (size : Nat) (from_ : List Nat) (step : Nat → List Nat) : List Nat :=
  match from_ with
  | [] => []
  | [i] => step i
  | from_ =>
    (from_.foldl (fun found i => (step i).foldl Positions.add found) (.none size)).toList

/-- Where exactly `count` steps end. -/
def rounds (size : Nat) (step : Nat → List Nat) : Nat → List Nat → List Nat
  | 0, from_ => from_
  | count + 1, from_ =>
    match gather size from_ step with
    | [] => []
    | next => rounds size step count next

/-- What a repetition without bound has visited: where rounds started, where they ended, and the
ends in order. -/
structure Sweep where
  started : Array Bool
  ended : Array Bool
  /-- The ends, latest first. -/
  found : List Nat

/-- All ends of at least one step from a position on. A greedy repetition lists the ends of further
rounds before the end of a round. -/
def sweep (step : Nat → List Nat) (greedy : Bool) : Nat → Nat → Sweep → Sweep
  | 0, _, s => s
  | fuel + 1, i, s =>
    (step i).foldl (fun s j =>
      if s.ended.getD j true then s
      else
        let s := { s with ended := s.ended.setIfInBounds j true }
        let further (s : Sweep) : Sweep :=
          if s.started.getD j true then s
          else sweep step greedy fuel j { s with started := s.started.setIfInBounds j true }
        if greedy then
          let s := further s
          { s with found := j :: s.found }
        else further { s with found := j :: s.found }) s

/-- Where one step or more end. -/
def oneOrMore (size : Nat) (step : Nat → List Nat) (greedy : Bool) (i : Nat) : List Nat :=
  let nothing := Array.replicate (size + 1) false
  (sweep step greedy (size + 1) i ⟨nothing.setIfInBounds i true, nothing, []⟩).found.reverse

/-- Where no step or at most `count` steps end; `seen` has the positions visited with a number of
steps left, each as one number. -/
def atMost (size : Nat) (step : Nat → List Nat) (greedy : Bool) :
    Nat → Nat → Std.HashSet Nat × Positions → Std.HashSet Nat × Positions
  | 0, i, (seen, found) => (seen, found.add i)
  | count + 1, i, (seen, found) =>
    let visit := (count + 1) * (size + 1) + i
    if seen.contains visit then (seen, found)
    else
      let seen := seen.insert visit
      if greedy then
        let (seen, found) :=
          (step i).foldl (fun state j => atMost size step greedy count j state) (seen, found)
        (seen, found.add i)
      else
        (step i).foldl (fun state j => atMost size step greedy count j state) (seen, found.add i)

/-- Where the rounds of a repetition end. -/
def repeatEnds (size : Nat) (step : Nat → List Nat) (low : Nat) (high : Option Nat) (greedy : Bool)
    (i : Nat) : List Nat :=
  match high with
  | some high =>
    gather size (rounds size step low [i]) fun j =>
      (atMost size step greedy (high - low) j (∅, .none size)).2.toList
  | none =>
    if low = 0 then
      let further := oneOrMore size step greedy i
      eachOnce size (if greedy then further ++ [i] else i :: further)
    else gather size (rounds size step (low - 1) [i]) (oneOrMore size step greedy)

/-- Whether the character at a position is part of a word. -/
def isWordAt (text : Array Char) (i : Nat) : Bool := ((text[i]?).map CharSet.isWord).getD false

/-- Whether the character before a position is part of a word. -/
def isWordBefore (text : Array Char) (i : Nat) : Bool := i != 0 && isWordAt text (i - 1)

/-- The position itself, if a condition holds there. -/
def here (holds : Bool) (i : Nat) : List Nat := if holds then [i] else []

mutual
/-- Where a match from position `i` may end. Patterns that are not plain and more than places have
no ends. -/
def ends (text : Array Char) : Pattern → Nat → List Nat
  | .empty, i => [i]
  | .chars set, i =>
    match text[i]? with
    | some c => if set.mem c then [i + 1] else []
    | none => []
  | .seq parts, i => endsOfSeq text parts i
  | .alt branches, i => eachOnce text.size (endsOfAlt text branches i)
  | .group _ body, i => ends text body i
  | .repeated body low high greedy, i =>
    repeatEnds text.size (ends text body) low high greedy i
  | .start ofLine, i => here (i == 0 || (ofLine && text[i - 1]? == some '\n')) i
  | .stop ofLine, i => here (i == text.size || (ofLine && text[i]? == some '\n')) i
  | .edge wanted, i => here ((isWordBefore text i != isWordAt text i) == wanted) i
  | .wordEnd first, i =>
    here (isWordBefore text i == !first && isWordAt text i == first) i
  | _, _ => []

/-- Where a match of patterns one after the other may end. -/
def endsOfSeq (text : Array Char) : List Pattern → Nat → List Nat
  | [], i => [i]
  | p :: rest, i => gather text.size (ends text p i) (endsOfSeq text rest)

/-- Where a match of one of several patterns may end. -/
def endsOfAlt (text : Array Char) : List Pattern → Nat → List Nat
  | [], _ => []
  | p :: rest, i => ends text p i ++ endsOfAlt text rest i
end

end Pattern

end ItemTable
