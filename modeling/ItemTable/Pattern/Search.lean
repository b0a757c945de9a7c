import ItemTable.Pattern.Ends
import ItemTable.Pattern.Plan

set_option autoImplicit false

/-! # Searching by a plan

A search tries a plan from each position of a text on. Each time it comes back to an earlier choice
counts, and a search that comes back too often is given up. -/

namespace ItemTable

namespace Plan

/-- Where a try is: its position, and what groups and marks are known. The start of group `n` is at
`2 * n`, its end at `2 * n + 1`. -/
structure Point where
  position : Nat
  slots : Array (Option Nat)
  deriving Inhabited

namespace Point

/-- The point with something known at a slot. -/
def save (point : Point) (slot value : Nat) : Point :=
  { point with slots := point.slots.setIfInBounds slot (some value) }

/-- What is known at a slot. -/
def get? (point : Point) (slot : Nat) : Option Nat := (point.slots[slot]?).join

end Point

/-- How a try ends; `used` counts how often it came back. -/
inductive Outcome
  | matched (point : Point) (used : Nat)
  | failed (used : Nat)
  | givenUp
  deriving Inhabited

/-- What is tried after a match. -/
abbrev Next := Point → Nat → Outcome

/-- How often a search may come back to an earlier choice. -/
def searchLimit : Nat := 1000000

/-- A second try where the first one fails. -/
def orElse (first : Outcome) (second : Nat → Outcome) : Outcome :=
  match first with
  | .failed used => if used < searchLimit then second (used + 1) else .givenUp
  | outcome => outcome

/-- Whether a part of a text stands at a position. -/
def standsAt (text : Array Char) (first last position : Nat) : Bool :=
  first ≤ last && position + (last - first) ≤ text.size
    && (List.range (last - first)).all fun i => text[first + i]? == text[position + i]?

/-- The rounds of a loop from round `round` on, where `body` tries one round. -/
def rounds (body : Point → Nat → Next → Outcome) (low : Nat) (high : Option Nat) (greedy : Bool)
    (mark : Option Nat) : Nat → Nat → Point → Nat → Next → Outcome
  | 0, _, _, used, _ => .failed used
  | fuel + 1, round, point, used, next =>
    if high = some round then next point used
    else if round ≠ 0 ∧ (mark.bind point.get?) = some point.position then .failed used
    else
      let another (point : Point) (used : Nat) : Outcome :=
        body point used fun point used =>
          rounds body low high greedy mark fuel (round + 1) point used next
      if round < low then another point used
      else
        let point :=
          match mark with
          | some slot => point.save slot point.position
          | none => point
        if greedy then orElse (another point used) (next point)
        else orElse (next point used) (another point)

mutual
/-- Tries a plan at a point, and what is next after each match until that succeeds. -/
def run (text : Array Char) : Plan → Point → Nat → Next → Outcome
  | .plain parts, point, used, next =>
    match Pattern.endsOfSeq text parts point.position with
    | [] => .failed used
    | position :: _ => next { point with position := position } used
  | .seq parts, point, used, next => runSeq text parts point used next
  | .alt branches, point, used, next => runAlt text branches point used next
  | .group number body, point, used, next =>
    run text body (point.save (2 * number) point.position) used fun point used =>
      next (point.save (2 * number + 1) point.position) used
  | .loop body low high greedy mark, point, used, next =>
    rounds (run text body) low high greedy mark
      (match high with
        | some high => high + 1
        | none => text.size + low + 2) 0 point used next
  | .ahead true body, point, used, next =>
    run text body point used fun after used =>
      next { after with position := point.position } used
  | .ahead false body, point, used, next =>
    match run text body point used .matched with
    | .matched _ used => .failed used
    | outcome => orElse outcome (next point)
  | .behind wanted width body, point, used, next =>
    if point.position < width then
      if wanted then .failed used else orElse (.failed used) (next point)
    else
      let before := { point with position := point.position - width }
      if wanted then
        run text body before used fun after used =>
          next { after with position := point.position } used
      else
        match run text body before used .matched with
        | .matched _ used => .failed used
        | outcome => orElse outcome (next point)
  | .back number, point, used, next =>
    match point.get? (2 * number), point.get? (2 * number + 1) with
    | some first, some last =>
      if standsAt text first last point.position then
        next { point with position := point.position + (last - first) } used
      else .failed used
    | _, _ => .failed used
  | .once body, point, used, next =>
    match run text body point used .matched with
    | .matched point used => next point used
    | outcome => outcome
  | .known number, point, used, next =>
    if (point.get? (2 * number)).isSome then next point used else .failed used
  | .choice test yes no, point, used, next =>
    match run text test point used .matched with
    | .matched point used => run text yes point used next
    | outcome => orElse outcome fun used => run text no point used next

/-- Tries plans one after the other. -/
def runSeq (text : Array Char) : List Plan → Point → Nat → Next → Outcome
  | [], point, used, next => next point used
  | plan :: rest, point, used, next =>
    run text plan point used fun point used => runSeq text rest point used next

/-- Tries each of several plans until one leads to success. -/
def runAlt (text : Array Char) : List Plan → Point → Nat → Next → Outcome
  | [], _, used, _ => .failed used
  | [plan], point, used, next => run text plan point used next
  | plan :: rest, point, used, next =>
    orElse (run text plan point used next) fun used => runAlt text rest point used next
end

/-- Tries a plan from `position` on and from the `left` positions after it. -/
def search (text : Array Char) (plan : Plan) (slots : Nat) : Nat → Nat → Nat → Outcome
  | left, position, used =>
    orElse (run text plan ⟨position, Array.replicate slots none⟩ used .matched) fun used =>
      match left with
      | 0 => .failed used
      | left + 1 => search text plan slots left (position + 1) used

end Plan

end ItemTable
