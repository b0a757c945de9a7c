import ItemTable.Pattern

set_option autoImplicit false

/-! # Plans

A pattern that is not plain is matched by a plan, which tries alternatives one after the other and
comes back to the latest choice when a try fails. Runs of plain parts are matched at once and are
never tried again: before the first other part those of fixed width, and after the last one those of
fixed width, or all if nothing can follow. `Plan.ofPattern?` is `none` where a look behind has no
fixed width or a plain part cannot be compiled. -/

namespace ItemTable

/-- How a pattern is matched. -/
inductive Plan
  /-- Plain patterns one after the other, by their first match. -/
  | plain (parts : List Pattern)
  | seq (parts : List Plan)
  | alt (branches : List Plan)
  | group (number : Nat) (body : Plan)
  /-- Rounds of the body; `mark` keeps where a round started, if rounds without a character have to
  be stopped. -/
  | loop (body : Plan) (low : Nat) (high : Option Nat) (greedy : Bool) (mark : Option Nat)
  | ahead (wanted : Bool) (body : Plan)
  /-- Whether the body matches the `width` characters before. -/
  | behind (wanted : Bool) (width : Nat) (body : Plan)
  | back (number : Nat)
  | once (body : Plan)
  | known (number : Nat)
  | choice (test yes no : Plan)
  deriving Inhabited

namespace Plan

/-- Plain patterns one after the other; none are no step. -/
def plain? (parts : List Pattern) (mark : Nat) : Option (List Plan × Nat) :=
  if parts.isEmpty then some ([], mark)
  else if Pattern.canCompile parts then some ([.plain parts], mark)
  else none

/-- How many of the parts, from the first on, are plain and of fixed width. -/
def fixedCount (targets : List Nat) (parts : List Pattern) : Nat :=
  (parts.takeWhile fun p => p.isFixed && p.isPlain targets).length

/-- How many of the parts, from the last on, are plain; and of fixed width, if something may follow.
-/
def suffixCount (targets : List Nat) (isFollowed : Bool) (parts : List Pattern) : Nat :=
  (parts.reverse.takeWhile fun p => (p.isFixed || !isFollowed) && p.isPlain targets).length

/-- How many parts are matched at once at the start of a sequence, and how many there are before
those that are matched at once at its end. -/
def bounds (targets : List Nat) (isFollowed : Bool) (parts : List Pattern) : Nat × Nat :=
  let first := fixedCount targets parts
  (first, parts.length - suffixCount targets isFollowed (parts.drop first))

mutual
/-- The plan of a pattern; `isFollowed` says that a later failure may come back to it. -/
def ofPattern? (targets : List Nat) (isFollowed : Bool) : Pattern → Nat → Option (Plan × Nat)
  | p, mark =>
    if !isFollowed && p.isPlain targets then
      (plain? [p] mark).map fun (steps, mark) => (.seq steps, mark)
    else
      match p with
      | .seq parts =>
        let (first, last) := bounds targets isFollowed parts
        (ofSeq? targets first last parts 0 mark).map fun (steps, mark) => (.seq steps, mark)
      | .alt branches =>
        (ofAlt? targets isFollowed branches mark).map fun (plans, mark) => (.alt plans, mark)
      | .group number body =>
        (ofPattern? targets isFollowed body mark).map fun (plan, mark) =>
          (.group number plan, mark)
      | .repeated body low high greedy =>
        let stops := high.isNone && body.minWidth == 0
        let optional := low == 0 && high == some 1
        (ofPattern? targets (isFollowed || !optional) body (if stops then mark + 1 else mark)).map
          fun (plan, next) => (.loop plan low high greedy (if stops then some mark else none), next)
      | .ahead wanted body =>
        (ofPattern? targets false body mark).map fun (plan, mark) => (.ahead wanted plan, mark)
      | .behind wanted body =>
        if body.isFixed then
          (ofPattern? targets false body mark).map fun (plan, mark) =>
            (.behind wanted body.minWidth plan, mark)
        else
          match body with
          | .alt branches =>
            (ofBehind? targets wanted branches mark).map fun (plans, mark) =>
              (if wanted then .alt plans else .seq plans, mark)
          | _ => none
      | .back number => some (.back number, mark)
      | .once body =>
        (ofPattern? targets false body mark).map fun (plan, mark) => (.once plan, mark)
      | .known number => some (.known number, mark)
      | .choice test yes no => do
        let (test, mark) ← ofPattern? targets isFollowed test mark
        let (yes, mark) ← ofPattern? targets isFollowed yes mark
        let (no, mark) ← ofPattern? targets isFollowed no mark
        some (.choice test yes no, mark)
      | p => (plain? [p] mark).map fun (steps, mark) => (.seq steps, mark)

/-- The steps of a sequence from the part at `position` on: the parts before `first` at once, those
from `last` on at once, and the others one by one. -/
def ofSeq? (targets : List Nat) (first last : Nat) :
    List Pattern → Nat → Nat → Option (List Plan × Nat)
  | [], _, mark => some ([], mark)
  | p :: rest, position, mark =>
    if position < first then
      if position = 0 then do
        let (here, mark) ← plain? ((p :: rest).take first) mark
        let (others, mark) ← ofSeq? targets first last rest (position + 1) mark
        some (here ++ others, mark)
      else ofSeq? targets first last rest (position + 1) mark
    else if position < last then do
      let (here, mark) ← ofPattern? targets true p mark
      let (others, mark) ← ofSeq? targets first last rest (position + 1) mark
      some (here :: others, mark)
    else plain? (p :: rest) mark

/-- The plans of alternatives. -/
def ofAlt? (targets : List Nat) (isFollowed : Bool) : List Pattern → Nat → Option (List Plan × Nat)
  | [], mark => some ([], mark)
  | p :: rest, mark => do
    let (here, mark) ← ofPattern? targets isFollowed p mark
    let (others, mark) ← ofAlt? targets isFollowed rest mark
    some (here :: others, mark)

/-- The plans of looks behind for each of several alternatives, all of fixed width. -/
def ofBehind? (targets : List Nat) (wanted : Bool) : List Pattern → Nat → Option (List Plan × Nat)
  | [], mark => some ([], mark)
  | p :: rest, mark =>
    if p.isFixed then do
      let (here, mark) ← ofPattern? targets false p mark
      let (others, mark) ← ofBehind? targets wanted rest mark
      some (.behind wanted p.minWidth here :: others, mark)
    else none
end

end Plan

end ItemTable
