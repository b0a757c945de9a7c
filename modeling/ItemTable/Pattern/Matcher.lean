import ItemTable.Pattern.Portable
import ItemTable.Pattern.Reader
import ItemTable.Pattern.Search

set_option autoImplicit false

/-! # Matchers

A matcher is what a schema's pattern becomes: the text as it is searched for, and a plain pattern or
the plan of another one. Patterns are found anywhere in a text. -/

namespace ItemTable

/-- How a text is searched. -/
inductive Matcher.Method
  | plain (pattern : Pattern)
  /-- By a plan, which knows so many groups and marks. -/
  | planned (plan : Plan) (slots : Nat)

/-- A pattern that is ready for searches. -/
structure Matcher where
  /-- The text of the pattern as messages show it. -/
  shown : String
  method : Matcher.Method

namespace Matcher

/-- What a search says. -/
inductive Verdict
  | found
  | absent
  /-- The search came back to earlier choices too often. -/
  | givenUp
  deriving DecidableEq, Repr

/-- The method for a pattern with a number of groups, if it can be compiled. -/
def Method.ofPattern? (pattern : Pattern) (groups : Nat) : Option Method :=
  let targets := pattern.referred
  if pattern.isPlain targets then
    if Pattern.canCompile [pattern] then some (.plain pattern) else none
  else
    (Plan.ofPattern? targets true pattern (2 * groups + 2)).map fun (plan, slots) =>
      .planned plan slots

/-- The matcher of a text, if it is a pattern. -/
def ofText? (text : String) : Option Matcher := do
  let shown ← Pattern.spellOut? text
  let (pattern, groups) ← Pattern.read? shown
  let method ← Method.ofPattern? pattern groups
  some ⟨shown, method⟩

/-- Searches a text. -/
def search (matcher : Matcher) (text : String) : Verdict :=
  let text := text.toList.toArray
  match matcher.method with
  | .plain pattern =>
    if (List.range (text.size + 1)).any fun i => !(pattern.ends text i).isEmpty then .found
    else .absent
  | .planned plan slots =>
    match plan.search text slots text.size 0 0 with
    | .matched _ _ => .found
    | .failed _ => .absent
    | .givenUp => .givenUp

/-- Whether a text is a pattern that is found in another text. -/
def isFound (pattern text : String) : Bool :=
  match ofText? pattern with
  | some matcher => matcher.search text == .found
  | none => false

end Matcher

end ItemTable
