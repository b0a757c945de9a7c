import ItemTable.Expression
import ItemTable.StoreValue.Convert

set_option autoImplicit false

/-! # Conditions

A condition tests top-level attributes of an item, and all of its tests have to hold. In its
expression the distinct attributes are `#n0`, `#n1`, … and the operands `:v0`, `:v1`, …, both in the
order in which they come. -/

namespace ItemTable

/-- How two values compare. -/
inductive Comparison
  | eq
  | ne
  | lt
  | le
  | gt
  | ge
  deriving DecidableEq, Repr

/-- The sign of a comparison. -/
def Comparison.sign : Comparison → String
  | .eq => "="
  | .ne => "<>"
  | .lt => "<"
  | .le => "<="
  | .gt => ">"
  | .ge => ">="

/-- A test of one attribute. -/
inductive Test
  | compare (comparison : Comparison) (value : Json)
  /-- From the first value to the second, both included. -/
  | between (low high : Json)
  | beginsWith (start : String)
  | contains (value : Json)
  | among (values : List Json)
  | present
  | absent

namespace Test

/-- The stored forms of the test's operands, in order. -/
def operands : Test → List StoreValue
  | .compare _ value => [.ofJson value]
  | .between low high => [.ofJson low, .ofJson high]
  | .beginsWith start => [.string start]
  | .contains value => [.ofJson value]
  | .among values => values.map .ofJson
  | .present => []
  | .absent => []

/-- The test of `subject` with placeholders for its operands, numbered from `first`. -/
def text (test : Test) (subject : String) (first : Nat) : String :=
  let operand (i : Nat) : String := ":v" ++ Nat.repr (first + i)
  match test with
  | .compare comparison _ => subject ++ " " ++ comparison.sign ++ " " ++ operand 0
  | .between _ _ => subject ++ " BETWEEN " ++ operand 0 ++ " AND " ++ operand 1
  | .beginsWith _ => "begins_with(" ++ subject ++ ", " ++ operand 0 ++ ")"
  | .contains _ => "contains(" ++ subject ++ ", " ++ operand 0 ++ ")"
  | .among values =>
    subject ++ " IN (" ++ ", ".intercalate ((List.range values.length).map operand) ++ ")"
  | .present => "attribute_exists(" ++ subject ++ ")"
  | .absent => "attribute_not_exists(" ++ subject ++ ")"

end Test

/-- A test and the name of the attribute it is about. -/
structure AttributeTest where
  subject : String
  test : Test

/-- Tests that all have to hold. -/
abbrev Condition := List AttributeTest

namespace Condition

/-- What stands between two conditions that both have to hold. -/
def conjunction : String := " and "

/-- The attributes of a condition, each at its first place. -/
def attributes (tests : Condition) : List String :=
  distinct (tests.map (·.subject))

/-- The placeholder of the attribute with a number. -/
def attributePlaceholder (i : Nat) : String := "#n" ++ Nat.repr i

/-- The texts of tests, the operands numbered from `first`. -/
def texts (attributes : List String) : Nat → Condition → List String
  | _, [] => []
  | first, t :: rest =>
    t.test.text (attributePlaceholder (attributes.idxOf t.subject)) first
      :: texts attributes (first + t.test.operands.length) rest

/-- The expression of a condition. -/
def compile (tests : Condition) : Expression :=
  let attributes := attributes tests
  { text := conjunction.intercalate (texts attributes 0 tests)
    names := attributes.mapIdx fun i name => (attributePlaceholder i, name)
    values := (tests.flatMap (·.test.operands)).mapIdx fun i v => (":v" ++ Nat.repr i, v) }

/-- The expression of a condition that tests something. -/
def compile? (tests : Condition) : Option Expression :=
  if tests.isEmpty then none else some (compile tests)

/-- The guards on paths that have to exist and on paths that have to be missing, and then the
caller's condition; `none` if there is nothing to check. The paths' names belong to the expression
that they guard. -/
def guarded (existing missing : List Path) (names : Names) (direct : Option Expression) :
    Option Expression :=
  let guards := existing.map (fun p => Test.present.text (names.reference p) 0)
    ++ missing.map (fun p => Test.absent.text (names.reference p) 0)
  let whole := Expression.join conjunction (.ofText (conjunction.intercalate guards))
    (direct.getD (.ofText ""))
  if whole.text = "" then none else some whole

end Condition

end ItemTable
