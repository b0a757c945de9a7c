import ItemTable.Condition
import ItemTable.Proofs.Update.Grammar

set_option autoImplicit false

/-! # The grammar of condition expressions

A condition expression is made of tests with `or`, `and` and `not`, of which `not` binds tightest
and `or` loosest, and of parentheses. A test compares operands, asks whether an operand is between
two others or among some, or calls a function of a reference. An operand is a reference, the
placeholder of a value, or the `size` of a reference. Keywords are in letters of either case, names
of functions are not. `ConditionGrammar.read` reads an expression by these rules alone, and
`Formula.meaning?` looks its placeholders up. -/

namespace ItemTable

/-- What a test is about, with values that are placeholders where it is written, and stored values
where it is meant. -/
inductive Operand (α : Type)
  | reference (path : Path)
  | constant (value : α)
  | size (path : Path)

/-- What a condition says. -/
inductive Formula (α : Type)
  | compare (comparison : Comparison) (left right : Operand α)
  /-- From the first value to the second, both included. -/
  | between (subject low high : Operand α)
  | among (subject : Operand α) (values : List (Operand α))
  | present (path : Path)
  | absent (path : Path)
  | ofType (path : Path) (name : Operand α)
  | beginsWith (path : Path) (start : Operand α)
  | contains (path : Path) (value : Operand α)
  | both (left right : Formula α)
  | either (left right : Formula α)
  | not (inner : Formula α)

namespace ConditionGrammar

open UpdateGrammar (reference?)

/-! ## Reading -/

/-- Takes a sign off. -/
def sign? (c : Char) : List Token → Option (List Token)
  | .sign d :: rest => if d = c then some rest else none
  | _ => none

/-- Takes a keyword off, in letters of either case. -/
def keyword? (keyword : String) : List Token → Option (List Token)
  | .word word :: rest => if word.toLower = keyword then some rest else none
  | _ => none

/-- Takes the name of a function and the parenthesis after it off. -/
def call? (name : String) : List Token → Option (List Token)
  | .word word :: .sign '(' :: rest => if word = name then some rest else none
  | _ => none

/-- The operand that tokens start with, and the tokens after it. -/
def operand? : List Token → Option (Operand String × List Token)
  | .value placeholder :: rest => some (.constant placeholder, rest)
  | .word word :: rest => do
    let rest ← call? "size" (.word word :: rest)
    let (path, rest) ← reference? rest
    let rest ← sign? ')' rest
    some (.size path, rest)
  | tokens => do
    let (path, rest) ← reference? tokens
    some (.reference path, rest)

/-- The operands with commas between them that tokens start with, at most `fuel`, and the tokens
after them. -/
def operands? : Nat → List Token → Option (List (Operand String) × List Token)
  | 0, _ => none
  | fuel + 1, tokens => do
    let (first, rest) ← operand? tokens
    match sign? ',' rest with
    | none => some ([first], rest)
    | some rest =>
      let (more, rest) ← operands? fuel rest
      some (first :: more, rest)

/-- The sign of a comparison that tokens start with, and the tokens after it. -/
def comparison? : List Token → Option (Comparison × List Token)
  | .sign '=' :: rest => some (.eq, rest)
  | .sign '<' :: .sign '>' :: rest => some (.ne, rest)
  | .sign '<' :: .sign '=' :: rest => some (.le, rest)
  | .sign '<' :: rest => some (.lt, rest)
  | .sign '>' :: .sign '=' :: rest => some (.ge, rest)
  | .sign '>' :: rest => some (.gt, rest)
  | _ => none

/-- A comparison of two operands. -/
def compare? (tokens : List Token) : Option (Formula String × List Token) := do
  let (left, rest) ← operand? tokens
  let (comparison, rest) ← comparison? rest
  let (right, rest) ← operand? rest
  some (.compare comparison left right, rest)

/-- An operand between two others; the `and` belongs to the test. -/
def between? (tokens : List Token) : Option (Formula String × List Token) := do
  let (subject, rest) ← operand? tokens
  let rest ← keyword? "between" rest
  let (low, rest) ← operand? rest
  let rest ← keyword? "and" rest
  let (high, rest) ← operand? rest
  some (.between subject low high, rest)

/-- The operands up to the parenthesis that closes; there may be none. -/
def list? (tokens : List Token) : Option (List (Operand String) × List Token) :=
  match sign? ')' tokens with
  | some rest => some ([], rest)
  | none => do
    let (values, rest) ← operands? tokens.length tokens
    let rest ← sign? ')' rest
    some (values, rest)

/-- An operand among others. -/
def among? (tokens : List Token) : Option (Formula String × List Token) := do
  let (subject, rest) ← operand? tokens
  let rest ← keyword? "in" rest
  let rest ← sign? '(' rest
  let (values, rest) ← list? rest
  some (.among subject values, rest)

/-- A function of a reference. -/
def ofPath? (name : String) (test : Path → Formula String) (tokens : List Token) :
    Option (Formula String × List Token) := do
  let rest ← call? name tokens
  let (path, rest) ← reference? rest
  let rest ← sign? ')' rest
  some (test path, rest)

/-- A function of a reference and an operand. -/
def ofOperand? (name : String) (test : Path → Operand String → Formula String)
    (tokens : List Token) : Option (Formula String × List Token) := do
  let rest ← call? name tokens
  let (path, rest) ← reference? rest
  let rest ← sign? ',' rest
  let (operand, rest) ← operand? rest
  let rest ← sign? ')' rest
  some (test path operand, rest)

/-- The test that tokens start with, and the tokens after it. -/
def test? (tokens : List Token) : Option (Formula String × List Token) :=
  compare? tokens
    <|> between? tokens
    <|> among? tokens
    <|> ofPath? "attribute_exists" .present tokens
    <|> ofPath? "attribute_not_exists" .absent tokens
    <|> ofOperand? "attribute_type" .ofType tokens
    <|> ofOperand? "begins_with" .beginsWith tokens
    <|> ofOperand? "contains" .contains tokens

mutual

/-- The condition that tokens start with, and the tokens after it. -/
def condition? : Nat → List Token → Option (Formula String × List Token)
  | 0, _ => none
  | fuel + 1, tokens => do
    let (left, rest) ← conjunction? fuel tokens
    match keyword? "or" rest with
    | none => some (left, rest)
    | some rest =>
      let (right, rest) ← condition? fuel rest
      some (.either left right, rest)

/-- The condition without an outer `or` that tokens start with, and the tokens after it. -/
def conjunction? : Nat → List Token → Option (Formula String × List Token)
  | 0, _ => none
  | fuel + 1, tokens => do
    let (left, rest) ← part? fuel tokens
    match keyword? "and" rest with
    | none => some (left, rest)
    | some rest =>
      let (right, rest) ← conjunction? fuel rest
      some (.both left right, rest)

/-- The condition without an outer `or` or `and` that tokens start with, and the tokens after it. -/
def part? : Nat → List Token → Option (Formula String × List Token)
  | 0, _ => none
  | fuel + 1, tokens =>
    match keyword? "not" tokens, sign? '(' tokens with
    | some rest, _ => do
      let (inner, rest) ← part? fuel rest
      some (.not inner, rest)
    | none, some rest => do
      let (inner, rest) ← condition? fuel rest
      let rest ← sign? ')' rest
      some (inner, rest)
    | none, none => test? tokens

end

/-- The condition that an expression spells; every token is part of it. A parenthesis takes three
steps, one for each rule. -/
def read (text : String) : Option (Formula String) :=
  let tokens := Token.read text
  match condition? (3 * tokens.length) tokens with
  | some (formula, []) => some formula
  | _ => none

end ConditionGrammar

/-! ## Meaning -/

open UpdateGrammar (path?)

/-- What an operand stands for. -/
def Operand.meaning? (names : Record String) (values : Item) :
    Operand String → Option (Operand StoreValue)
  | .reference path => (path? names path).map .reference
  | .constant placeholder => (values.get? placeholder).map .constant
  | .size path => (path? names path).map .size

namespace Operand

variable {α : Type}

/-- The reference of an operand that has one. -/
def reference? : Operand α → Option Path
  | .reference path => some path
  | .constant _ => none
  | .size path => some path

def value? : Operand α → Option α
  | .reference _ => none
  | .constant value => some value
  | .size _ => none

end Operand

namespace Formula

/-- What a condition says of the attributes and values that its placeholders stand for. -/
def meaning? (names : Record String) (values : Item) :
    Formula String → Option (Formula StoreValue)
  | .compare comparison left right => do
    some (.compare comparison (← left.meaning? names values) (← right.meaning? names values))
  | .between subject low high => do
    some (.between (← subject.meaning? names values) (← low.meaning? names values)
      (← high.meaning? names values))
  | .among subject operands => do
    some (.among (← subject.meaning? names values) (← operands.mapM (·.meaning? names values)))
  | .present path => do some (.present (← path? names path))
  | .absent path => do some (.absent (← path? names path))
  | .ofType path name => do
    some (.ofType (← path? names path) (← name.meaning? names values))
  | .beginsWith path start => do
    some (.beginsWith (← path? names path) (← start.meaning? names values))
  | .contains path value => do
    some (.contains (← path? names path) (← value.meaning? names values))
  | .both left right => do
    some (.both (← left.meaning? names values) (← right.meaning? names values))
  | .either left right => do
    some (.either (← left.meaning? names values) (← right.meaning? names values))
  | .not inner => do some (.not (← inner.meaning? names values))

variable {α : Type}

/-- The references and values of a condition, in the order in which they are written. -/
def operands : Formula α → List (Operand α)
  | .compare _ left right => [left, right]
  | .between subject low high => [subject, low, high]
  | .among subject values => subject :: values
  | .present path => [.reference path]
  | .absent path => [.reference path]
  | .ofType path name => [.reference path, name]
  | .beginsWith path start => [.reference path, start]
  | .contains path value => [.reference path, value]
  | .both left right => left.operands ++ right.operands
  | .either left right => left.operands ++ right.operands
  | .not inner => inner.operands

/-- The names in the references of a condition, in order. -/
def names (formula : Formula α) : List String :=
  Names.onPaths (formula.operands.filterMap (·.reference?))

/-- The values of a condition, in order. -/
def values (formula : Formula α) : List α := formula.operands.filterMap (·.value?)

/-- Conditions that all have to hold, in order. -/
def conjunction : List (Formula α) → Option (Formula α)
  | [] => none
  | [formula] => some formula
  | formula :: rest => (conjunction rest).map (.both formula)

end Formula

end ItemTable
