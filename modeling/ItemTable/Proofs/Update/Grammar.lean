import ItemTable.Proofs.Expression.Tokens

set_option autoImplicit false

/-! # The grammar of update expressions

An update expression is a row of clauses. A clause has a keyword and actions with commas between
them, and the keyword decides what an action looks like:

* `set`: a reference, `=` and a value; or a reference, `=` and `list_append` of a reference and a
  value;
* `add` and `delete`: a reference and a value;
* `remove`: a reference.

A reference starts with the placeholder of a name; after it come names set off by points, and
positions in brackets. `UpdateGrammar.read` reads an expression by these rules alone, and
`UpdateGrammar.meaning?` looks its placeholders up. -/

namespace ItemTable

/-- One action of an update, with operands that are placeholders where it is written, and stored
values where it is meant. -/
inductive Instruction (α : Type)
  /-- Writes a value. -/
  | assign (target : Path) (operand : α)
  /-- Writes a list with another one after it. -/
  | append (target list : Path) (operand : α)
  /-- Adds elements to a set. -/
  | add (target : Path) (operand : α)
  /-- Takes an attribute or a list's entry away. -/
  | remove (target : Path)
  /-- Takes elements out of a set. -/
  | delete (target : Path) (operand : α)
  deriving DecidableEq, Repr

namespace Instruction

variable {α : Type}

/-- The references of an action. -/
def references : Instruction α → List Path
  | .assign target _ => [target]
  | .append target list _ => [target, list]
  | .add target _ => [target]
  | .remove target => [target]
  | .delete target _ => [target]

/-- The operand of an action that has one. -/
def operand? : Instruction α → Option α
  | .assign _ operand => some operand
  | .append _ _ operand => some operand
  | .add _ operand => some operand
  | .remove _ => none
  | .delete _ operand => some operand

end Instruction

namespace UpdateGrammar

/-- A keyword and the actions after it. -/
abbrev Clause (α : Type) : Type := UpdateMode × List (Instruction α)

/-! ## Reading -/

/-- The mode of a keyword, in letters of either case. -/
def mode? (word : String) : Option UpdateMode :=
  match word.toLower with
  | "set" => some .set
  | "add" => some .add
  | "remove" => some .remove
  | "delete" => some .delete
  | _ => none

/-- The number that digits spell. -/
def position? (word : String) : Option Nat :=
  if word.toList.all Char.isDigit then some (Nat.ofDigitChars 10 word.toList 0) else none

/-- The steps that tokens start with, and the tokens after them. -/
def steps : List Token → Path × List Token
  | .sign '.' :: .name placeholder :: rest =>
    let (path, rest) := steps rest
    (.key placeholder :: path, rest)
  | .sign '[' :: .word digits :: .sign ']' :: rest =>
    match position? digits with
    | none => ([], .sign '[' :: .word digits :: .sign ']' :: rest)
    | some index =>
      let (path, rest) := steps rest
      (.position index :: path, rest)
  | rest => ([], rest)

/-- The reference that tokens start with, and the tokens after it. -/
def reference? : List Token → Option (Path × List Token)
  | .name placeholder :: rest =>
    let (path, rest) := steps rest
    some (.key placeholder :: path, rest)
  | _ => none

/-- What a `set` action writes to its target, and the tokens after it. -/
def assignment? (target : Path) : List Token → Option (Instruction String × List Token)
  | .value operand :: rest => some (.assign target operand, rest)
  | .word "list_append" :: .sign '(' :: rest =>
    match reference? rest with
    | some (list, .sign ',' :: .value operand :: .sign ')' :: rest) =>
      some (.append target list operand, rest)
    | _ => none
  | _ => none

/-- The action of a clause that tokens start with, and the tokens after it. -/
def action? (mode : UpdateMode) (tokens : List Token) :
    Option (Instruction String × List Token) :=
  match reference? tokens with
  | none => none
  | some (target, rest) =>
    match mode, rest with
    | .set, .sign '=' :: rest => assignment? target rest
    | .add, .value operand :: rest => some (.add target operand, rest)
    | .delete, .value operand :: rest => some (.delete target operand, rest)
    | .remove, rest => some (.remove target, rest)
    | _, _ => none

/-- The actions of a clause, at most `fuel` of them, and the tokens after them. -/
def actions? (mode : UpdateMode) :
    Nat → List Token → Option (List (Instruction String) × List Token)
  | 0, _ => none
  | fuel + 1, tokens =>
    match action? mode tokens with
    | none => none
    | some (action, .sign ',' :: rest) =>
      (actions? mode fuel rest).map fun (actions, rest) => (action :: actions, rest)
    | some (action, rest) => some ([action], rest)

/-- The clauses that tokens make, none of more than `fuel` tokens in all. -/
def clauses? : Nat → List Token → Option (List (Clause String))
  | _, [] => some []
  | fuel + 1, .word word :: rest =>
    match mode? word with
    | none => none
    | some mode =>
      match actions? mode fuel rest with
      | none => none
      | some (actions, rest) => (clauses? fuel rest).map ((mode, actions) :: ·)
  | _, _ :: _ => none

/-- The clauses of an expression; every token is part of one. -/
def read (text : String) : Option (List (Clause String)) :=
  let tokens := Token.read text
  clauses? tokens.length tokens

/-! ## Meaning -/

/-- The path that a reference leads along. -/
def path? (names : Record String) (reference : Path) : Option Path :=
  reference.mapM fun
    | .key placeholder => (names.get? placeholder).map .key
    | .position index => some (.position index)

/-- What an action does. -/
def instruction? (names : Record String) (values : Item) :
    Instruction String → Option (Instruction StoreValue)
  | .assign target operand => do
    some (.assign (← path? names target) (← values.get? operand))
  | .append target list operand => do
    some (.append (← path? names target) (← path? names list) (← values.get? operand))
  | .add target operand => do
    some (.add (← path? names target) (← values.get? operand))
  | .remove target => do some (.remove (← path? names target))
  | .delete target operand => do
    some (.delete (← path? names target) (← values.get? operand))

/-- What clauses do, each with its actions in order. -/
def meaning? (names : Record String) (values : Item) (clauses : List (Clause String)) :
    Option (List (Clause StoreValue)) :=
  clauses.mapM fun (mode, actions) =>
    (actions.mapM (instruction? names values)).map fun actions => (mode, actions)

/-! ## Placeholders -/

/-- The operands of clauses, in order. -/
def operands {α : Type} (clauses : List (Clause α)) : List α :=
  clauses.flatMap fun clause => clause.2.filterMap (·.operand?)

/-- The names in the references of clauses, in order. -/
def referenced {α : Type} (clauses : List (Clause α)) : List String :=
  clauses.flatMap fun clause => clause.2.flatMap fun action => Names.onPaths action.references

/-! ## Reading back what is written -/

theorem position?_repr (index : Nat) : position? (Nat.repr index) = some index := by
  have hdigits : (Nat.toDigits 10 index).all Char.isDigit = true :=
    List.all_eq_true.2 fun _ hc => Nat.isDigit_of_mem_toDigits (by decide) (by decide) hc
  rw [position?, Nat.toList_repr, if_pos hdigits, Nat.ofDigitChars_ten_toDigits]

/-- A reference ends before these tokens. -/
def EndsReference (tokens : List Token) : Prop :=
  tokens.head? ≠ some (.sign '.') ∧ tokens.head? ≠ some (.sign '[')

theorem steps_of_ends {tokens : List Token} (h : EndsReference tokens) :
    steps tokens = ([], tokens) := by
  unfold steps
  split
  · exact absurd rfl h.1
  · exact absurd rfl h.2
  · rfl

theorem steps_append {rest : List Token} (h : EndsReference rest) (path : Path) :
    steps (path.flatMap Token.ofStep ++ rest) = (path, rest) := by
  induction path with
  | nil => exact steps_of_ends h
  | cons step path ih =>
    cases step with
    | key placeholder =>
      have hsteps : steps ((Step.key placeholder :: path).flatMap Token.ofStep ++ rest)
          = (.key placeholder :: (steps (path.flatMap Token.ofStep ++ rest)).1,
            (steps (path.flatMap Token.ofStep ++ rest)).2) := rfl
      rw [hsteps, ih]
    | position index =>
      have htokens : (Step.position index :: path).flatMap Token.ofStep ++ rest
          = .sign '[' :: .word (Nat.repr index) :: .sign ']'
            :: (path.flatMap Token.ofStep ++ rest) := rfl
      simp only [htokens, steps, position?_repr, ih]

theorem reference?_append {rest : List Token} (h : EndsReference rest) (placeholder : String)
    (path : Path) :
    reference? (Token.ofReference (.key placeholder :: path) ++ rest)
      = some (.key placeholder :: path, rest) := by
  have htokens : Token.ofReference (.key placeholder :: path) ++ rest
      = .name placeholder :: (path.flatMap Token.ofStep ++ rest) := rfl
  rw [htokens, reference?, steps_append h]

end UpdateGrammar

end ItemTable
