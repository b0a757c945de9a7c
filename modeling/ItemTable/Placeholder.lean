import ItemTable.Path

set_option autoImplicit false

/-! # Placeholders

Expressions name attributes and values by placeholders. The `i`-th placeholder is the `i`-th word
over the letters, by length and then alphabetically, starting with words of two letters. Attribute
names get theirs in the order in which they are first seen. -/

namespace ItemTable

-- Powers are those of core, whatever else is imported.
attribute [local instance (high)] instPowNat

namespace Placeholder

/-- The digits of `n` in base 26, exactly `width` of them. -/
def letters : Nat → Nat → List Nat
  | 0, _ => []
  | width + 1, n => letters width (n / 26) ++ [n % 26]

/-- The word of a rank among the words of at least `width` letters. A step takes away the words of
one length, so the rank bounds the steps. -/
def wordFrom : Nat → Nat → Nat → List Nat
  | 0, width, rank => letters width rank
  | fuel + 1, width, rank =>
    if rank < 26 ^ width then letters width rank
    else wordFrom fuel (width + 1) (rank - 26 ^ width)

/-- The word of a rank, as numbers of letters. -/
def word (rank : Nat) : List Nat := wordFrom rank 2 rank

/-- The word of a rank in lower case. -/
def lower (rank : Nat) : String := String.ofList ((word rank).map fun d => Char.ofNat (97 + d))

/-- The word of a rank in upper case. -/
def upper (rank : Nat) : String := String.ofList ((word rank).map fun d => Char.ofNat (65 + d))

/-- The placeholder of the value of a rank. -/
def value (rank : Nat) : String := ":" ++ lower rank

/-- The placeholder of the attribute name of a rank. -/
def name (rank : Nat) : String := "#" ++ upper rank

end Placeholder

/-- Attribute names in the order in which they were first seen. -/
structure Names where
  seen : List String
  deriving DecidableEq, Repr, Inhabited

namespace Names

/-- No names. -/
def empty : Names := ⟨[]⟩

/-- Sees a name: one that is known changes nothing. -/
def see (names : Names) (name : String) : Names :=
  if name ∈ names.seen then names else ⟨names.seen ++ [name]⟩

/-- Sees the names on paths. -/
def seePaths (names : Names) (paths : List Path) : Names :=
  (paths.flatMap Path.keys).foldl see names

/-- The placeholder of a name. -/
def placeholder (names : Names) (name : String) : String :=
  Placeholder.name (names.seen.idxOf name)

/-- A step of a reference. -/
def stepText (names : Names) (isFirst : Bool) : Step → String
  | .key name => (if isFirst then "" else ".") ++ names.placeholder name
  | .position index => "[" ++ Nat.repr index ++ "]"

/-- The reference to the end of a path: placeholders for keys, positions as they are. -/
def reference (names : Names) : Path → String
  | [] => ""
  | step :: rest => names.stepText true step ++ "".intercalate (rest.map (names.stepText false))

/-- The attribute name of each placeholder. -/
def table (names : Names) : Record String :=
  names.seen.mapIdx fun i name => (Placeholder.name i, name)

end Names

end ItemTable
