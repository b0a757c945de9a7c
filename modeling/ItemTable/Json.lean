import ItemTable.Number
import ItemTable.Record

set_option autoImplicit false

/-! # Documents

A `Json` is a JSON document whose objects remember the order of their members and whose numbers keep
integers and floats apart. Schemas, items on the caller's side and bodies of messages are documents.
-/

namespace ItemTable

/-- A JSON document. -/
inductive Json
  | null
  | bool (b : Bool)
  | number (n : Number)
  | string (s : String)
  | array (elements : List Json)
  | object (members : List (String × Json))
  deriving Inhabited

namespace Json

/-- An integer document; zero if the integer fits no 64-bit word. -/
def ofInt (i : Int) : Json := .number (.int ((WordInt.ofInt? i).getD default))

/-- A natural number as a document. -/
def ofNat (n : Nat) : Json := ofInt n

/-- An array of strings. -/
def strings (ss : List String) : Json := .array (ss.map .string)

/-- A document, `null` for none. -/
def orNull (value : Option Json) : Json := value.getD .null

/-- The member of an object; nothing else has members. -/
def member? : Json → String → Option Json
  | .object members, name => Record.get? members name
  | _, _ => none

/-- The element of an array. -/
def element? : Json → Nat → Option Json
  | .array elements, position => elements[position]?
  | _, _ => none

/-- The text of a string. -/
def string? : Json → Option String
  | .string s => some s
  | _ => none

/-- The elements of an array. -/
def array? : Json → Option (List Json)
  | .array elements => some elements
  | _ => none

/-- The members of an object. -/
def object? : Json → Option (Record Json)
  | .object members => some members
  | _ => none

/-- The truth value of a document that is one. -/
def bool? : Json → Option Bool
  | .bool b => some b
  | _ => none

/-- The integer of a document that is one. -/
def int? : Json → Option Int
  | .number (.int i) => some i.val
  | _ => none

/-- Whether the document is `null`. -/
def isNull : Json → Bool
  | .null => true
  | _ => false

/-- Whether the document is an object. -/
def isObject : Json → Bool
  | .object _ => true
  | _ => false

/-- Whether the document is an array. -/
def isArray : Json → Bool
  | .array _ => true
  | _ => false

/-- The strings among the elements of an array; anything else has none. -/
def stringElements (value : Json) : List String :=
  (value.array?.getD []).filterMap string?

section

variable (sameNumber : Number → Number → Bool)

mutual
/-- Equality up to an equality of numbers; the order of members does not count. -/
def sameBy : Json → Json → Bool
  | .null, .null => true
  | .bool a, .bool b => a == b
  | .number a, .number b => sameNumber a b
  | .string a, .string b => a == b
  | .array xs, .array ys => sameElements xs ys
  | .object xs, .object ys => xs.length == ys.length && sameMembers xs ys
  | _, _ => false

/-- Element by element equality. -/
def sameElements : List Json → List Json → Bool
  | [], [] => true
  | x :: xs, y :: ys => sameBy x y && sameElements xs ys
  | _, _ => false

/-- Whether `others` has a member of the same name and an equal value for each of the members. -/
def sameMembers : List (String × Json) → List (String × Json) → Bool
  | [], _ => true
  | (name, x) :: xs, others =>
    (match Record.get? others name with
      | some y => sameBy x y
      | none => false) && sameMembers xs others
end

end

/-- Equality by value: numbers compare as numbers, so `1` equals `1.0`. -/
def sameValue : Json → Json → Bool := sameBy fun a b => a.compare b == .eq

/-- Equality by form and value: `1` differs from `1.0`, but `0.0` equals `-0.0`. -/
def sameForm : Json → Json → Bool := sameBy Number.sameForm

mutual
/-- The depth of nesting: zero for a scalar. -/
def depth : Json → Nat
  | .array elements => elementsDepth elements + 1
  | .object members => membersDepth members + 1
  | _ => 0

/-- The greatest depth of the elements. -/
def elementsDepth : List Json → Nat
  | [] => 0
  | x :: xs => max (depth x) (elementsDepth xs)

/-- The greatest depth of the members' values. -/
def membersDepth : List (String × Json) → Nat
  | [] => 0
  | (_, x) :: xs => max (depth x) (membersDepth xs)
end

mutual
/-- The number of documents inside the document, itself included. -/
def size : Json → Nat
  | .array elements => elementsSize elements + 1
  | .object members => membersSize members + 1
  | _ => 1

/-- The sum of the elements' sizes. -/
def elementsSize : List Json → Nat
  | [] => 0
  | x :: xs => size x + elementsSize xs

/-- The sum of the sizes of the members' values. -/
def membersSize : List (String × Json) → Nat
  | [] => 0
  | (_, x) :: xs => size x + membersSize xs
end

end Json

end ItemTable
