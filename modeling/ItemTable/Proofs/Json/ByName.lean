import ItemTable.Proofs.Json.Parts
import ItemTable.Proofs.Record

set_option autoImplicit false

/-! # Documents up to the order of members

Two documents are rearranged if they differ only in the order of members, at any depth. The store
keeps no order, so what is read back has its members by name: `Json.byName` is that arrangement of a
document. -/

namespace ItemTable

namespace Json

mutual
/-- Documents that differ only in the order of members. -/
inductive Rearranged : Json → Json → Prop
  | same (value : Json) : Rearranged value value
  | array {xs ys : List Json} : ElementsRearranged xs ys → Rearranged (.array xs) (.array ys)
  | object {xs ys zs : List (String × Json)} :
    MembersRearranged xs ys → ys.Perm zs → Rearranged (.object xs) (.object zs)

/-- Elements that differ, place by place, only in the order of members. -/
inductive ElementsRearranged : List Json → List Json → Prop
  | nil : ElementsRearranged [] []
  | cons {x y : Json} {xs ys : List Json} :
    Rearranged x y → ElementsRearranged xs ys → ElementsRearranged (x :: xs) (y :: ys)

/-- Members of the same names in the same order, whose values differ only in the order of members.
-/
inductive MembersRearranged : List (String × Json) → List (String × Json) → Prop
  | nil : MembersRearranged [] []
  | cons (name : String) {x y : Json} {xs ys : List (String × Json)} :
    Rearranged x y → MembersRearranged xs ys → MembersRearranged ((name, x) :: xs) ((name, y) :: ys)
end

mutual
/-- A document with the members of all objects by name. -/
def byName : Json → Json
  | .array elements => .array (elementsByName elements)
  | .object members => .object (Record.sort (membersByName members))
  | other => other

/-- Elements, each with its members by name. -/
def elementsByName : List Json → List Json
  | [] => []
  | x :: xs => byName x :: elementsByName xs

/-- Members in their order, the value of each with its members by name. -/
def membersByName : List (String × Json) → List (String × Json)
  | [] => []
  | (name, x) :: xs => (name, byName x) :: membersByName xs
end

theorem elementsByName_eq_map (elements : List Json) :
    elementsByName elements = elements.map byName := by
  induction elements with
  | nil => rfl
  | cons x xs ih => rw [elementsByName, ih, List.map_cons]

theorem membersByName_eq_map (members : List (String × Json)) :
    membersByName members = members.map fun m => (m.1, byName m.2) := by
  induction members with
  | nil => rfl
  | cons m rest ih =>
    obtain ⟨name, value⟩ := m
    rw [membersByName, ih, List.map_cons]

/-- Documents without members and elements have no order. -/
theorem byName_of_scalar {value : Json} (harray : value.isArray = false)
    (hobject : value.isObject = false) : value.byName = value := by
  cases value with
  | array => cases harray
  | object => cases hobject
  | _ => rfl

mutual
theorem rearranged_byName : ∀ value, Rearranged value (byName value)
  | .null => .same .null
  | .bool b => .same (.bool b)
  | .number n => .same (.number n)
  | .string s => .same (.string s)
  | .array elements => .array (elementsRearranged_byName elements)
  | .object members =>
    .object (membersRearranged_byName members) (Record.perm_sort (membersByName members)).symm

theorem elementsRearranged_byName :
    ∀ elements, ElementsRearranged elements (elementsByName elements)
  | [] => .nil
  | x :: xs => .cons (rearranged_byName x) (elementsRearranged_byName xs)

theorem membersRearranged_byName : ∀ members, MembersRearranged members (membersByName members)
  | [] => .nil
  | (name, x) :: xs => .cons name (rearranged_byName x) (membersRearranged_byName xs)
end

end Json

end ItemTable
