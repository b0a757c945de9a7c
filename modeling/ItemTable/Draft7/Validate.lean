import ItemTable.Draft7.Keyword

set_option autoImplicit false

/-! # Validation by draft 7

The violations of a value against a schema, keyword by keyword in the order of the schema's members.
A reference stands for its target, and its siblings do not count. References can lead in circles, so
a check may have no end: once it has no room for another nested step it says so, and whoever asked
passes that on. -/

namespace ItemTable

namespace Draft7

/-- The check of schemas inside one that stands somewhere. -/
def insideOf (library : Library) (scope : Scope) (check : Scope → Check) : Check :=
  fun schema place value => check (library.within scope schema) schema place value

/-- The violations of a value against a schema that stands somewhere in `root` or in a document that
`root` refers to, with room for `room` nested steps. -/
def violationsWithin (library : Library) (root : Json) : Nat → Scope → Check
  | 0, _, _, place, value => [⟨place, value, .endless⟩]
  | room + 1, scope, schema, place, value =>
    match schema with
    | .bool false => [⟨place, value, .never⟩]
    | .object members =>
      match Record.get? members "$ref" with
      | some (.string reference) =>
        match library.resolve? root scope.base reference with
        | some (target, there) =>
          violationsWithin library root room there target (place.keyword "$ref") value
        | none => []
      | _ => members.flatMap fun (keyword, argument) =>
        if scope.dialect.knows keyword then
          keywordViolations library scope.dialect
            (insideOf library scope (violationsWithin library root room)) members place value
            keyword argument
        else []
    | _ => []

/-- The violations of a value against a document. -/
def violations (library : Library) (root value : Json) : List Violation :=
  violationsWithin library root library.room (library.outermost root) root .root value

end Draft7

end ItemTable
