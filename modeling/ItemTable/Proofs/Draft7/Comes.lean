import ItemTable.Draft7.Form
import ItemTable.Proofs.Draft7.Trace

set_option autoImplicit false

/-! # What a check may come to

A check by a document may come to a schema that a schema hands values on to, or asks about:
`Draft7.Comes`. A library that is careful accepts a document only if a check can be made of all of
these (`Draft7.Library.IsCareful`); so wherever a check comes, names and patterns have schemas
(`Draft7.Library.IsCareful.schemasUnder`). -/

namespace ItemTable

namespace Draft7

/-- A keyword of a schema with these siblings asks whether a value or a part of it fits a schema.
The number is that of the alternative or of the element. -/
inductive Tests (siblings : Record Json) : Json → String → Json → Nat → Json → Json → Prop
  | element {elements : List Json} {argument x : Json} {i : Nat} (hx : elements[i]? = some x) :
    Tests siblings (.array elements) "contains" argument i argument x
  | alternative {value argument schema : Json} {keyword : String} {i : Nat}
    (hkeyword : keyword = "anyOf" ∨ keyword = "oneOf")
    (hschema : (argument.array?.getD [])[i]? = some schema) :
    Tests siblings value keyword argument i schema value
  | negation {value argument : Json} : Tests siblings value "not" argument 0 argument value
  | condition {value argument : Json} {word : String} (hword : word = "then" ∨ word = "else")
    (hbranch : siblings.contains word = true) :
    Tests siblings value "if" argument 0 argument value

/-- A check by a document may come to a schema. -/
inductive Comes (library : Library) (root : Json) : Scope → Json → Prop
  | start : Comes library root (library.outermost root) root
  | passes {scope there : Scope} {schema value schema' part : Json} {needs : Need}
    {steps : Path} {words : List String} (h : Comes library root scope schema)
    (hpasses : Passes library root scope schema value needs steps words there schema' part) :
    Comes library root there schema'
  | tests {scope : Scope} {members : Record Json} {keyword : String}
    {argument value schema part : Json}
    {i : Nat} (h : Comes library root scope (.object members))
    (hasks : Asks scope.dialect members keyword argument)
    (htests : Tests members value keyword argument i schema part) :
    Comes library root (library.within scope schema) schema

/-- The documents that a library accepts can be checked by, wherever a check may come: names and
patterns have schemas, and a type that is named alone is a type of JSON. -/
structure Library.IsCareful (library : Library) : Prop where
  named : ∀ {root : Json} {scope : Scope} {members : Record Json} {keyword : String}
    {argument : Json}, library.accepts root = true → Comes library root scope (.object members) →
    Asks scope.dialect members keyword argument →
    keyword = "properties" ∨ keyword = "patternProperties" →
    ∀ m ∈ argument.object?.getD [], m.2.isObject = true ∨ ∃ b, m.2 = .bool b
  typed : ∀ {root : Json} {scope : Scope} {members : Record Json} {name : String},
    library.accepts root = true → Comes library root scope (.object members) →
    Asks scope.dialect members "type" (.string name) → isTypeName (.string name) = true

section

variable {library : Library} {root : Json} {scope : Scope} {dialect : Dialect}

/-- A dialect that knows any keyword knows those that give schemas to names. -/
theorem Dialect.knows_names {other keyword : String} (h : dialect.knows other = true)
    (hkeyword : keyword = "properties" ∨ keyword = "patternProperties") :
    dialect.knows keyword = true := by
  cases dialect with
  | later => cases h
  | _ => rcases hkeyword with rfl | rfl <;> decide

/-- Wherever a check comes, names and patterns have schemas. -/
theorem Library.IsCareful.schemasUnder (hcareful : library.IsCareful)
    (haccepts : library.accepts root = true) {members : Record Json} {keyword : String}
    (hcomes : Comes library root scope (.object members))
    (hplain : ∀ reference, members.get? "$ref" ≠ some (.string reference))
    (hknows : scope.dialect.knows keyword = true)
    (hkeyword : keyword = "properties" ∨ keyword = "patternProperties") :
    ∀ m ∈ Draft7.schemasUnder members keyword, m.2.isObject = true ∨ ∃ b, m.2 = .bool b := by
  intro m hm
  unfold Draft7.schemasUnder at hm
  cases hget : members.get? keyword with
  | none =>
    rw [hget] at hm
    cases hm
  | some schemas =>
    rw [hget] at hm
    exact hcareful.named haccepts hcomes ⟨hplain, Record.mem_of_get?_eq_some hget, hknows⟩ hkeyword
      m hm

/-! ## Where a schema stands -/

theorem Library.dialect_outermost (library : Library) (schema : Json) :
    (library.outermost schema).dialect = .seven := by
  cases schema <;> rfl

/-- The names of members that say where a schema stands. -/
def standingNames : List String := ["$schema", "$id", "id"]

/-- Two schemas have the same texts under the names that say where they stand, and both have a
reference or neither. -/
structure StandAlike (xs ys : Record Json) : Prop where
  texts : ∀ name ∈ standingNames,
    (xs.get? name).bind Json.string? = (ys.get? name).bind Json.string?
  reference : xs.contains "$ref" = ys.contains "$ref"

variable {xs ys : Record Json}

/-- The dialect of a schema is the one that its text under `$schema` names. -/
theorem Dialect.inside_eq (outer : Dialect) (members : Record Json) :
    outer.inside members =
      (((members.get? "$schema").bind Json.string?).map Dialect.ofName).getD outer := by
  unfold Dialect.inside
  generalize members.get? "$schema" = found
  split
  · rfl
  · next hother =>
    cases found with
    | none => rfl
    | some named =>
      cases named with
      | string name => exact absurd rfl (hother name)
      | _ => rfl

theorem StandAlike.address?_eq (h : StandAlike xs ys) :
    dialect.address? xs = dialect.address? ys := by
  unfold Dialect.address?
  simp only [h.reference, h.texts "$id" (by decide), h.texts "id" (by decide)]

theorem StandAlike.within_eq (h : StandAlike xs ys) :
    library.within scope (.object xs) = library.within scope (.object ys) := by
  simp only [Library.within, Library.address, Dialect.inside_eq, h.address?_eq,
    h.texts "$schema" (by decide)]

theorem StandAlike.outermost_eq (h : StandAlike xs ys) :
    library.outermost (.object xs) = library.outermost (.object ys) := by
  simp only [Library.outermost, Library.address, h.address?_eq]

end

end Draft7

end ItemTable
