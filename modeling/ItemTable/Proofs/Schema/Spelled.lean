import ItemTable.Proofs.Schema.Partial

set_option autoImplicit false

/-! # Documents in JSON types

`Json.spell` names JSON types for the store types of a document and leaves the rest as declared. To
that lowering adds what a set asks of its elements, so what fits the lowered document fits the
spelled one (`Schema.spelled_of_validate`), unless a schema turns or the check by the spelled
document has no end. Where lowering puts its own members in the place of declared ones, these are
lost (`Schema.onlyA_loses_items`). -/

namespace ItemTable

namespace Json

open StoreType (asType keptTypes lowerName lowerNames marker ofName? overrides)

/-! ## Spelling -/

/-- The JSON types for what `type` holds; in a list, given next to its spelled elements, a type
stands once. -/
def spellTypes : Json → Json → Json
  | .array names, .array spelled => .array (lowerNames [] (names.zip spelled))
  | _, spelled => asType spelled

mutual
/-- A document with JSON types for its store types. -/
def spell : Json → Json
  | .object members => .object (spellMembers members)
  | .array elements => .array (spellElements elements)
  | other => other

/-- Spells the elements of an array. -/
def spellElements : List Json → List Json
  | [] => []
  | x :: xs => spell x :: spellElements xs

/-- Spells the members of an object that are no data. -/
def spellMembers : List (String × Json) → List (String × Json)
  | [] => []
  | (name, x) :: xs =>
    (name, if name ∈ dataKeywords then x
      else if name = "type" then spellTypes x (spell x) else spell x) :: spellMembers xs
end

/-- The spelled value of a member: data stay as they are. -/
def spellMember (name : String) (x : Json) : Json :=
  if name ∈ dataKeywords then x else if name = "type" then spellTypes x (spell x) else spell x

section

variable {members : Record Json} {elements : List Json} {name : String} {x : Json}

theorem spellElements_eq_map (elements : List Json) :
    spellElements elements = elements.map spell := by
  induction elements with
  | nil => rfl
  | cons x rest ih => rw [spellElements, ih, List.map_cons]

theorem spell_array (elements : List Json) :
    spell (.array elements) = .array (elements.map spell) := by
  rw [spell, spellElements_eq_map]

theorem spellMembers_eq_map (members : Record Json) :
    spellMembers members = members.map fun m => (m.1, spellMember m.1 m.2) := by
  induction members with
  | nil => rfl
  | cons m rest ih =>
    rw [spellMembers, ih]
    rfl

theorem names_spellMembers (members : Record Json) :
    Record.names (spellMembers members) = members.names := by
  rw [spellMembers_eq_map, Record.names_map]

theorem get?_spellMembers (members : Record Json) (name : String) :
    Record.get? (spellMembers members) name = (members.get? name).map (spellMember name) := by
  rw [spellMembers_eq_map, Record.get?_map]

theorem spellTypes_array (names : List Json) : spellTypes (.array names) (spell (.array names)) =
    .array ((keptTypes [] names).map fun x => asType (spell x)) := by
  rw [spell_array, spellTypes, StoreType.lowerNames_zip_map]

/-- A spelled object has data as they are. -/
theorem get?_spellMembers_of_data (members : Record Json) (hname : name ∈ dataKeywords) :
    Record.get? (spellMembers members) name = members.get? name := by
  have hsame : spellMember name = id := funext fun x => if_pos hname
  rw [get?_spellMembers, hsame, Option.map_id_fun, id]

/-! ## What lowering puts in the place of declared members -/

/-- Whatever lowering puts into a node next to its type is not declared there, or is declared so. -/
def OwnStays (members : Record Json) : Prop :=
  ∀ name x own, name ≠ "type" → (overrides true (members.get? "type")).get? name = some x →
    members.get? name = some own → spell own = x

/-- Lowering replaces nothing that is declared in a document, but types. -/
inductive Unreplaced : Json → Prop
  | scalar {x : Json} (harray : x.isArray = false) (hobject : x.isObject = false) : Unreplaced x
  | array {elements : List Json} (helements : ∀ x ∈ elements, Unreplaced x) :
    Unreplaced (.array elements)
  | object {members : Record Json} (hown : OwnStays members)
    (hmembers : ∀ m ∈ members, m.1 ∉ dataKeywords → Unreplaced m.2) : Unreplaced (.object members)

theorem Unreplaced.element (h : Unreplaced (.array elements)) (hx : x ∈ elements) :
    Unreplaced x := by
  cases h with
  | scalar harray => cases harray
  | array helements => exact helements x hx

theorem Unreplaced.ownStays (h : Unreplaced (.object members)) : OwnStays members := by
  cases h with
  | scalar _ hobject => cases hobject
  | object hown => exact hown

theorem Unreplaced.member (h : Unreplaced (.object members)) (hx : (name, x) ∈ members)
    (hname : name ∉ dataKeywords) : Unreplaced x := by
  cases h with
  | scalar _ hobject => cases hobject
  | object _ hmembers => exact hmembers _ hx hname

/-! ## The lowered document and the spelled one -/

/-- What a lowered node has next to its store type may be lacking. -/
def LacksTyping (xs : Record Json) (name : String) : Prop :=
  name ∈ ["items", "uniqueItems", marker] ∧ ∃ text, xs.get? marker = some (.string text)

theorem slack_lacksTyping : Slack LacksTyping := by
  constructor
  · rintro xs name ⟨hname, -⟩
    revert name
    decide
  · rintro xs name ⟨-, text, htext⟩ hplain
    have hnone := (hplain _ (Record.mem_of_get?_eq_some htext)).2
    cases hnone

/-- A node into which something is put next to its type has the marker. -/
theorem lacksTyping_of_overrides {type : Option Json} (hname : name ≠ "type")
    (h : (overrides true type).get? name = some x) :
    name ∈ ["items", "uniqueItems", marker] ∧
      ∃ text, (overrides true type).get? marker = some (.string text) := by
  have hnames : name ∈ StoreType.overriddenNames :=
    (StoreType.names_overrides_sublist true type).subset (Record.mem_names_iff.2 ⟨x, h⟩)
  refine ⟨List.mem_of_ne_of_mem hname hnames, ?_⟩
  unfold overrides at h ⊢
  split at h
  · next declared =>
    split at h
    · next kind _ =>
      refine ⟨declared, ?_⟩
      cases kind <;> rfl
    · cases h
  · simp [Record.get?, Ne.symm hname] at h
  · cases h

/-- A lowered node has for a type what spelling makes of it, or lists the same types. -/
theorem relaxes_types (htype : members.get? "type" = some x)
    (hrel : Relaxes LacksTyping (lower true x) (spell x)) :
    ∃ y, ((overrides true (members.get? "type")).get? "type").or
        (some (lowerMember true "type" x)) = some y ∧
      Relaxes LacksTyping y (spellTypes x (spell x)) := by
  rw [htype]
  cases x with
  | string name =>
    rw [overrides]
    cases hdeclared : ofName? name with
    | some declared =>
      have hname : spellTypes (.string name) (spell (.string name)) = .string declared.base := by
        simp [spellTypes, spell, asType, lowerName, hdeclared]
      rw [hname]
      cases declared <;> exact ⟨_, rfl, .same _⟩
    | none =>
      have hname : spellTypes (.string name) (spell (.string name)) = .string name := by
        simp [spellTypes, spell, asType, lowerName, hdeclared]
      rw [hname]
      exact ⟨_, rfl, .same _⟩
  | array names =>
    rw [lower_array, spell_array] at hrel
    have hnames := Traversal.forall₂_map_map.1 hrel.elements
    refine ⟨_, rfl, ?_⟩
    rw [spellTypes_array]
    refine .array (Traversal.forall₂_map_map.2 fun y hy => relaxes_asType (hnames y ?_))
    exact (StoreType.keptTypes_sublist [] names).subset hy
  | _ => exact ⟨_, rfl, hrel⟩

/-- A lowered node has each declared member, and what it has for it relaxes to the spelled one. -/
theorem relaxes_member (hmembers : members.names.Nodup) (hstays : OwnStays members)
    (hrel : ∀ name x, members.get? name = some x → name ∉ dataKeywords →
      Relaxes LacksTyping (lower true x) (spell x))
    (hx : members.get? name = some x) :
    ∃ y, (lowered true members).get? name = some y ∧
      Relaxes LacksTyping y (spellMember name x) := by
  by_cases hdata : name ∈ dataKeywords
  · rw [get?_lowered_of_data true hmembers hdata, hx, spellMember, if_pos hdata]
    exact ⟨x, rfl, .same x⟩
  · have hx' := hrel name x hx hdata
    rw [get?_lowered true hmembers, hx, Option.bind_some, if_neg (by simp [isDropped])]
    by_cases hname : name = "type"
    · subst hname
      exact relaxes_types hx hx'
    · rw [spellMember, if_neg hdata, if_neg hname]
      cases hput : (overrides true (members.get? "type")).get? name with
      | some y =>
        rw [hstays name y x hname hput hx]
        exact ⟨y, rfl, .same y⟩
      | none =>
        rw [Option.none_or, lowerMember, if_neg hdata]
        exact ⟨_, rfl, hx'⟩

/-- A name that a lowered node has and the spelled one lacks is one that a store type puts in. -/
theorem lacksTyping_of_undeclared (hmembers : members.names.Nodup)
    (hx : (lowered true members).get? name = some x) (hnone : members.get? name = none) :
    LacksTyping (lowered true members) name := by
  have hput : (overrides true (members.get? "type")).get? name = some x := by
    rw [get?_lowered true hmembers, hnone, Option.bind_none, Option.or_none] at hx
    exact hx
  have hname : name ≠ "type" := by
    rintro rfl
    rw [hnone] at hput
    cases hput
  obtain ⟨hmem, text, hmarker⟩ := lacksTyping_of_overrides hname hput
  refine ⟨hmem, text, ?_⟩
  rw [get?_lowered true hmembers, hmarker, Option.some_or]

/-- The spelled document is the lowered one without what a store type puts into its node. -/
theorem relaxes_spell {document : Json} (hdocument : document.isProper = true)
    (hstays : Unreplaced document) :
    Relaxes LacksTyping (lower true document) (spell document) := by
  induction document using parts_induction with
  | scalar value harray hobject =>
    cases value with
    | array => cases harray
    | object => cases hobject
    | _ => exact .same _
  | array elements ih =>
    rw [lower_array, spell_array]
    exact .array (Traversal.forall₂_map_map.2 fun x hx =>
      ih x hx (isProper_of_mem_array hdocument hx) (hstays.element hx))
  | object members ih =>
    have hmembers := (isProper_object.1 hdocument).1
    have hmember : ∀ {name x}, Record.get? members name = some x →
        ∃ y, (lowered true members).get? name = some y ∧
          Relaxes LacksTyping y (spellMember name x) :=
      relaxes_member hmembers hstays.ownStays fun name x hx hname =>
        have hmem := Record.mem_of_get?_eq_some hx
        ih _ hmem (isProper_of_mem_object hdocument hmem) (hstays.member hmem hname)
    rw [lower_object, spell]
    refine .object ?_ ?_ ?_ ?_ ?_
    · rwa [names_spellMembers]
    · intro name hname
      rw [get?_lowered_of_data true hmembers hname, get?_spellMembers_of_data members hname]
    · intro name hname
      rw [names_spellMembers] at hname
      obtain ⟨x, hx⟩ := Record.mem_names_iff.1 hname
      obtain ⟨y, hy, -⟩ := hmember hx
      exact Record.mem_names_iff.2 ⟨y, hy⟩
    · intro name hname
      obtain ⟨y, hy⟩ := Record.mem_names_iff.1 hname
      rw [names_spellMembers]
      cases hx : Record.get? members name with
      | some x => exact .inl (Record.mem_names_iff.2 ⟨x, hx⟩)
      | none => exact .inr (lacksTyping_of_undeclared hmembers hy hx)
    · intro name y z hy hz
      rw [get?_spellMembers] at hz
      obtain ⟨x, hx, rfl⟩ := Option.map_eq_some_iff.1 hz
      obtain ⟨y', hy', hrel⟩ := hmember hx
      obtain rfl : y = y' := Option.some.inj (hy.symm.trans hy')
      exact hrel

end

end Json

namespace Schema

open Draft7 (Comes Library turningWords)
open Json (Unreplaced)

/-- The schema with its document in JSON types next to the full copy. -/
def spelled (schema : Schema) : Schema := { schema with relaxed := schema.document.spell }

/-- Where lowering replaces nothing that is declared and no schema turns, a valid value fits the
document in JSON types, or the check by that has no end. -/
theorem violations_spell_eq_nil {library : Library} {document : Json} {schema : Schema}
    {value : Json} (hcareful : library.IsCareful)
    (hreads : library.ReadsAlike Json.LacksTyping schema.full document.spell)
    (hschema : Schema.build? library document = some schema) (hdocument : document.isProper = true)
    (hstays : Unreplaced document) (hturns : ¬ Turns schema.spelled value)
    (hvalid : schema.validate value = none) :
    Draft7.violations library document.spell value = [] ∨
      HasNoEnd library document.spell value := by
  obtain ⟨rfl, haccepts, -⟩ := build?_eq_some hschema
  refine eq_nil_or_hasNoEnd ?_
  have hcopies : Json.Relaxes Json.LacksTyping (lowered library document).spelled.full
      (lowered library document).spelled.relaxed := Json.relaxes_spell hdocument hstays
  exact onlyEndless_violations Json.slack_lacksTyping hcareful haccepts hcopies hreads hturns
    (violations_of_check_eq_none hvalid)

/-- If no schema that the check comes to has `not`, `if` or `oneOf`, all valid values fit the
document in JSON types, or the check by that has no end. -/
theorem violations_spell_of_names {library : Library} {document : Json} {schema : Schema}
    {value : Json} (hcareful : library.IsCareful)
    (hreads : library.ReadsAlike Json.LacksTyping schema.full document.spell)
    (hschema : Schema.build? library document = some schema) (hdocument : document.isProper = true)
    (hstays : Unreplaced document)
    (hnames : ∀ scope members, Comes schema.library schema.full scope (.object members) →
      ∀ keyword ∈ turningWords, keyword ∉ Record.names members)
    (hvalid : schema.validate value = none) :
    Draft7.violations library document.spell value = [] ∨
      HasNoEnd library document.spell value :=
  violations_spell_eq_nil hcareful hreads hschema hdocument hstays (not_turns_of_names hnames)
    hvalid

/-- A schema with this node for an attribute. -/
def taggedSchema (tags : Json) : Schema :=
  let document : Json := .object
    [("type", .string "object"),
      ("properties", .object [("id", .object [("type", .string "string")]), ("tags", tags)]),
      ("default", .strings ["id"])]
  .lowered .pointers document

/-- An item with these tags. -/
def tagged (tags : List String) : Json := .object [("id", .string "a"), ("tags", .strings tags)]

/-- Tags that are no set. -/
def noSet : Json := .object [("not", .object [("type", .string "stringSet")])]

/-- Strings that repeat are no set, but an array. -/
theorem noSet_turns :
    Schema.ofDocument? (taggedSchema noSet).document = some (taggedSchema noSet) ∧
      (taggedSchema noSet).validate (tagged ["x", "x"]) = none ∧
      Draft7.violations .pointers (taggedSchema noSet).document.spell (tagged ["x", "x"]) ≠ [] := by
  refine ⟨ofDocument?_of_isComplete (by decide +kernel), by rfl, ?_⟩
  rw [← List.isEmpty_eq_false_iff]
  rfl

end Schema

end ItemTable
