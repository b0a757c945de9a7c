import ItemTable.Draft7.Validate
import ItemTable.Proofs.Draft7.Keyword
import ItemTable.Proofs.Json.Parts
import ItemTable.Proofs.Tree.Leaves

set_option autoImplicit false

/-! # The way to a violation

A schema finds something by itself, or hands the value or a part of it on: to the target of its
reference, or by a keyword (`Draft7.own_or_passes_of_mem`). `Draft7.Reaches` strings such steps
together up to a finding. Every violation but one that says that there is no end is reached so, at
the place that the steps lead to (`Draft7.reaches_of_mem`), and there is a part of the value there
(`Draft7.Reaches.walk?`). -/

namespace ItemTable

namespace Draft7

open Json (Inherited)

/-! ## One schema -/

/-- The members of a schema by which values are checked: none next to a reference, and none that the
dialect does not know. -/
structure Asks (dialect : Dialect) (members : Record Json) (keyword : String) (argument : Json) :
    Prop where
  plain : ∀ reference, members.get? "$ref" ≠ some (.string reference)
  mem : (keyword, argument) ∈ members
  known : dialect.knows keyword = true

/-- A schema finds something by itself: it allows nothing, or one of its keywords does. -/
inductive Own (dialect : Dialect) : Json → Json → List String → Prop
  | never (value : Json) : Own dialect (.bool false) value []
  | keyword {members : Record Json} {keyword word : String} {argument value : Json}
    (hasks : Asks dialect members keyword argument) (hfinds : Finds value keyword argument word) :
    Own dialect (.object members) value [word]

/-- A schema hands a value or a part of it on: to the target of its reference, or by a keyword, if a
condition holds. -/
inductive Passes (library : Library) (root : Json) (scope : Scope) :
    Json → Json → Need → Path → List String → Scope → Json → Json → Prop
  | reference {members : Record Json} {value target : Json} {reference : String} {there : Scope}
    (href : members.get? "$ref" = some (.string reference))
    (htarget : library.resolve? root scope.base reference = some (target, there)) :
    Passes library root scope (.object members) value .always [] ["$ref"] there target value
  | keyword {members : Record Json} {keyword : String} {argument value schema part : Json}
    {needs : Need} {steps : Path} {words : List String}
    (hasks : Asks scope.dialect members keyword argument)
    (hhands : Hands members value keyword argument needs steps words schema part) :
    Passes library root scope (.object members) value needs steps words
      (library.within scope schema) schema part

/-! ## What schemas inherit -/

section

variable {excluded : List String} {P : Json → Prop} {siblings : Record Json}
  {value argument schema part : Json} {keyword name : String} {needs : Need} {steps : Path}
  {words : List String}

theorem inherits_of_mem_object? (h : Inherited excluded P) (hargument : P argument)
    (hname : name ∉ excluded) (hmem : (name, schema) ∈ argument.object?.getD []) : P schema := by
  cases argument with
  | object members => exact h.member hargument hmem hname
  | _ => cases hmem

theorem inherits_of_mem_schemasUnder (h : Inherited excluded P) (hsiblings : P (.object siblings))
    (hkeyword : keyword ∉ excluded) (hname : name ∉ excluded)
    (hmem : (name, schema) ∈ schemasUnder siblings keyword) : P schema := by
  unfold schemasUnder at hmem
  cases hget : siblings.get? keyword with
  | none =>
    rw [hget] at hmem
    cases hmem
  | some argument =>
    rw [hget] at hmem
    exact inherits_of_mem_object? h
      (h.member hsiblings (Record.mem_of_get?_eq_some hget) hkeyword) hname hmem

/-- A keyword hands values on to schemas that inherit from its own, if the words that lead to them
are not excluded. -/
theorem Hands.inherits
    (hhands : Hands siblings value keyword argument needs steps words schema part)
    (h : Inherited excluded P) (hsiblings : P (.object siblings))
    (hmem : (keyword, argument) ∈ siblings) (hwords : ∀ word ∈ words, word ∉ excluded) :
    P schema := by
  have hargument : keyword ∈ words → P argument := fun hkeyword =>
    h.member hsiblings hmem (hwords _ hkeyword)
  cases hhands with
  | property _ hschema _ =>
    exact inherits_of_mem_object? h (hargument (by simp)) (hwords _ (by simp)) hschema
  | pattern _ hschema _ _ =>
    exact inherits_of_mem_object? h (hargument (by simp)) (hwords _ (by simp)) hschema
  | governedProperty _ _ hschema =>
    exact inherits_of_mem_schemasUnder h hsiblings (hwords "properties" (by simp))
      (hwords _ (by simp)) (Record.mem_of_get?_eq_some hschema)
  | governedPattern _ _ hschema _ =>
    exact inherits_of_mem_schemasUnder h hsiblings (hwords "patternProperties" (by simp))
      (hwords _ (by simp)) hschema
  | tuple hschema _ => exact h.element (hargument (by simp)) (List.mem_of_getElem? hschema)
  | each hschema =>
    cases argument with
    | array schemas => exact h.element (hargument (by simp)) (List.mem_of_getElem? hschema)
    | _ => simp [Json.array?] at hschema
  | consequence hschema =>
    exact h.member hsiblings (Record.mem_of_get?_eq_some hschema) (hwords _ (by simp))
  | alternative hschema =>
    exact h.member hsiblings (Record.mem_of_get?_eq_some hschema) (hwords _ (by simp))
  | dependent hschema _ =>
    exact inherits_of_mem_object? h (hargument (by simp)) (hwords _ (by simp)) hschema
  | _ => exact hargument (by simp)

end

section

variable {library : Library} {root schema value : Json} {scope : Scope} {place : Place}
  {v : Violation} {room : Nat}

theorem violationsWithin_reference {members : Record Json} {reference : String}
    (href : members.get? "$ref" = some (.string reference)) :
    violationsWithin library root (room + 1) scope (.object members) place value =
      match library.resolve? root scope.base reference with
      | some (target, there) =>
        violationsWithin library root room there target (place.keyword "$ref") value
      | none => [] := by
  cases htarget : library.resolve? root scope.base reference with
  | none => simp only [violationsWithin, href, htarget]
  | some target => simp only [violationsWithin, href, htarget]

theorem mem_violationsWithin_plain {members : Record Json}
    (hplain : ∀ reference, members.get? "$ref" ≠ some (.string reference)) :
    v ∈ violationsWithin library root (room + 1) scope (.object members) place value ↔
      ∃ keyword argument, Asks scope.dialect members keyword argument ∧
        v ∈ keywordViolations library scope.dialect
          (insideOf library scope (violationsWithin library root room)) members place value keyword
          argument := by
  rw [violationsWithin]
  split
  · next reference href => exact absurd href (hplain reference)
  · simp only [List.mem_flatMap, Prod.exists]
    constructor
    · rintro ⟨keyword, argument, hmem, hv⟩
      split at hv
      · next hknown => exact ⟨keyword, argument, ⟨hplain, hmem, hknown⟩, hv⟩
      · cases hv
    · rintro ⟨keyword, argument, hasks, hv⟩
      refine ⟨keyword, argument, hasks.mem, ?_⟩
      rwa [if_pos hasks.known]

/-- A violation of a schema is its own, or one of a schema that it hands on to, unless it says that
there is no end. -/
theorem own_or_passes_of_mem (hends : v.isEndless = false)
    (h : v ∈ violationsWithin library root (room + 1) scope schema place value) :
    (∃ words, v.place = place.onward [] words ∧ Own scope.dialect schema value words) ∨
      ∃ needs steps words there schema' part,
        Passes library root scope schema value needs steps words there schema' part ∧
          needs.Holds (insideOf library scope (violationsWithin library root room)) place value ∧
          v ∈ violationsWithin library root room there schema' (place.onward steps words) part := by
  cases schema with
  | bool b =>
    cases b with
    | true => cases h
    | false =>
      obtain rfl := List.mem_singleton.1 h
      exact .inl ⟨[], (Place.onward_nil place).symm, .never value⟩
  | object members =>
    by_cases href : ∃ reference, Record.get? members "$ref" = some (.string reference)
    · obtain ⟨reference, href⟩ := href
      rw [violationsWithin_reference href] at h
      split at h
      · next target there htarget =>
        rw [Place.keyword_eq_onward] at h
        exact .inr ⟨_, _, _, _, _, _, .reference href htarget, trivial, h⟩
      · cases h
    · obtain ⟨keyword, argument, hasks, hv⟩ :=
        (mem_violationsWithin_plain fun reference heq => href ⟨reference, heq⟩).1 h
      cases explained_of_mem hv with
      | own hplace hfinds => exact .inl ⟨_, hplace, .keyword hasks hfinds⟩
      | handed hhands hneeds hv => exact .inr ⟨_, _, _, _, _, _, .keyword hasks hhands, hneeds, hv⟩
      | endless hendless =>
        rw [hends] at hendless
        cases hendless
  | _ => cases h

/-- What is handed on counts. -/
theorem mem_of_passes {needs : Need} {steps : Path} {words : List String} {there : Scope}
    {schema' part : Json}
    (h : Passes library root scope schema value needs steps words there schema' part)
    (hneeds : needs.Holds (insideOf library scope (violationsWithin library root room)) place value)
    (hv : v ∈ violationsWithin library root room there schema' (place.onward steps words) part) :
    v ∈ violationsWithin library root (room + 1) scope schema place value := by
  cases h with
  | reference href htarget =>
    rw [← Place.keyword_eq_onward] at hv
    rw [violationsWithin_reference href, htarget]
    exact hv
  | keyword hasks hhands =>
    rw [mem_violationsWithin_plain hasks.plain]
    exact ⟨_, _, hasks, mem_of_hands hhands hneeds hv⟩

/-! ## The way to a violation -/

/-- A check at a place reaches something that a schema finds, some steps further in the value and
some words further in the schema, with room for this many nested steps. -/
inductive Reaches (library : Library) (root : Json) :
    Nat → Scope → Json → Place → Json → Path → List String → Prop
  | here {room : Nat} {scope : Scope} {schema value : Json} {place : Place} {words : List String}
    (hown : Own scope.dialect schema value words) :
    Reaches library root (room + 1) scope schema place value [] words
  | onward {room : Nat} {scope there : Scope} {schema value schema' part : Json} {place : Place}
    {needs : Need} {steps steps' : Path} {words words' : List String}
    (hpasses : Passes library root scope schema value needs steps words there schema' part)
    (hneeds : needs.Holds (insideOf library scope (violationsWithin library root room)) place value)
    (hreaches : Reaches library root room there schema' (place.onward steps words) part steps'
      words') :
    Reaches library root (room + 1) scope schema place value (steps ++ steps') (words ++ words')

/-- Every violation with an end is reached, and is at the place that the way leads to. -/
theorem reaches_of_mem (hends : v.isEndless = false)
    (h : v ∈ violationsWithin library root room scope schema place value) :
    ∃ steps words, v.place = place.onward steps words ∧
      Reaches library root room scope schema place value steps words := by
  induction room generalizing scope schema place value with
  | zero =>
    obtain rfl := List.mem_singleton.1 h
    cases hends
  | succ room ih =>
    rcases own_or_passes_of_mem hends h with ⟨words, hplace, hown⟩ |
      ⟨needs, steps, words, there, schema', part, hpasses, hneeds, hv⟩
    · exact ⟨[], words, hplace, .here hown⟩
    · obtain ⟨steps', words', hplace, hreaches⟩ := ih hv
      rw [Place.onward_onward] at hplace
      exact ⟨_, _, hplace, .onward hpasses hneeds hreaches⟩

end

/-! ## The part of the value at the end -/

section

variable {library : Library} {root schema schema' value part : Json} {scope there : Scope}
  {needs : Need} {steps : Path} {words : List String}

/-- What is handed on is a part of the value, but for the names of an object. -/
theorem Hands.walk? {siblings : Record Json} {keyword : String} {argument : Json}
    (h : Hands siblings value keyword argument needs steps words schema part)
    (hvalue : value.isProper = true) (hwords : words ≠ ["propertyNames"]) :
    value.walk? steps = some part := by
  have hmember : ∀ {members : Record Json} {name : String} {part : Json},
      (Json.object members).isProper = true → (name, part) ∈ members →
        (Json.object members).walk? [.key name] = some part := by
    intro members name part hproper hpart
    rw [Json.walk?_singleton]
    exact Record.get?_eq_some_of_mem (Json.isProper_object.1 hproper).1 hpart
  cases h with
  | property _ _ hpart =>
    rw [Json.walk?_singleton]
    exact hpart
  | pattern _ _ hpart _ => exact hmember hvalue hpart
  | governedProperty _ hpart _ => exact hmember hvalue hpart
  | governedPattern _ hpart _ _ => exact hmember hvalue hpart
  | governedOther _ hpart _ _ => exact hmember hvalue hpart
  | element _ hx =>
    rw [Json.walk?_singleton]
    exact hx
  | tuple _ hx =>
    rw [Json.walk?_singleton]
    exact hx
  | further _ _ hx =>
    rw [Json.walk?_singleton]
    exact hx
  | name => exact absurd rfl hwords
  | _ => rfl

theorem Passes.walk?
    (h : Passes library root scope schema value needs steps words there schema' part)
    (hvalue : value.isProper = true) (hwords : words ≠ ["propertyNames"]) :
    value.walk? steps = some part := by
  cases h with
  | reference => rfl
  | keyword _ hhands => exact hhands.walk? hvalue hwords

/-- What `propertyNames` hands on are strings. -/
theorem Passes.string_of_names
    (h : Passes library root scope schema value needs steps words there schema' part)
    (hwords : words = ["propertyNames"]) : steps = [] ∧ ∃ text, part = .string text := by
  cases h with
  | reference => simp at hwords
  | keyword hasks hhands =>
    cases hhands with
    | name => exact ⟨rfl, _, rfl⟩
    | _ => simp at hwords

/-- The steps to a finding lead to a part of the value. -/
theorem Reaches.walk? {room : Nat} {place : Place}
    (h : Reaches library root room scope schema place value steps words)
    (hvalue : value.isProper = true) : ∃ found, value.walk? steps = some found := by
  induction h with
  | here => exact ⟨_, rfl⟩
  | @onward _ _ _ _ _ _ part _ _ steps steps' words _ hpasses _ _ ih =>
    by_cases hwords : words = ["propertyNames"]
    · -- no step leads further from a string
      obtain ⟨rfl, text, rfl⟩ := hpasses.string_of_names hwords
      obtain ⟨found, hfound⟩ := ih rfl
      cases steps' with
      | nil => exact ⟨_, rfl⟩
      | cons step rest => cases step <;> cases hfound
    · have hpart := hpasses.walk? hvalue hwords
      obtain ⟨found, hfound⟩ := ih (Json.isProper_of_walk? hvalue hpart)
      refine ⟨found, ?_⟩
      rw [Json.walk?_append, hpart]
      exact hfound

end

end Draft7

end ItemTable
