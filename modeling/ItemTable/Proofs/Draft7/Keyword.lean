import ItemTable.Draft7.Keyword
import ItemTable.Path
import ItemTable.Proofs.Traversal

set_option autoImplicit false

/-! # What keywords find

A violation of a keyword is one that the keyword finds by itself, or one of a schema that the
keyword hands the value or a part of it on to, or it says that the check of a schema that the
keyword asks about has no end (`Draft7.explained_of_mem`). `Draft7.Hands` lists the ways in which
keywords hand values on, and says of each how much further it leads in the value and in the schema,
and what has to hold of the value: the branches of `if` and the schemas of `dependencies` are asked
only of some values. What is handed on is found (`Draft7.mem_of_hands`). -/

namespace ItemTable

namespace Draft7

open Traversal (mem_numbered)

/-- The place some steps further in the value and some words further in the schema. -/
def Place.onward (place : Place) (steps : Path) (words : List String) : Place :=
  ⟨place.location ++ steps.map Step.word, place.schemaPath ++ words⟩

theorem Place.onward_nil (place : Place) : place.onward [] [] = place := by
  simp [onward]

theorem Place.onward_onward (place : Place) (steps steps' : Path) (words words' : List String) :
    (place.onward steps words).onward steps' words' =
      place.onward (steps ++ steps') (words ++ words') := by
  simp [onward]

theorem Place.keyword_eq_onward (place : Place) (name : String) :
    place.keyword name = place.onward [] [name] := by
  simp [onward, keyword]

theorem Place.keyword_keyword (place : Place) (name name' : String) :
    (place.keyword name).keyword name' = place.onward [] [name, name'] := by
  simp [onward, keyword]

theorem Place.onward_inside_key (place : Place) (words : List String) (name : String) :
    (place.onward [] words).inside name = place.onward [.key name] words := by
  simp [onward, inside, Step.word]

theorem Place.onward_inside_position (place : Place) (words : List String) (i : Nat) :
    (place.onward [] words).inside (Nat.repr i) = place.onward [.position i] words := by
  simp [onward, inside, Step.word]

/-! ## Handing on -/

/-- What has to hold of a value for a keyword to hand it on. -/
inductive Need
  | always
  /-- The value fits a schema. -/
  | fits (schema : Json)
  /-- The value does not fit a schema. -/
  | fails (schema : Json)
  /-- The value has a member of this name. -/
  | has (name : String)

/-- A condition holds of a value at a place, where schemas are asked by a check. -/
def Need.Holds (check : Check) (place : Place) (value : Json) : Need → Prop
  | .always => True
  | .fits schema => fits? (check schema (place.keyword "if") value) = some true
  | .fails schema => fits? (check schema (place.keyword "if") value) = some false
  | .has name => ∃ members, value = .object members ∧ Record.contains members name = true

/-- A keyword of a schema with these siblings hands a value or a part of it on to a schema, if a
condition holds of the value. -/
inductive Hands (siblings : Record Json) :
    Json → String → Json → Need → Path → List String → Json → Json → Prop
  | property {members : Record Json} {argument schema part : Json} {name : String}
    (hgoverned : governsProperties siblings = false)
    (hschema : (name, schema) ∈ argument.object?.getD [])
    (hpart : members.get? name = some part) :
    Hands siblings (.object members) "properties" argument .always [.key name] ["properties", name]
      schema part
  | pattern {members : Record Json} {argument schema part : Json} {name pattern : String}
    (hgoverned : governsProperties siblings = false)
    (hschema : (pattern, schema) ∈ argument.object?.getD []) (hpart : (name, part) ∈ members)
    (hfound : Matcher.isFound pattern name = true) :
    Hands siblings (.object members) "patternProperties" argument .always [.key name]
      ["patternProperties", pattern] schema part
  | governedProperty {members : Record Json} {argument schema part : Json} {name : String}
    (hgoverned : governsProperties siblings = true) (hpart : (name, part) ∈ members)
    (hschema : (schemasUnder siblings "properties").get? name = some schema) :
    Hands siblings (.object members) "additionalProperties" argument .always [.key name]
      ["properties", name] schema part
  | governedPattern {members : Record Json} {argument schema part : Json} {name pattern : String}
    (hgoverned : governsProperties siblings = true) (hpart : (name, part) ∈ members)
    (hschema : (pattern, schema) ∈ schemasUnder siblings "patternProperties")
    (hfound : Matcher.isFound pattern name = true) :
    Hands siblings (.object members) "additionalProperties" argument .always [.key name]
      ["patternProperties", pattern] schema part
  | governedOther {members : Record Json} {argument part : Json} {name : String}
    (hgoverned : governsProperties siblings = true) (hpart : (name, part) ∈ members)
    (hexpected : isExpected (schemasUnder siblings "properties")
      (schemasUnder siblings "patternProperties") name = false)
    (hargument : argument.isObject = true) :
    Hands siblings (.object members) "additionalProperties" argument .always [.key name]
      ["additionalProperties"] argument part
  | element {elements : List Json} {argument x : Json} {i : Nat}
    (hargument : argument.isArray = false) (hx : elements[i]? = some x) :
    Hands siblings (.array elements) "items" argument .always [.position i] ["items"] argument x
  | tuple {elements schemas : List Json} {schema x : Json} {i : Nat}
    (hschema : schemas[i]? = some schema) (hx : elements[i]? = some x) :
    Hands siblings (.array elements) "items" (.array schemas) .always [.position i]
      ["items", Nat.repr i] schema x
  | further {elements schemas : List Json} {argument x : Json} {i : Nat}
    (hitems : siblings.get? "items" = some (.array schemas)) (hargument : argument.isObject = true)
    (hx : elements[schemas.length + i]? = some x) :
    Hands siblings (.array elements) "additionalItems" argument .always
      [.position (schemas.length + i)] ["additionalItems"] argument x
  | each {value argument schema : Json} {i : Nat}
    (hschema : (argument.array?.getD [])[i]? = some schema) :
    Hands siblings value "allOf" argument .always [] ["allOf", Nat.repr i] schema value
  | name {members : Record Json} {argument : Json} {m : String × Json}
    (hargument : argument ≠ .bool false) (hmember : m ∈ members) :
    Hands siblings (.object members) "propertyNames" argument .always [] ["propertyNames"] argument
      (.string m.1)
  | consequence {value argument schema : Json} (hschema : siblings.get? "then" = some schema) :
    Hands siblings value "if" argument (.fits argument) [] ["then"] schema value
  | alternative {value argument schema : Json} (hschema : siblings.get? "else" = some schema) :
    Hands siblings value "if" argument (.fails argument) [] ["else"] schema value
  | dependent {members : Record Json} {argument schema : Json} {name : String}
    (hschema : (name, schema) ∈ argument.object?.getD []) (harray : schema.isArray = false) :
    Hands siblings (.object members) "dependencies" argument (.has name) []
      ["dependencies", name] schema (.object members)

/-- A keyword finds something by itself, and calls itself by a word; `required` finds a name that an
object lacks. -/
inductive Finds : Json → String → Json → String → Prop
  | lacking {members : Record Json} {argument : Json} {name : String}
    (hname : name ∈ argument.stringElements) (hlacks : members.contains name = false) :
    Finds (.object members) "required" argument "required"
  | other {value argument : Json} {keyword word : String} (hne : word ≠ "required") :
    Finds value keyword argument word

/-- A violation of a keyword is one that the keyword finds itself, or one of a schema that it hands
on to, or there is no end to the check. -/
inductive Explained (check : Check) (siblings : Record Json) (place : Place) (value : Json)
    (keyword : String) (argument : Json) (v : Violation) : Prop
  | own {word : String} (hplace : v.place = place.onward [] [word])
    (hfinds : Finds value keyword argument word)
  | handed {needs : Need} {steps : Path} {words : List String} {schema part : Json}
    (hhands : Hands siblings value keyword argument needs steps words schema part)
    (hneeds : needs.Holds check place value) (hv : v ∈ check schema (place.onward steps words) part)
  | endless (hendless : v.isEndless = true)

section

variable {library : Library} {dialect : Dialect} {check : Check} {siblings : Record Json}
  {place : Place} {value : Json} {keyword : String} {argument : Json} {v : Violation}

theorem place_of_mem_expect {holds : Bool} {problem : Problem}
    (h : v ∈ expect holds place value problem) : v.place = place := by
  unfold expect at h
  split at h
  · cases h
  · obtain rfl := List.mem_singleton.1 h
    rfl

theorem mem_expect? {holds : Option Bool} {problem : Problem}
    (h : v ∈ expect? holds place value problem) : v.place = place ∨ v.isEndless = true := by
  unfold expect? at h
  split at h
  · cases h
  · obtain rfl := List.mem_singleton.1 h
    exact .inl rfl
  · obtain rfl := List.mem_singleton.1 h
    exact .inr rfl

/-! ## Lists of parts -/

theorem mem_checkElements {schema : Json} {first : Nat} {elements : List Json} :
    v ∈ checkElements check place schema first elements ↔
      ∃ (i : Nat) (x : Json), elements[i]? = some x ∧
        v ∈ check schema (place.inside (Nat.repr (first + i))) x :=
  mem_numbered (checkElements check place schema)
    (fun i x => check schema (place.inside (Nat.repr i)) x) (fun _ => rfl) fun _ _ _ => rfl

theorem mem_checkTuple {first : Nat} {schemas elements : List Json} :
    v ∈ checkTuple check place first schemas elements ↔
      ∃ (i : Nat) (schema x : Json), schemas[i]? = some schema ∧ elements[i]? = some x ∧
        v ∈ check schema
          ((place.keyword (Nat.repr (first + i))).inside (Nat.repr (first + i))) x := by
  induction schemas generalizing first elements with
  | nil => simp [checkTuple]
  | cons s schemas ih =>
    cases elements with
    | nil => simp [checkTuple]
    | cons y rest =>
      rw [checkTuple, List.mem_append, ih]
      constructor
      · rintro (hfirst | ⟨i, schema, x, hschema, hx, hv⟩)
        · exact ⟨0, s, y, rfl, rfl, hfirst⟩
        · rw [Nat.add_right_comm, Nat.add_assoc] at hv
          exact ⟨i + 1, schema, x, hschema, hx, hv⟩
      · rintro ⟨i, schema, x, hschema, hx, hv⟩
        cases i with
        | zero =>
          obtain rfl : s = schema := Option.some.inj hschema
          obtain rfl : y = x := Option.some.inj hx
          exact .inl hv
        | succ i =>
          refine .inr ⟨i, schema, x, hschema, hx, ?_⟩
          rwa [Nat.add_right_comm, Nat.add_assoc]

theorem mem_checkEach {first : Nat} {schemas : List Json} :
    v ∈ checkEach check place value first schemas ↔
      ∃ (i : Nat) (schema : Json), schemas[i]? = some schema ∧
        v ∈ check schema (place.keyword (Nat.repr (first + i))) value :=
  mem_numbered (checkEach check place value)
    (fun i schema => check schema (place.keyword (Nat.repr i)) value) (fun _ => rfl)
    fun _ _ _ => rfl

/-! ## One keyword -/

theorem explained_of_own {word : String} (hplace : v.place = place.keyword word)
    (hne : word ≠ "required") : Explained check siblings place value keyword argument v := by
  rw [Place.keyword_eq_onward] at hplace
  exact .own hplace (.other hne)

theorem explained_of_mem_expect? {holds : Option Bool} {problem : Problem}
    (h : v ∈ expect? holds (place.keyword keyword) value problem) (hne : keyword ≠ "required") :
    Explained check siblings place value keyword argument v := by
  rcases mem_expect? h with hplace | hendless
  · exact explained_of_own hplace hne
  · exact .endless hendless

theorem explained_of_mem_anyValue
    (h : v ∈ anyValue dialect (place.keyword keyword) value keyword argument) :
    Explained check siblings place value keyword argument v := by
  unfold anyValue at h
  split at h
  · exact explained_of_own (place_of_mem_expect h) (by decide)
  · exact explained_of_own (place_of_mem_expect h) (by decide)
  · exact explained_of_own (place_of_mem_expect h) (by decide)
  · cases h

theorem explained_of_mem_numbers
    (h : v ∈ numbers (place.keyword keyword) value keyword argument) :
    Explained check siblings place value keyword argument v := by
  unfold numbers at h
  split at h
  · dsimp only at h
    split at h
    · exact explained_of_own (place_of_mem_expect h) (by decide)
    · exact explained_of_own (place_of_mem_expect h) (by decide)
    · exact explained_of_own (place_of_mem_expect h) (by decide)
    · exact explained_of_own (place_of_mem_expect h) (by decide)
    · exact explained_of_own (place_of_mem_expect h) (by decide)
    · cases h
  · cases h

theorem explained_of_mem_strings
    (h : v ∈ strings library dialect (place.keyword keyword) value keyword argument) :
    Explained check siblings place value keyword argument v := by
  unfold strings at h
  split at h
  · dsimp only at h
    split at h
    · exact explained_of_own (place_of_mem_expect h) (by decide)
    · exact explained_of_own (place_of_mem_expect h) (by decide)
    · split at h
      · cases h
      · split at h
        · cases h
        · obtain rfl := List.mem_singleton.1 h
          exact explained_of_own rfl (by decide)
        · obtain rfl := List.mem_singleton.1 h
          exact explained_of_own rfl (by decide)
    · split at h
      · cases h
      · exact explained_of_own (place_of_mem_expect h) (by decide)
    · cases h
  · cases h

theorem ContentFault.keyword_ne_required (fault : ContentFault) : fault.keyword ≠ "required" := by
  cases fault <;> simp [keyword]

theorem explained_of_mem_contents
    (h : v ∈ contents library siblings place value keyword argument) :
    Explained check siblings place value keyword argument v := by
  have hfault : ∀ fault, v ∈ contentViolations place value fault →
      Explained check siblings place value keyword argument v := by
    intro fault h
    cases fault with
    | none => cases h
    | some fault =>
      obtain rfl := List.mem_singleton.1 h
      exact explained_of_own rfl fault.keyword_ne_required
  unfold contents at h
  split at h
  · split at h
    · split at h
      · cases h
      · exact hfault _ h
    · exact hfault _ h
    · cases h
  · cases h

theorem explained_of_mem_items {elements : List Json}
    (h : v ∈ arrays check siblings (place.keyword "items") (.array elements) "items" argument) :
    Explained check siblings place (.array elements) "items" argument v := by
  cases argument with
  | array schemas =>
    obtain ⟨i, schema, x, hschema, hx, hv⟩ := mem_checkTuple.1 h
    rw [Nat.zero_add, Place.keyword_keyword, Place.onward_inside_position] at hv
    exact .handed (.tuple hschema hx) trivial hv
  | _ =>
    obtain ⟨i, x, hx, hv⟩ := mem_checkElements.1 h
    rw [Nat.zero_add] at hv
    exact .handed (.element rfl hx) trivial hv

theorem explained_of_mem_arrays
    (h : v ∈ arrays check siblings (place.keyword keyword) value keyword argument) :
    Explained check siblings place value keyword argument v := by
  cases value with
  | array elements =>
    by_cases hitems : keyword = "items"
    · subst hitems
      exact explained_of_mem_items h
    · unfold arrays at h
      dsimp only at h
      split at h
      · exact absurd rfl hitems
      · split at h
        · next schemas members hschemas =>
          obtain ⟨i, x, hx, hv⟩ := mem_checkElements.1 h
          rw [List.getElem?_drop] at hx
          exact .handed (.further hschemas rfl hx) trivial hv
        · exact explained_of_own (place_of_mem_expect h) (by decide)
        · cases h
      · exact explained_of_own (place_of_mem_expect h) (by decide)
      · exact explained_of_own (place_of_mem_expect h) (by decide)
      · exact explained_of_own (place_of_mem_expect h) (by decide)
      · exact explained_of_mem_expect? h (by decide)
      · cases h
  | _ => cases h

theorem mem_checkPatterns {patterns : Record Json} {name : String} :
    v ∈ checkPatterns check place patterns name value ↔
      ∃ pattern schema, (pattern, schema) ∈ patterns ∧ Matcher.isFound pattern name = true ∧
        v ∈ check schema ((place.keyword pattern).inside name) value := by
  simp only [checkPatterns, List.mem_flatMap, List.mem_filter, Prod.exists]
  constructor
  · rintro ⟨pattern, schema, ⟨hschema, hfound⟩, hv⟩
    exact ⟨pattern, schema, hschema, hfound, hv⟩
  · rintro ⟨pattern, schema, hschema, hfound, hv⟩
    exact ⟨pattern, schema, ⟨hschema, hfound⟩, hv⟩

theorem explained_of_mem_additional {members : Record Json}
    (hgoverned : governsProperties siblings = true)
    (h : v ∈ additional check siblings place members argument) :
    Explained check siblings place (.object members) "additionalProperties" argument v := by
  unfold additional at h
  rcases List.mem_append.1 h with h | h
  · obtain ⟨⟨name, part⟩, hpart, hv⟩ := List.mem_flatMap.1 h
    unfold checkMember at hv
    rw [List.mem_append, List.mem_append] at hv
    rcases hv with (hv | hv) | hv
    · split at hv
      · next schema hschema =>
        rw [Place.keyword_keyword, Place.onward_inside_key] at hv
        exact .handed (.governedProperty hgoverned hpart hschema) trivial hv
      · cases hv
    · obtain ⟨pattern, schema, hschema, hfound, hv⟩ := mem_checkPatterns.1 hv
      rw [Place.keyword_keyword, Place.onward_inside_key] at hv
      exact .handed (.governedPattern hgoverned hpart hschema hfound) trivial hv
    · split at hv
      · cases hv
      · next hother =>
        have hnot : isExpected (schemasUnder siblings "properties")
            (schemasUnder siblings "patternProperties") name = false ∧
              argument.isObject = true := by
          simpa using hother
        exact .handed (.governedOther hgoverned hpart hnot.1 hnot.2) trivial hv
  · split at h
    · cases h
    · split at h
      · exact explained_of_own (place_of_mem_expect h) (by decide)
      · split at h
        · cases h
        · obtain rfl := List.mem_singleton.1 h
          exact explained_of_own rfl (by decide)

theorem explained_of_mem_objects
    (h : v ∈ objects check siblings place value keyword argument) :
    Explained check siblings place value keyword argument v := by
  cases value with
  | object members =>
    unfold objects at h
    dsimp only at h
    split at h
    · split at h
      · cases h
      · next hgoverned =>
        obtain ⟨⟨name, schema⟩, hschema, hv⟩ := List.mem_flatMap.1 h
        dsimp only at hv
        split at hv
        · next part hpart =>
          rw [Place.keyword_keyword, Place.onward_inside_key] at hv
          exact .handed (.property (by simpa using hgoverned) hschema hpart) trivial hv
        · cases hv
    · split at h
      · cases h
      · next hgoverned =>
        obtain ⟨⟨pattern, schema⟩, hschema, hv⟩ := List.mem_flatMap.1 h
        obtain ⟨⟨name, part⟩, hpart, hv⟩ := List.mem_flatMap.1 hv
        obtain ⟨hpart, hfound⟩ := List.mem_filter.1 hpart
        rw [Place.keyword_keyword, Place.onward_inside_key] at hv
        exact .handed (.pattern (by simpa using hgoverned) hschema hpart hfound) trivial hv
    · split at h
      · next hgoverned => exact explained_of_mem_additional hgoverned h
      · cases h
    · obtain ⟨name, hname, rfl⟩ := List.mem_map.1 h
      obtain ⟨hname, hlacks⟩ := List.mem_filter.1 hname
      exact .own (Place.keyword_eq_onward _ _) (.lacking hname (by simpa using hlacks))
    · exact explained_of_own (place_of_mem_expect h) (by decide)
    · exact explained_of_own (place_of_mem_expect h) (by decide)
    · split at h
      · exact explained_of_own (place_of_mem_expect h) (by decide)
      · next hargument =>
        obtain ⟨m, hm, hv⟩ := List.mem_flatMap.1 h
        rw [Place.keyword_eq_onward] at hv
        exact .handed (.name hargument hm) trivial hv
    · obtain ⟨⟨name, needed⟩, hneeded, hv⟩ := List.mem_flatMap.1 h
      unfold dependency at hv
      split at hv
      · next hname =>
        split at hv
        · obtain ⟨missing, -, rfl⟩ := List.mem_map.1 hv
          exact explained_of_own rfl (by decide)
        · next hnames =>
          rw [Place.keyword_keyword] at hv
          have harray : needed.isArray = false := by
            cases needed with
            | array names => exact absurd rfl (hnames names)
            | _ => rfl
          exact .handed (.dependent hneeded harray) ⟨members, rfl, hname⟩ hv
      · cases hv
    · cases h
  | _ => cases h

theorem explained_of_mem_combined
    (h : v ∈ combined check siblings place value keyword argument) :
    Explained check siblings place value keyword argument v := by
  unfold combined at h
  dsimp only at h
  split at h
  · obtain ⟨i, schema, hschema, hv⟩ := mem_checkEach.1 h
    rw [Nat.zero_add, Place.keyword_keyword] at hv
    exact .handed (.each hschema) trivial hv
  · exact explained_of_mem_expect? h (by decide)
  · split at h
    · obtain rfl := List.mem_singleton.1 h
      exact explained_of_own rfl (by decide)
    · cases h
    · obtain rfl := List.mem_singleton.1 h
      exact explained_of_own rfl (by decide)
    · obtain rfl := List.mem_singleton.1 h
      exact .endless rfl
  · exact explained_of_mem_expect? h (by decide)
  · split at h
    · split at h
      · next hfits =>
        split at h
        · next schema hschema =>
          rw [Place.keyword_eq_onward] at h
          exact .handed (.consequence hschema) hfits h
        · cases h
      · next hfails =>
        split at h
        · next schema hschema =>
          rw [Place.keyword_eq_onward] at h
          exact .handed (.alternative hschema) hfails h
        · cases h
      · obtain rfl := List.mem_singleton.1 h
        exact .endless rfl
    · cases h
  · cases h

/-- Every violation of a keyword is explained. -/
theorem explained_of_mem
    (h : v ∈ keywordViolations library dialect check siblings place value keyword argument) :
    Explained check siblings place value keyword argument v := by
  simp only [keywordViolations, List.mem_append] at h
  rcases h with (((((h | h) | h) | h) | h) | h) | h
  · exact explained_of_mem_anyValue h
  · exact explained_of_mem_numbers h
  · exact explained_of_mem_strings h
  · exact explained_of_mem_contents h
  · exact explained_of_mem_arrays h
  · exact explained_of_mem_objects h
  · exact explained_of_mem_combined h

theorem mem_of_mem_arrays
    (h : v ∈ arrays check siblings (place.keyword keyword) value keyword argument) :
    v ∈ keywordViolations library dialect check siblings place value keyword argument := by
  simp only [keywordViolations, List.mem_append]
  exact .inl (.inl (.inr h))

theorem mem_of_mem_objects (h : v ∈ objects check siblings place value keyword argument) :
    v ∈ keywordViolations library dialect check siblings place value keyword argument := by
  simp only [keywordViolations, List.mem_append]
  exact .inl (.inr h)

theorem mem_additional_of_mem_checkMember {members : Record Json} {name : String} {part : Json}
    (hgoverned : governsProperties siblings = true) (hpart : (name, part) ∈ members)
    (h : v ∈ checkMember check place (schemasUnder siblings "properties")
      (schemasUnder siblings "patternProperties") argument name part) :
    v ∈ objects check siblings place (.object members) "additionalProperties" argument := by
  have hmember : v ∈ members.flatMap fun m => checkMember check place
      (schemasUnder siblings "properties") (schemasUnder siblings "patternProperties") argument
        m.1 m.2 := List.mem_flatMap.2 ⟨(name, part), hpart, h⟩
  simp only [objects, hgoverned, if_true]
  exact List.mem_append_left _ hmember

theorem mem_of_mem_combined (h : v ∈ combined check siblings place value keyword argument) :
    v ∈ keywordViolations library dialect check siblings place value keyword argument := by
  simp only [keywordViolations, List.mem_append]
  exact .inr h

/-- What is handed on is found. -/
theorem mem_of_hands {needs : Need} {steps : Path} {words : List String} {schema part : Json}
    (h : Hands siblings value keyword argument needs steps words schema part)
    (hneeds : needs.Holds check place value)
    (hv : v ∈ check schema (place.onward steps words) part) :
    v ∈ keywordViolations library dialect check siblings place value keyword argument := by
  cases h with
  | @property members _ _ _ name hgoverned hschema hpart =>
    rw [← Place.onward_inside_key, ← Place.keyword_keyword] at hv
    apply mem_of_mem_objects
    simp only [objects, hgoverned, Bool.false_eq_true, if_false]
    refine List.mem_flatMap.2 ⟨(name, schema), hschema, ?_⟩
    dsimp only
    rw [hpart]
    exact hv
  | @pattern members _ _ _ name pattern hgoverned hschema hpart hfound =>
    rw [← Place.onward_inside_key, ← Place.keyword_keyword] at hv
    apply mem_of_mem_objects
    simp only [objects, hgoverned, Bool.false_eq_true, if_false]
    refine List.mem_flatMap.2 ⟨(pattern, schema), hschema, ?_⟩
    exact List.mem_flatMap.2 ⟨(name, part), List.mem_filter.2 ⟨hpart, hfound⟩, hv⟩
  | governedProperty hgoverned hpart hschema =>
    rw [← Place.onward_inside_key, ← Place.keyword_keyword] at hv
    refine mem_of_mem_objects (mem_additional_of_mem_checkMember hgoverned hpart ?_)
    unfold checkMember
    rw [hschema]
    exact List.mem_append_left _ (List.mem_append_left _ hv)
  | governedPattern hgoverned hpart hschema hfound =>
    rw [← Place.onward_inside_key, ← Place.keyword_keyword] at hv
    refine mem_of_mem_objects (mem_additional_of_mem_checkMember hgoverned hpart ?_)
    refine List.mem_append_left _ (List.mem_append_right _ ?_)
    exact mem_checkPatterns.2 ⟨_, _, hschema, hfound, hv⟩
  | governedOther hgoverned hpart hexpected hargument =>
    rw [← Place.onward_inside_key, ← Place.keyword_eq_onward] at hv
    refine mem_of_mem_objects (mem_additional_of_mem_checkMember hgoverned hpart ?_)
    unfold checkMember
    rw [if_neg (by simp [hexpected, hargument])]
    exact List.mem_append_right _ hv
  | @element elements _ _ i hargument hx =>
    rw [← Place.onward_inside_position, ← Place.keyword_eq_onward] at hv
    apply mem_of_mem_arrays
    have helements : v ∈ checkElements check (place.keyword "items") argument 0 elements := by
      refine mem_checkElements.2 ⟨i, part, hx, ?_⟩
      rwa [Nat.zero_add]
    cases argument with
    | array => cases hargument
    | _ => exact helements
  | @tuple elements schemas _ _ i hschema hx =>
    rw [← Place.onward_inside_position, ← Place.keyword_keyword] at hv
    apply mem_of_mem_arrays
    refine mem_checkTuple.2 ⟨i, schema, part, hschema, hx, ?_⟩
    rwa [Nat.zero_add]
  | @further elements schemas _ _ i hitems hargument hx =>
    rw [← Place.onward_inside_position, ← Place.keyword_eq_onward] at hv
    apply mem_of_mem_arrays
    cases argument with
    | object _ =>
      simp only [arrays, hitems]
      refine mem_checkElements.2 ⟨i, part, ?_, hv⟩
      rwa [List.getElem?_drop]
    | _ => cases hargument
  | @each _ _ _ i hschema =>
    rw [← Place.keyword_keyword] at hv
    apply mem_of_mem_combined
    refine mem_checkEach.2 ⟨i, schema, hschema, ?_⟩
    rwa [Nat.zero_add]
  | @name members _ m hargument hmember =>
    rw [← Place.keyword_eq_onward] at hv
    have hnames : v ∈ members.flatMap fun m =>
        check argument (place.keyword "propertyNames") (.string m.1) :=
      List.mem_flatMap.2 ⟨m, hmember, hv⟩
    apply mem_of_mem_objects
    simp only [objects]
    exact hnames
  | consequence hschema =>
    rw [← Place.keyword_eq_onward] at hv
    have hbranch : siblings.contains "then" = true := by rw [Record.contains, hschema]; rfl
    have hfits : fits? (check argument (place.keyword "if") value) = some true := hneeds
    apply mem_of_mem_combined
    simp only [combined, hbranch, Bool.true_or, if_true, hfits, hschema]
    exact hv
  | alternative hschema =>
    rw [← Place.keyword_eq_onward] at hv
    have hbranch : siblings.contains "else" = true := by rw [Record.contains, hschema]; rfl
    have hfails : fits? (check argument (place.keyword "if") value) = some false := hneeds
    apply mem_of_mem_combined
    simp only [combined, hbranch, Bool.or_true, if_true, hfails, hschema]
    exact hv
  | @dependent members _ _ name hschema harray =>
    obtain ⟨others, hsame, hname⟩ := hneeds
    cases hsame
    rw [← Place.keyword_keyword] at hv
    apply mem_of_mem_objects
    refine List.mem_flatMap.2 ⟨(name, schema), hschema, ?_⟩
    simp only [dependency, hname, if_true]
    cases schema with
    | array => cases harray
    | _ => exact hv

/-- A name that an object lacks is found. -/
theorem exists_of_lacking {members : Record Json} {name : String}
    (hname : name ∈ argument.stringElements) (hlacks : members.contains name = false) :
    ∃ v, v ∈ keywordViolations library dialect check siblings place (.object members) "required"
      argument := by
  refine ⟨_, mem_of_mem_objects (List.mem_map.2 ⟨name, ?_, rfl⟩)⟩
  exact List.mem_filter.2 ⟨hname, by simp [hlacks]⟩

end

end Draft7

end ItemTable
