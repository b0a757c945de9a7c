import ItemTable.Proofs.Draft7.Way
import ItemTable.Proofs.Draft7.Weaker
import ItemTable.Proofs.Schema.Required

set_option autoImplicit false

/-! # Parts of valid values

The relaxed copy of a schema asks for less than the full one, so a value that is valid as a whole is
valid as a part, unless a schema turns: one under `not`, the condition of `if` or an alternative of
`oneOf` refuses a part of the value in the full copy and accepts it in the relaxed one
(`Schema.validatePart_of_validate`). Then to ask for less is to ask for more, and a valid value can
be refused as a part (`Schema.forbiddingSchema_refuses_part`). And what the full copy refuses at
once the relaxed one may have to follow in a circle (`Schema.circlingSchema_has_no_end`). -/

namespace ItemTable

namespace Schema

open Draft7
open Json (Relaxes Slack NoneIsPlain IsPart)

/-- The checks of a value as a whole and as a part both come to a part of it, and to these parts of
the two copies of the schema, with this much room left. -/
inductive Meets (schema : Schema) (value : Json) :
    Nat → Scope → Json → Json → Place → Json → Prop
  | start : Meets schema value schema.library.room (schema.library.outermost schema.full)
      schema.full schema.relaxed .root value
  | onward {room : Nat} {scope there : Scope} {node node' next next' part below : Json}
    {place : Place} {needs needs' : Need} {steps : Path} {words : List String}
    (h : Meets schema value (room + 1) scope node node' place part)
    (hpasses : Passes schema.library schema.full scope node part needs steps words there next below)
    (hpasses' : Passes schema.library schema.relaxed scope node' part needs' steps words there next'
      below)
    (hneeds : needs.Holds (insideOf schema.library scope
      (violationsWithin schema.library schema.full room)) place part)
    (hneeds' : needs'.Holds (insideOf schema.library scope
      (violationsWithin schema.library schema.relaxed room)) place part) :
    Meets schema value room there next next' (place.onward steps words) below
  | tested {room : Nat} {scope : Scope} {members members' : Record Json}
    {argument argument' next next' part below : Json} {place : Place} {keyword : String} {i : Nat}
    (h : Meets schema value (room + 1) scope (.object members) (.object members') place part)
    (hasks : Asks scope.dialect members keyword argument)
    (hasks' : Asks scope.dialect members' keyword argument')
    (htests : Tests members part keyword argument i next below)
    (htests' : Tests members' part keyword argument' i next' below) :
    Meets schema value room (schema.library.within scope next) next next' (place.keyword keyword)
      below

/-- A schema that a keyword asks about refuses a part of the value in the full copy and accepts it
in the relaxed one, and the keyword is one that may find something because a value fits. -/
inductive Turns (schema : Schema) (value : Json) : Prop
  | intro {room : Nat} {scope : Scope} {members members' : Record Json}
    {argument argument' node node' part below : Json} {place : Place} {keyword : String} {i : Nat}
    (h : Meets schema value (room + 1) scope (.object members) (.object members') place part)
    (hkeyword : keyword ∈ turningWords)
    (hasks : Asks scope.dialect members keyword argument)
    (hasks' : Asks scope.dialect members' keyword argument')
    (htests : Tests members part keyword argument i node below)
    (htests' : Tests members' part keyword argument' i node' below)
    (hrefuses : fits? (violationsWithin schema.library schema.full room
      (schema.library.within scope node) node (place.keyword keyword) below) = some false)
    (haccepts : fits? (violationsWithin schema.library schema.relaxed room
      (schema.library.within scope node') node' (place.keyword keyword) below) = some true)

section

variable {schema : Schema} {value : Json} {lacks : Record Json → String → Prop} {room : Nat}
  {scope : Scope} {node node' part : Json} {members members' : Record Json} {place : Place}

/-- What both checks come to the check of the whole may come to. -/
theorem Meets.comes (h : Meets schema value room scope node node' place part) :
    Comes schema.library schema.full scope node := by
  induction h with
  | start => exact .start
  | onward _ hpasses _ _ _ ih => exact ih.passes hpasses
  | tested _ hasks _ htests _ ih => exact ih.tests hasks htests

/-- The values of names are schemas, wherever a check comes. -/
theorem noneIsPlain_schemasUnder {library : Library} {root argument : Json} {keyword other : String}
    (hcareful : library.IsCareful) (haccepts : library.accepts root = true)
    (hcomes : Comes library root scope (.object members))
    (hasks : Asks scope.dialect members other argument)
    (hkeyword : keyword = "properties" ∨ keyword = "patternProperties") :
    NoneIsPlain (schemasUnder members keyword) := by
  rintro ⟨name, node⟩ hnode
  rcases hcareful.schemasUnder haccepts hcomes hasks.plain
    (Dialect.knows_names hasks.known hkeyword) hkeyword _ hnode with hobject | ⟨b, hbool⟩
  · cases node with
    | object => exact ⟨rfl, rfl⟩
    | _ => cases hobject
  · obtain rfl : node = .bool b := hbool
    exact ⟨rfl, rfl⟩

/-- With this much room left, the relaxed copy finds nothing where the full one finds nothing, but
perhaps that a check has no end. -/
def FollowsFull (lacks : Record Json → String → Prop) (schema : Schema) (value : Json)
    (room : Nat) : Prop :=
  ∀ {scope : Scope} {node node' part : Json} {place : Place},
    Meets schema value room scope node node' place part → Relaxes lacks node node' →
    violationsWithin schema.library schema.full room scope node place part = [] →
    OnlyEndless (violationsWithin schema.library schema.relaxed room scope node' place part)

/-- What a keyword comes to is one nested step further. -/
theorem FollowsFull.weaker (hslack : Slack lacks) (hfollows : FollowsFull lacks schema value room)
    (hturns : ¬ Turns schema value)
    (h : Meets schema value (room + 1) scope (.object members) (.object members') place part)
    {keyword : String} {argument argument' : Json}
    (hasks : Asks scope.dialect members keyword argument)
    (hasks' : Asks scope.dialect members' keyword argument') :
    Weaker lacks (insideOf schema.library scope (violationsWithin schema.library schema.full room))
      (insideOf schema.library scope (violationsWithin schema.library schema.relaxed room)) members
      members' place part keyword argument argument' where
  hands := by
    intro needs needs' steps words node node' below hhands hhands' hneeds hneeds' hrel hnil
    unfold insideOf at hnil ⊢
    rw [← within_relaxes hslack hrel]
    have hpasses' : Passes schema.library schema.relaxed scope (.object members') part needs' steps
        words (schema.library.within scope node) node' below := by
      rw [within_relaxes hslack hrel]
      exact .keyword hasks' hhands'
    exact hfollows (h.onward (.keyword hasks hhands) hpasses' hneeds hneeds') hrel hnil
  tests := by
    intro i node node' below htests htests' hrel hnil
    unfold insideOf at hnil ⊢
    rw [← within_relaxes hslack hrel]
    exact hfollows (h.tested hasks hasks' htests htests') hrel hnil
  turns := by
    intro hkeyword i node node' below htests htests' hrefuses haccepts
    exact hturns (.intro h hkeyword hasks hasks' htests htests' hrefuses haccepts)

theorem reference_relaxes (hslack : Slack lacks)
    (hrel : Relaxes lacks (.object members) (.object members')) {reference : String} :
    members.get? "$ref" = some (.string reference) ↔
      members'.get? "$ref" = some (.string reference) :=
  hrel.get?_string fun hlacks => hslack.steering hlacks (by decide)

/-- A schema without a reference in the relaxed copy finds nothing where the full one does not. -/
theorem FollowsFull.plain (hslack : Slack lacks) (hcareful : schema.library.IsCareful)
    (haccepts : schema.library.accepts schema.full = true)
    (hfollows : FollowsFull lacks schema value room) (hturns : ¬ Turns schema value)
    (h : Meets schema value (room + 1) scope (.object members) (.object members') place part)
    (hrel : Relaxes lacks (.object members) (.object members'))
    (hplain : ∀ reference, members.get? "$ref" ≠ some (.string reference))
    (hfull : violationsWithin schema.library schema.full (room + 1) scope (.object members) place
      part = []) :
    OnlyEndless (violationsWithin schema.library schema.relaxed (room + 1) scope (.object members')
      place part) := by
  have hplain' : ∀ reference, members'.get? "$ref" ≠ some (.string reference) :=
    fun reference heq => hplain reference ((reference_relaxes hslack hrel).2 heq)
  intro v hv
  obtain ⟨keyword, argument', hasks', hv⟩ := (mem_violationsWithin_plain hplain').1 hv
  obtain ⟨argument, hargument, hxy, hdata⟩ := hrel.argument hasks'.mem
  have hasks : Asks scope.dialect members keyword argument := ⟨hplain, hargument, hasks'.known⟩
  have hkeyword : keywordViolations schema.library scope.dialect (insideOf schema.library scope
      (violationsWithin schema.library schema.full room)) members place part keyword argument =
        [] := by
    refine List.eq_nil_iff_forall_not_mem.2 fun v hv => ?_
    have hmem := (mem_violationsWithin_plain hplain).2 ⟨keyword, argument, hasks, hv⟩
    rw [hfull] at hmem
    cases hmem
  exact keywordViolations_relaxes hslack hrel hxy hdata
    (noneIsPlain_schemasUnder hcareful haccepts h.comes hasks (.inl rfl))
    (noneIsPlain_schemasUnder hcareful haccepts h.comes hasks (.inr rfl))
    (hfollows.weaker hslack hturns h hasks hasks') hkeyword v hv

/-- A reference in the relaxed copy leads to the relaxed copy of a target that finds nothing. -/
theorem FollowsFull.reference (hslack : Slack lacks)
    (hreads : schema.library.ReadsAlike lacks schema.full schema.relaxed)
    (hfollows : FollowsFull lacks schema value room)
    (h : Meets schema value (room + 1) scope (.object members) (.object members') place part)
    (hrel : Relaxes lacks (.object members) (.object members')) {reference : String}
    (href : members.get? "$ref" = some (.string reference))
    (hfull : violationsWithin schema.library schema.full (room + 1) scope (.object members) place
      part = []) :
    OnlyEndless (violationsWithin schema.library schema.relaxed (room + 1) scope (.object members')
      place part) := by
  have href' := (reference_relaxes hslack hrel).1 href
  rw [violationsWithin_reference href']
  rw [violationsWithin_reference href] at hfull
  split
  · next target' there htarget' =>
    obtain ⟨target, htarget, hrel'⟩ := hreads htarget'
    have hpasses : Passes schema.library schema.full scope (.object members) part .always []
      ["$ref"] there target part := .reference href htarget
    have hmeets := h.onward hpasses (.reference href' htarget') trivial trivial
    rw [← Place.keyword_eq_onward] at hmeets
    rw [htarget] at hfull
    exact hfollows hmeets hrel' hfull
  · exact onlyEndless_nil

/-- Where no schema turns, the relaxed copy finds nothing where the full one finds nothing, but
perhaps that a check has no end. -/
theorem followsFull (hslack : Slack lacks) (hcareful : schema.library.IsCareful)
    (haccepts : schema.library.accepts schema.full = true)
    (hreads : schema.library.ReadsAlike lacks schema.full schema.relaxed)
    (hturns : ¬ Turns schema value) : FollowsFull lacks schema value room := by
  induction room with
  | zero =>
    intro scope node node' part place _ _ hfull
    cases hfull
  | succ room hfollows =>
    intro scope node node' part place h hrel hfull
    cases node' with
    | bool b =>
      cases hrel
      cases b with
      | true => exact onlyEndless_nil
      | false => cases hfull
    | object members' =>
      obtain ⟨members, rfl, hobjects⟩ := hrel.eq_object
      by_cases href : ∃ reference, Record.get? members "$ref" = some (.string reference)
      · obtain ⟨reference, href⟩ := href
        exact hfollows.reference hslack hreads h hobjects href hfull
      · exact hfollows.plain hslack hcareful haccepts hturns h hobjects
          (fun reference heq => href ⟨reference, heq⟩) hfull
    | _ => exact onlyEndless_nil

/-- What breaks nothing of the full copy breaks nothing of one that lacks some of its members, where
no schema turns; but a check may have no end. -/
theorem onlyEndless_violations (hslack : Slack lacks) (hcareful : schema.library.IsCareful)
    (haccepts : schema.library.accepts schema.full = true)
    (hcopies : Relaxes lacks schema.full schema.relaxed)
    (hreads : schema.library.ReadsAlike lacks schema.full schema.relaxed)
    (hturns : ¬ Turns schema value)
    (hvalid : Draft7.violations schema.library schema.full value = []) :
    OnlyEndless (Draft7.violations schema.library schema.relaxed value) := by
  unfold Draft7.violations
  rw [← outermost_relaxes hslack hcopies]
  exact followsFull hslack hcareful haccepts hreads hturns .start hcopies hvalid

end

/-! ## Valid values as parts -/

/-- The check of a value by a document has no end. -/
def HasNoEnd (library : Library) (root value : Json) : Prop :=
  ∃ v ∈ Draft7.violations library root value, v.isEndless = true

theorem eq_nil_or_hasNoEnd {library : Library} {root value : Json}
    (h : OnlyEndless (Draft7.violations library root value)) :
    Draft7.violations library root value = [] ∨ HasNoEnd library root value := by
  cases hfound : Draft7.violations library root value with
  | nil => exact .inl rfl
  | cons first rest =>
    have hmem : first ∈ Draft7.violations library root value := by
      rw [hfound]
      exact .head _
    exact .inr ⟨first, hmem, h first hmem⟩

theorem check_eq_none_of_violations {schema : Schema} {lowered payload : Json}
    (h : Draft7.violations schema.library lowered payload = []) :
    schema.check lowered payload = none := by
  rw [check, h]
  rfl

/-- Where no schema turns, a valid value is valid as a part, or the check of the part has no end. -/
theorem validatePart_eq_none {library : Library} {document : Json} {schema : Schema} {value : Json}
    (hcareful : library.IsCareful)
    (hreads : library.ReadsAlike Json.LacksRequired schema.full schema.relaxed)
    (hschema : Schema.build? library document = some schema) (hdocument : document.isProper = true)
    (hturns : ¬ Turns schema value) (hvalid : schema.validate value = none) :
    schema.validatePart value = none ∨ HasNoEnd library schema.relaxed value := by
  obtain ⟨rfl, haccepts, -⟩ := build?_eq_some hschema
  refine (eq_nil_or_hasNoEnd ?_).imp_left check_eq_none_of_violations
  exact onlyEndless_violations Json.slack_lacksRequired hcareful haccepts
    (Json.relaxes_lower hdocument) hreads hturns (violations_of_check_eq_none hvalid)

/-- A valid value is valid as a part, unless a schema under `not`, `if` or `oneOf` turns, or the
check of the part has no end. -/
theorem validatePart_of_validate {library : Library} {document : Json} {schema : Schema}
    {value : Json} (hcareful : library.IsCareful)
    (hreads : library.ReadsAlike Json.LacksRequired schema.full schema.relaxed)
    (hschema : Schema.build? library document = some schema) (hdocument : document.isProper = true)
    (hvalid : schema.validate value = none) :
    schema.validatePart value = none ∨ HasNoEnd library schema.relaxed value ∨
      Turns schema value := by
  by_cases hturns : Turns schema value
  · exact .inr (.inr hturns)
  · exact or_assoc.1 (.inl (validatePart_eq_none hcareful hreads hschema hdocument hturns hvalid))

theorem validatePart_of_validate_box :
    Library.pointers.IsCareful ∧
      Library.pointers.ReadsAlike Json.LacksRequired boxSchema.full boxSchema.relaxed ∧
      Schema.build? .pointers boxSchema.document = some boxSchema ∧
      boxSchema.document.isProper = true ∧ boxSchema.validate (.object box) = none ∧
      (boxSchema.validatePart (.object box) = none ∨
        HasNoEnd .pointers boxSchema.relaxed (.object box) ∨ Turns boxSchema (.object box)) := by
  have hdocument : boxSchema.document.isProper = true := by decide +kernel
  have hreads : Library.pointers.ReadsAlike Json.LacksRequired boxSchema.full boxSchema.relaxed :=
    Library.readsAlike_pointers (Json.relaxes_lower hdocument)
  have hschema : Schema.build? .pointers boxSchema.document = some boxSchema :=
    ofDocument?_of_isComplete (by decide +kernel)
  have hvalid : boxSchema.validate (.object box) = none := by rfl
  exact ⟨Library.isCareful_pointers, hreads, hschema, hdocument, hvalid,
    validatePart_of_validate Library.isCareful_pointers hreads hschema hdocument hvalid⟩

/-- A schema that forbids an attribute. -/
def forbiddingSchema : Schema :=
  let document : Json := .object
    [("type", .string "object"),
      ("properties", .object [("id", .object [("type", .string "string")])]),
      ("not", .object [("required", .strings ["a"])]), ("default", .strings ["id"])]
  .lowered .pointers document

/-- An item without the attribute is valid, but no part of an item is: without the required name,
the schema under `not` accepts everything. -/
theorem forbiddingSchema_refuses_part :
    Schema.ofDocument? forbiddingSchema.document = some forbiddingSchema ∧
      forbiddingSchema.validate (.object [("id", .string "1")]) = none ∧
      ∃ finding, forbiddingSchema.validatePart (.object [("id", .string "1")]) = some finding := by
  refine ⟨ofDocument?_of_isComplete (by decide +kernel), by rfl, ?_⟩
  have hkind : (forbiddingSchema.validatePart (.object [("id", .string "1")])).map (·.kind) =
      some .other := by rfl
  obtain ⟨finding, hfinding, -⟩ := Option.map_eq_some_iff.1 hkind
  exact ⟨finding, hfinding⟩

/-! ## Checks of parts that have no end -/

/-- A reference that leads back to its own schema is followed as long as there is room. -/
theorem fits?_of_circle {library : Library} {root value : Json} {scope : Scope}
    {members : Record Json} {reference : String}
    (href : members.get? "$ref" = some (.string reference))
    (hcircle : library.resolve? root scope.base reference = some (.object members, scope))
    (room : Nat) (place : Place) :
    fits? (violationsWithin library root room scope (.object members) place value) = none := by
  induction room generalizing place with
  | zero => rfl
  | succ room ih =>
    rw [violationsWithin_reference href, hcircle]
    exact ih _

/-- A reference to itself. -/
def circle : Json := .object [("$ref", .string "#/definitions/circle")]

/-- A schema that follows a circle for values with an attribute. -/
def circlingSchema : Schema :=
  let circling : Json := .object [("required", .strings ["a"]), ("allOf", .array [circle])]
  let document : Json := .object
    [("type", .string "object"),
      ("properties", .object [("id", .object [("type", .string "string")])]),
      ("anyOf", .array [circling, .object [("type", .string "object")]]),
      ("definitions", .object [("circle", circle)]), ("default", .strings ["id"])]
  .lowered .pointers document

/-- An item without the attribute. -/
def plainItem : Json := .object [("id", .string "1")]

/-- The check of the part stops at the alternative that follows the circle. -/
theorem circlingSchema_violations (room : Nat) :
    violationsWithin .pointers circlingSchema.relaxed (room + 2) ⟨.seven, Library.nowhere⟩
        circlingSchema.relaxed .root plainItem =
      [⟨Place.root.keyword "anyOf", plainItem, .endless⟩] := by
  have hcircle : Library.pointers.resolve? circlingSchema.relaxed Library.nowhere
      "#/definitions/circle" = some (circle, ⟨.seven, Library.nowhere⟩) := by rfl
  have hall : violationsWithin .pointers circlingSchema.relaxed (room + 2)
      ⟨.seven, Library.nowhere⟩ circlingSchema.relaxed .root plainItem =
        expect? (anyFits? [fits? (violationsWithin .pointers circlingSchema.relaxed room
            ⟨.seven, Library.nowhere⟩ circle
            (((Place.root.keyword "anyOf").keyword "allOf").keyword "0") plainItem ++ [] ++ []),
          some true]) (Place.root.keyword "anyOf") plainItem (.noAlternative "anyOf") ++ [] := by
    rfl
  have hfits : ∀ place, fits? (violationsWithin .pointers circlingSchema.relaxed room
      ⟨.seven, Library.nowhere⟩ circle place plainItem) = none :=
    fits?_of_circle (by rfl) hcircle room
  rw [hall, List.append_nil, List.append_nil, List.append_nil, hfits]
  rfl

/-- The item is valid, but as a part it is asked whether it fits the first alternative, which has
lost its required name. -/
theorem circlingSchema_has_no_end :
    Schema.ofDocument? circlingSchema.document = some circlingSchema ∧
      circlingSchema.validate plainItem = none ∧
      HasNoEnd .pointers circlingSchema.relaxed plainItem := by
  refine ⟨ofDocument?_of_isComplete (by decide +kernel), by rfl, ?_⟩
  have hfound : Draft7.violations .pointers circlingSchema.relaxed plainItem =
      [⟨Place.root.keyword "anyOf", plainItem, .endless⟩] := circlingSchema_violations 65534
  refine ⟨⟨Place.root.keyword "anyOf", plainItem, .endless⟩, ?_, rfl⟩
  rw [hfound]
  exact .head _

/-! ## Schemas that cannot turn -/

section

variable {schema : Schema} {value : Json}

/-- Where no schema that the check comes to has `not`, `if` or `oneOf`, none turns. -/
theorem not_turns_of_names
    (hnames : ∀ scope members, Comes schema.library schema.full scope (.object members) →
      ∀ keyword ∈ turningWords, keyword ∉ Record.names members) :
    ¬ Turns schema value := by
  rintro ⟨h, hkeyword, hasks, -, -, -, -, -⟩
  exact hnames _ _ h.comes _ hkeyword (List.mem_map_of_mem hasks.mem)

/-- If no schema that the check comes to has `not`, `if` or `oneOf`, all valid values are valid as
parts, or the check of the part has no end. -/
theorem validatePart_of_validate_of_names {library : Library} {document : Json}
    (hcareful : library.IsCareful)
    (hreads : library.ReadsAlike Json.LacksRequired schema.full schema.relaxed)
    (hschema : Schema.build? library document = some schema) (hdocument : document.isProper = true)
    (hnames : ∀ scope members, Comes schema.library schema.full scope (.object members) →
      ∀ keyword ∈ turningWords, keyword ∉ Record.names members)
    (hvalid : schema.validate value = none) :
    schema.validatePart value = none ∨ HasNoEnd library schema.relaxed value :=
  validatePart_eq_none hcareful hreads hschema hdocument (not_turns_of_names hnames) hvalid

end

end Schema

end ItemTable
