import ItemTable.Proofs.Draft7.Usable
import ItemTable.Proofs.Schema.Relaxed

set_option autoImplicit false

/-! # Keywords of a relaxed copy

A keyword of a copy that lacks some members finds nothing where that of the full copy finds nothing,
but for checks that have no end, as long as that holds of the schemas that it hands values on to and
asks about (`Draft7.keywordViolations_relaxes`). -/

namespace ItemTable

namespace Draft7

open Json (Relaxes Slack NoneIsPlain steeringNames)

/-! ## What both copies share -/

section

variable {lacks : Record Json → String → Prop} {library : Library} {dialect : Dialect}
  {scope : Scope} {place : Place} {value x y : Json} {keyword name : String} {xs ys : Record Json}

theorem typeNames_relaxes (h : Relaxes lacks x y) : typeNames x = typeNames y := by
  cases h with
  | same => rfl
  | array helements => exact (Relaxes.array helements).stringElements_eq
  | object => rfl

theorem limit_relaxes (h : Relaxes lacks x y) : limit x = limit y := by
  cases h <;> rfl

theorem count_relaxes (h : Relaxes lacks x y) : count x = count y := by
  cases h <;> rfl

theorem anyValue_relaxes (h : Relaxes lacks x y) (hdata : keyword ∈ Json.dataKeywords → x = y) :
    anyValue dialect place value keyword x = anyValue dialect place value keyword y := by
  unfold anyValue
  split
  · rw [typeNames_relaxes h]
  · rw [hdata (by decide)]
  · rw [hdata (by decide)]
  · rfl

theorem numbers_relaxes (h : Relaxes lacks x y) :
    numbers place value keyword x = numbers place value keyword y := by
  unfold numbers
  rw [limit_relaxes h]

theorem strings_relaxes (h : Relaxes lacks x y) :
    strings library dialect place value keyword x =
      strings library dialect place value keyword y := by
  unfold strings
  rw [count_relaxes h, h.string?_eq]

theorem rel_of_steering (hslack : Slack lacks) (h : Relaxes lacks (.object xs) (.object ys))
    (hname : name ∈ steeringNames) : Option.Rel (Relaxes lacks) (xs.get? name) (ys.get? name) :=
  h.rel fun hlacks => hslack.steering hlacks hname

theorem contains_relaxes (hslack : Slack lacks) (h : Relaxes lacks (.object xs) (.object ys))
    (hname : name ∈ steeringNames) : xs.contains name = ys.contains name := by
  have hrel := rel_of_steering hslack h hname
  unfold Record.contains
  generalize xs.get? name = found, ys.get? name = found' at hrel ⊢
  cases hrel <;> rfl

theorem governsProperties_relaxes (hslack : Slack lacks)
    (h : Relaxes lacks (.object xs) (.object ys)) :
    governsProperties xs = governsProperties ys := by
  have hrel : Option.Rel (Relaxes lacks) (xs.get? "additionalProperties")
    (ys.get? "additionalProperties") := rel_of_steering hslack h (by decide)
  unfold governsProperties
  generalize xs.get? "additionalProperties" = found, ys.get? "additionalProperties" = found'
    at hrel ⊢
  cases hrel with
  | none => rfl
  | some hxy => cases hxy <;> rfl

/-- Both copies have the same texts under names by which others are read. -/
theorem string?_relaxes (hslack : Slack lacks) (h : Relaxes lacks (.object xs) (.object ys))
    (hname : name ∈ steeringNames) :
    (xs.get? name).bind Json.string? = (ys.get? name).bind Json.string? := by
  have hrel := rel_of_steering hslack h hname
  generalize xs.get? name = found, ys.get? name = found' at hrel ⊢
  cases hrel with
  | none => rfl
  | some hxy => exact hxy.string?_eq

theorem contents_relaxes (hslack : Slack lacks)
    (hsiblings : Relaxes lacks (.object xs) (.object ys)) (h : Relaxes lacks x y) :
    contents library xs place value keyword x = contents library ys place value keyword y := by
  unfold contents
  rw [contains_relaxes hslack hsiblings (show "contentMediaType" ∈ steeringNames by decide),
    string?_relaxes hslack hsiblings (show "contentEncoding" ∈ steeringNames by decide),
    h.string?_eq]

/-- Both copies of a schema stand at the same place. -/
theorem standAlike_relaxes (hslack : Slack lacks) (h : Relaxes lacks (.object xs) (.object ys)) :
    StandAlike xs ys where
  texts := fun name hname => string?_relaxes hslack h (by revert name; decide)
  reference := contains_relaxes hslack h (by decide)

theorem within_relaxes (hslack : Slack lacks) (h : Relaxes lacks x y) :
    library.within scope x = library.within scope y := by
  cases h with
  | same => rfl
  | array => rfl
  | object hys hdata hnames hkept hmembers =>
    exact (standAlike_relaxes hslack (.object hys hdata hnames hkept hmembers)).within_eq

theorem outermost_relaxes (hslack : Slack lacks) (h : Relaxes lacks x y) :
    library.outermost x = library.outermost y := by
  cases h with
  | same => rfl
  | array => rfl
  | object hys hdata hnames hkept hmembers =>
    exact (standAlike_relaxes hslack (.object hys hdata hnames hkept hmembers)).outermost_eq

end

/-! ## Schemas under names -/

section

variable {lacks : Record Json → String → Prop} {xs ys : Record Json} {keyword name : String}
  {x y : Json}

/-- The schemas under names in the relaxed copy are those of the full one. -/
theorem schemasUnder_relaxes (hslack : Slack lacks) (h : Relaxes lacks (.object xs) (.object ys))
    (hkeyword : keyword ∈ steeringNames) :
    Relaxes lacks (.object (schemasUnder xs keyword)) (.object (schemasUnder ys keyword)) := by
  have hrel := rel_of_steering hslack h hkeyword
  unfold schemasUnder
  generalize xs.get? keyword = found, ys.get? keyword = found' at hrel ⊢
  cases hrel with
  | none => exact .same _
  | some hxy =>
    cases hxy with
    | same => exact .same _
    | array => exact .same _
    | object hys hdata hnames hkept hmembers => exact .object hys hdata hnames hkept hmembers

theorem mem_names_relaxes (hslack : Slack lacks) (h : Relaxes lacks (.object xs) (.object ys))
    (hxs : NoneIsPlain xs) : name ∈ xs.names ↔ name ∈ ys.names := by
  constructor
  · intro hname
    obtain ⟨x, hx⟩ := Record.mem_names_iff.1 hname
    obtain ⟨y, hy, -⟩ := h.kept hx fun hlacks => hslack.plain hlacks hxs
    exact Record.mem_names_iff.2 ⟨y, hy⟩
  · intro hname
    obtain ⟨y, hy⟩ := Record.mem_names_iff.1 hname
    obtain ⟨x, hx, -⟩ := h.get? hy
    exact Record.mem_names_iff.2 ⟨x, hx⟩

/-- Both copies expect the same names. -/
theorem isExpected_relaxes (hslack : Slack lacks) {ps qs : Record Json}
    (hproperties : Relaxes lacks (.object xs) (.object ys))
    (hpatterns : Relaxes lacks (.object ps) (.object qs)) (hxs : NoneIsPlain xs)
    (hps : NoneIsPlain ps)
    (name : String) : isExpected xs ps name = isExpected ys qs name := by
  have hcontains : xs.contains name = ys.contains name := by
    rw [Bool.eq_iff_iff, Record.contains_eq_true_iff, Record.contains_eq_true_iff]
    exact mem_names_relaxes hslack hproperties hxs
  have hany : ∀ r : Record Json, (r.any fun p => Matcher.isFound p.1 name) =
      r.names.any fun pattern => Matcher.isFound pattern name := by
    intro r
    rw [Record.names, List.any_map]
    rfl
  unfold isExpected
  rw [hcontains, hany, hany]
  congr 1
  rw [Bool.eq_iff_iff, List.any_eq_true, List.any_eq_true]
  simp only [mem_names_relaxes hslack hpatterns hps]

end

/-! ## Handing on -/

section

variable {lacks : Record Json → String → Prop} {xs ys : Record Json} {keyword : String}
  {value x y part schema' : Json} {steps : Path} {words : List String}

/-- What a keyword of the relaxed copy hands on in any case, that of the full copy does. -/
theorem Hands.of_relaxes (hslack : Slack lacks)
    (hsiblings : Relaxes lacks (.object xs) (.object ys)) (hxy : Relaxes lacks x y)
    (hproperties : NoneIsPlain (schemasUnder xs "properties"))
    (hpatterns : NoneIsPlain (schemasUnder xs "patternProperties"))
    (h : Hands ys value keyword y .always steps words schema' part) :
    ∃ schema, Hands xs value keyword x .always steps words schema part ∧
      Relaxes lacks schema schema' := by
  have hgoverned' := governsProperties_relaxes hslack hsiblings
  have hproperties' : Relaxes lacks (.object (schemasUnder xs "properties"))
      (.object (schemasUnder ys "properties")) := schemasUnder_relaxes hslack hsiblings (by decide)
  have hpatterns' : Relaxes lacks (.object (schemasUnder xs "patternProperties"))
      (.object (schemasUnder ys "patternProperties")) :=
    schemasUnder_relaxes hslack hsiblings (by decide)
  cases h with
  | property hgoverned hschema hpart =>
    obtain ⟨schema, hschema', hrel⟩ := hxy.object?_getD.member hschema
    exact ⟨schema, .property (hgoverned'.trans hgoverned) hschema' hpart, hrel⟩
  | pattern hgoverned hschema hpart hfound =>
    obtain ⟨schema, hschema', hrel⟩ := hxy.object?_getD.member hschema
    exact ⟨schema, .pattern (hgoverned'.trans hgoverned) hschema' hpart hfound, hrel⟩
  | governedProperty hgoverned hpart hschema =>
    obtain ⟨schema, hschema', hrel⟩ := hproperties'.get? hschema
    exact ⟨schema, .governedProperty (hgoverned'.trans hgoverned) hpart hschema', hrel⟩
  | governedPattern hgoverned hpart hschema hfound =>
    obtain ⟨schema, hschema', hrel⟩ := hpatterns'.member hschema
    exact ⟨schema, .governedPattern (hgoverned'.trans hgoverned) hpart hschema' hfound, hrel⟩
  | governedOther hgoverned hpart hexpected hargument =>
    rw [← isExpected_relaxes hslack hproperties' hpatterns' hproperties hpatterns] at hexpected
    rw [← hxy.isObject_eq] at hargument
    exact ⟨x, .governedOther (hgoverned'.trans hgoverned) hpart hexpected hargument, hxy⟩
  | element hargument hx =>
    rw [← hxy.isArray_eq] at hargument
    exact ⟨x, .element hargument hx, hxy⟩
  | tuple hschema hx =>
    obtain ⟨schemas, rfl, helements⟩ := hxy.eq_array
    obtain ⟨schema, hschema', hrel⟩ := Traversal.getElem?_of_forall₂ helements hschema
    exact ⟨schema, .tuple hschema' hx, hrel⟩
  | further hitems hargument hx =>
    obtain ⟨items, hitems', hrel⟩ := hsiblings.get? hitems
    obtain ⟨schemas, rfl, helements⟩ := hrel.eq_array
    rw [← helements.length_eq] at hx ⊢
    rw [← hxy.isObject_eq] at hargument
    exact ⟨x, .further hitems' hargument hx, hxy⟩
  | each hschema =>
    obtain ⟨schema, hschema', hrel⟩ := hxy.array?_getD.element hschema
    exact ⟨schema, .each hschema', hrel⟩
  | name hargument hmember =>
    have hargument' : x ≠ .bool false := by
      rintro rfl
      cases hxy
      exact hargument rfl
    exact ⟨x, .name hargument' hmember, hxy⟩

end

/-! ## Checks that have no end -/

/-- A check finds nothing, but perhaps that it has no end. -/
def OnlyEndless (found : List Violation) : Prop := ∀ v ∈ found, v.isEndless = true

section

variable {place : Place} {value : Json} {problem : Problem} {found : List Violation}

theorem onlyEndless_nil : OnlyEndless [] := fun _ h => nomatch h

theorem OnlyEndless.of_eq_nil (h : found = []) : OnlyEndless found := by
  rw [h]
  exact onlyEndless_nil

theorem onlyEndless_append {xs ys : List Violation} :
    OnlyEndless (xs ++ ys) ↔ OnlyEndless xs ∧ OnlyEndless ys := List.forall_mem_append

theorem onlyEndless_flatMap {α : Type} {xs : List α} {f : α → List Violation}
    (h : ∀ x ∈ xs, OnlyEndless (f x)) : OnlyEndless (xs.flatMap f) := by
  intro v hv
  obtain ⟨x, hx, hv⟩ := List.mem_flatMap.1 hv
  exact h x hx v hv

theorem fits?_eq_some_true_iff : fits? found = some true ↔ found = [] := by
  cases found with
  | nil => exact iff_of_true rfl rfl
  | cons first rest =>
    rw [fits?]
    split <;> simp

/-- What finds nothing else is not refused. -/
theorem OnlyEndless.fits? (h : OnlyEndless found) : Draft7.fits? found ≠ some false := by
  cases found with
  | nil => simp [Draft7.fits?]
  | cons first rest => simp [Draft7.fits?, h first (.head _)]

theorem expect_eq_nil_iff {holds : Bool} :
    expect holds place value problem = [] ↔ holds = true := by
  cases holds <;> simp [expect]

theorem expect?_eq_nil_iff {holds : Option Bool} :
    expect? holds place value problem = [] ↔ holds = some true := by
  unfold expect?
  split <;> simp

theorem onlyEndless_expect? {holds : Option Bool} (h : holds ≠ some false) :
    OnlyEndless (expect? holds place value problem) := by
  unfold expect?
  split
  · exact onlyEndless_nil
  · exact absurd rfl h
  · exact List.forall_mem_singleton.2 rfl

/-! ### Answers of the two copies -/

/-- Where an answer that was yes did not become no, some answer did not become none. -/
theorem anyFits?_ne_false {ps qs : List (Option Bool)}
    (h : List.Forall₂ (fun p q => p = some true → q ≠ some false) ps qs)
    (hfull : anyFits? ps = some true) : anyFits? qs ≠ some false := by
  induction h with
  | nil => cases hfull
  | @cons p q _ _ hfirst _ ih =>
    rcases q with _ | _ | _
    · simp [anyFits?]
    · rcases p with _ | _ | _
      · cases hfull
      · exact ih hfull
      · exact absurd rfl (hfirst rfl)
    · simp [anyFits?]

/-- Where no answer that was no became yes, none is yes. -/
theorem anyFits?_ne_true {ps qs : List (Option Bool)}
    (h : List.Forall₂ (fun p q => p = some false → q ≠ some true) ps qs)
    (hfull : anyFits? ps = some false) : anyFits? qs ≠ some true := by
  induction h with
  | nil => simp [anyFits?]
  | @cons p q _ _ hfirst _ ih =>
    rcases p with _ | _ | _
    · cases hfull
    · rcases q with _ | _ | _
      · simp [anyFits?]
      · exact ih hfull
      · exact absurd rfl (hfirst rfl)
    · cases hfull

/-- Where no answer turned into the other one, one yes stays one. -/
theorem countFits?_eq_one {ps qs : List (Option Bool)} {n : Nat}
    (h : List.Forall₂ (fun p q => (p = some true → q ≠ some false) ∧
      (p = some false → q ≠ some true)) ps qs)
    (hfull : countFits? ps = some 1) (hrelaxed : countFits? qs = some n) : n = 1 := by
  induction h with
  | nil => cases hfull
  | @cons p q ps qs hfirst hrest ih =>
    rcases p with _ | _ | _
    · cases hfull
    · rcases q with _ | _ | _
      · cases hrelaxed
      · exact ih hfull hrelaxed
      · exact absurd rfl (hfirst.2 rfl)
    · obtain ⟨another, hanother, hone⟩ := Option.map_eq_some_iff.1 hfull
      have hfalse : another = false := by
        cases another with
        | false => rfl
        | true => cases hone
      subst hfalse
      have hnone := anyFits?_ne_true (hrest.imp fun _ _ h => h.2) hanother
      rcases q with _ | _ | _
      · cases hrelaxed
      · exact absurd rfl (hfirst.1 rfl)
      · obtain ⟨other, hother, rfl⟩ := Option.map_eq_some_iff.1 hrelaxed
        cases other with
        | false => rfl
        | true => exact absurd hother hnone

end

/-! ## What a keyword finds -/

/-- The keywords that ask whether a value fits, and may find something because it does. -/
def turningWords : List String := ["not", "if", "oneOf"]

/-- Where the full copy finds nothing in what its keyword hands on and asks about, the relaxed copy
finds nothing there, but perhaps that a check has no end; and what is refused there by the full copy
is not accepted by the relaxed one, if the keyword may find something because a value fits. -/
structure Weaker (lacks : Record Json → String → Prop) (full relaxed : Check)
    (xs ys : Record Json) (place : Place) (value : Json) (keyword : String) (x y : Json) :
    Prop where
  hands : ∀ {needs needs' : Need} {steps : Path} {words : List String}
    {schema schema' part : Json}, Hands xs value keyword x needs steps words schema part →
    Hands ys value keyword y needs' steps words schema' part → needs.Holds full place value →
    needs'.Holds relaxed place value → Relaxes lacks schema schema' →
    full schema (place.onward steps words) part = [] →
    OnlyEndless (relaxed schema' (place.onward steps words) part)
  tests : ∀ {i : Nat} {schema schema' part : Json}, Tests xs value keyword x i schema part →
    Tests ys value keyword y i schema' part → Relaxes lacks schema schema' →
    full schema (place.keyword keyword) part = [] →
    OnlyEndless (relaxed schema' (place.keyword keyword) part)
  turns : keyword ∈ turningWords → ∀ {i : Nat} {schema schema' part : Json},
    Tests xs value keyword x i schema part → Tests ys value keyword y i schema' part →
    fits? (full schema (place.keyword keyword) part) = some false →
    fits? (relaxed schema' (place.keyword keyword) part) ≠ some true

section

variable {lacks : Record Json → String → Prop} {library : Library} {dialect : Dialect}
  {check check' : Check} {siblings xs ys : Record Json} {place : Place} {value x y argument : Json}
  {keyword : String}

/-- What fits in the full copy is not refused by the relaxed one. -/
theorem Weaker.fits (h : Weaker lacks check check' xs ys place value keyword x y) {i : Nat}
    {schema schema' part : Json} (htests : Tests xs value keyword x i schema part)
    (htests' : Tests ys value keyword y i schema' part) (hrel : Relaxes lacks schema schema')
    (hfits : fits? (check schema (place.keyword keyword) part) = some true) :
    fits? (check' schema' (place.keyword keyword) part) ≠ some false :=
  (h.tests htests htests' hrel (fits?_eq_some_true_iff.1 hfits)).fits?

theorem onlyEndless_checkElements {schema : Json} {first : Nat} {elements : List Json}
    (h : ∀ i part, elements[i]? = some part →
      OnlyEndless (check schema (place.inside (Nat.repr (first + i))) part)) :
    OnlyEndless (checkElements check place schema first elements) := by
  intro v hv
  obtain ⟨i, part, hpart, hv⟩ := mem_checkElements.1 hv
  exact h i part hpart v hv

/-- A keyword hands on in any case, and nothing is found there, but perhaps that a check has no end.
-/
def AcceptsHanded (check : Check) (siblings : Record Json) (place : Place) (value : Json)
    (keyword : String) (argument : Json) : Prop :=
  ∀ {steps : Path} {words : List String} {schema part : Json},
    Hands siblings value keyword argument .always steps words schema part →
      OnlyEndless (check schema (place.onward steps words) part)

theorem onlyEndless_items {elements : List Json}
    (h : AcceptsHanded check siblings place (.array elements) "items" argument) :
    OnlyEndless
      (arrays check siblings (place.keyword "items") (.array elements) "items" argument) := by
  have helements : argument.isArray = false →
      OnlyEndless (checkElements check (place.keyword "items") argument 0 elements) := by
    intro harray
    refine onlyEndless_checkElements fun i part hpart => ?_
    have haccepts := h (.element harray hpart)
    rwa [← Place.onward_inside_position, ← Place.keyword_eq_onward, ← Nat.zero_add i] at haccepts
  cases argument with
  | array schemas =>
    intro v hv
    obtain ⟨i, schema, part, hschema, hpart, hv⟩ := mem_checkTuple.1 hv
    rw [Nat.zero_add, Place.keyword_keyword, Place.onward_inside_position] at hv
    exact h (.tuple hschema hpart) v hv
  | _ => exact helements rfl

/-- Where an element fits in the full copy, that or another one does so in the relaxed copy, or
there is no answer. -/
theorem contains_weaker {elements : List Json} (hxy : Relaxes lacks x y)
    (hweaker : Weaker lacks check check' xs ys place (.array elements) "contains" x y)
    (h : anyFits? (elements.map fun part => fits? (check x (place.keyword "contains") part)) =
      some true) :
    anyFits? (elements.map fun part => fits? (check' y (place.keyword "contains") part)) ≠
      some false := by
  refine anyFits?_ne_false (Traversal.forall₂_map_map.2 fun part hpart => ?_) h
  obtain ⟨i, hi⟩ := List.mem_iff_getElem?.1 hpart
  exact hweaker.fits (.element hi) (.element hi) hxy

theorem arrays_relaxes (hsiblings : Relaxes lacks (.object xs) (.object ys))
    (hxy : Relaxes lacks x y)
    (hweaker : Weaker lacks check check' xs ys place value keyword x y)
    (hhanded : AcceptsHanded check' ys place value keyword y)
    (h : arrays check xs (place.keyword keyword) value keyword x = []) :
    OnlyEndless (arrays check' ys (place.keyword keyword) value keyword y) := by
  cases value with
  | array elements =>
    by_cases hitems : keyword = "items"
    · subst hitems
      exact onlyEndless_items hhanded
    · unfold arrays at h ⊢
      rw [count_relaxes hxy, hxy.bool?_eq] at h
      dsimp only at h ⊢
      split
      · exact absurd rfl hitems
      · split
        · next schemas members hschemas =>
          refine onlyEndless_checkElements fun i part hpart => ?_
          rw [List.getElem?_drop] at hpart
          have haccepts := hhanded (.further hschemas rfl hpart)
          rwa [← Place.onward_inside_position, ← Place.keyword_eq_onward] at haccepts
        · next schemas hschemas =>
          -- `false` forbids elements behind the tuple, which is as long in both copies
          cases hxy
          obtain ⟨items, hitems', hrel⟩ := hsiblings.get? hschemas
          obtain ⟨schemas', rfl, helements⟩ := hrel.eq_array
          rw [hitems'] at h
          have hfull := expect_eq_nil_iff.1 h
          rw [helements.length_eq] at hfull
          exact .of_eq_nil (expect_eq_nil_iff.2 hfull)
        · exact onlyEndless_nil
      · exact .of_eq_nil h
      · exact .of_eq_nil h
      · exact .of_eq_nil h
      · exact onlyEndless_expect? (contains_weaker hxy hweaker (expect?_eq_nil_iff.1 h))
      · exact onlyEndless_nil
  | _ => exact onlyEndless_nil

/-! ### Objects -/

/-- What governs members finds nothing in what it hands on. -/
theorem onlyEndless_checkMember {members : Record Json} {name : String} {part : Json}
    (hgoverned : governsProperties siblings = true) (hpart : (name, part) ∈ members)
    (h : AcceptsHanded check siblings place (.object members) "additionalProperties" argument) :
    OnlyEndless (checkMember check place (schemasUnder siblings "properties")
      (schemasUnder siblings "patternProperties") argument name part) := by
  unfold checkMember
  rw [onlyEndless_append, onlyEndless_append]
  refine ⟨⟨?_, ?_⟩, ?_⟩
  · split
    · next schema hschema =>
      rw [Place.keyword_keyword, Place.onward_inside_key]
      exact h (.governedProperty hgoverned hpart hschema)
    · exact onlyEndless_nil
  · intro v hv
    obtain ⟨pattern, schema, hschema, hfound, hv⟩ := mem_checkPatterns.1 hv
    rw [Place.keyword_keyword, Place.onward_inside_key] at hv
    exact h (.governedPattern hgoverned hpart hschema hfound) v hv
  · split
    · exact onlyEndless_nil
    · next hother =>
      have hnot : isExpected (schemasUnder siblings "properties")
          (schemasUnder siblings "patternProperties") name = false ∧ argument.isObject = true := by
        simpa using hother
      rw [Place.keyword_eq_onward, Place.onward_inside_key]
      exact h (.governedOther hgoverned hpart hnot.1 hnot.2)

theorem additional_relaxes (hslack : Slack lacks) {members : Record Json}
    (hsiblings : Relaxes lacks (.object xs) (.object ys))
    (hxy : Relaxes lacks x y) (hproperties : NoneIsPlain (schemasUnder xs "properties"))
    (hpatterns : NoneIsPlain (schemasUnder xs "patternProperties"))
    (hgoverned : governsProperties ys = true)
    (hhanded : AcceptsHanded check' ys place (.object members) "additionalProperties" y)
    (h : additional check xs place members x = []) :
    OnlyEndless (additional check' ys place members y) := by
  have hexpected : ∀ name, isExpected (schemasUnder xs "properties")
      (schemasUnder xs "patternProperties") name =
        isExpected (schemasUnder ys "properties") (schemasUnder ys "patternProperties") name :=
    isExpected_relaxes hslack (schemasUnder_relaxes hslack hsiblings (by decide))
      (schemasUnder_relaxes hslack hsiblings (by decide)) hproperties hpatterns
  have hunexpected := (List.append_eq_nil_iff.1 h).2
  simp only [hexpected, hxy.isObject_eq,
    contains_relaxes hslack hsiblings (show "properties" ∈ steeringNames by decide),
    contains_relaxes hslack hsiblings (show "patternProperties" ∈ steeringNames by decide)]
    at hunexpected
  refine onlyEndless_append.2 ⟨onlyEndless_flatMap ?_, .of_eq_nil hunexpected⟩
  rintro ⟨name, part⟩ hpart
  exact onlyEndless_checkMember hgoverned hpart hhanded

/-- An entry of `dependencies` finds nothing in the relaxed copy: its names are those of the full
one, and its schema is no stricter. -/
theorem dependency_relaxes {members : Record Json} {name : String} {needed needed' : Json}
    (hneeded : Relaxes lacks needed needed')
    (hschema : needed.isArray = false → Record.contains members name = true →
      check needed (place.keyword name) (.object members) = [] →
      OnlyEndless (check' needed' (place.keyword name) (.object members)))
    (h : dependency check place members name needed = []) :
    OnlyEndless (dependency check' place members name needed') := by
  unfold dependency at h ⊢
  split
  · next hname =>
    rw [if_pos hname] at h
    cases hneeded with
    | same =>
      cases needed with
      | array => exact .of_eq_nil h
      | _ => exact hschema rfl hname h
    | array helements =>
      dsimp only at h ⊢
      rw [(Relaxes.array helements).stringElements_eq] at h
      exact .of_eq_nil h
    | object => exact hschema rfl hname h
  · exact onlyEndless_nil

theorem objects_relaxes (hslack : Slack lacks)
    (hsiblings : Relaxes lacks (.object xs) (.object ys)) (hxy : Relaxes lacks x y)
    (hproperties : NoneIsPlain (schemasUnder xs "properties"))
    (hpatterns : NoneIsPlain (schemasUnder xs "patternProperties"))
    (hweaker : Weaker lacks check check' xs ys place value keyword x y)
    (hhanded : AcceptsHanded check' ys place value keyword y)
    (h : objects check xs place value keyword x = []) :
    OnlyEndless (objects check' ys place value keyword y) := by
  cases value with
  | object members =>
    unfold objects at h ⊢
    rw [count_relaxes hxy, hxy.stringElements_eq] at h
    dsimp only at h ⊢
    split
    · split
      · exact onlyEndless_nil
      · next hgoverned =>
        refine onlyEndless_flatMap ?_
        rintro ⟨name, schema⟩ hschema
        dsimp only
        split
        · next part hpart =>
          rw [Place.keyword_keyword, Place.onward_inside_key]
          exact hhanded (.property (by simpa using hgoverned) hschema hpart)
        · exact onlyEndless_nil
    · split
      · exact onlyEndless_nil
      · next hgoverned =>
        refine onlyEndless_flatMap ?_
        rintro ⟨pattern, schema⟩ hschema
        refine onlyEndless_flatMap ?_
        rintro ⟨name, part⟩ hpart
        obtain ⟨hpart, hfound⟩ := List.mem_filter.1 hpart
        rw [Place.keyword_keyword, Place.onward_inside_key]
        exact hhanded (.pattern (by simpa using hgoverned) hschema hpart hfound)
    · split
      · next hgoverned =>
        have hgoverned' := (governsProperties_relaxes hslack hsiblings).trans hgoverned
        have hadditional : additional check xs place members x = [] :=
          (if_pos hgoverned').symm.trans h
        exact additional_relaxes hslack hsiblings hxy hproperties hpatterns hgoverned hhanded
          hadditional
      · exact onlyEndless_nil
    · exact .of_eq_nil h
    · exact .of_eq_nil h
    · exact .of_eq_nil h
    · split
      · cases hxy
        exact .of_eq_nil h
      · next hargument =>
        refine onlyEndless_flatMap fun m hm => ?_
        rw [Place.keyword_eq_onward]
        exact hhanded (.name hargument hm)
    · refine onlyEndless_flatMap ?_
      rintro ⟨name, needed'⟩ hneeded'
      obtain ⟨needed, hneeded, hrel⟩ := hxy.object?_getD.member hneeded'
      have hentry := List.flatMap_eq_nil_iff.1 h _ hneeded
      refine dependency_relaxes hrel (fun harray hname => ?_) hentry
      have hholds : ∃ others, Json.object members = .object others ∧
        Record.contains others name = true := ⟨members, rfl, hname⟩
      rw [Place.keyword_keyword]
      exact hweaker.hands (.dependent hneeded harray)
        (.dependent hneeded' (hrel.isArray_eq.symm.trans harray)) hholds hholds hrel
    · exact onlyEndless_nil
  | _ => exact onlyEndless_nil

/-! ### Combined schemas -/

/-- The answers to the alternatives of the two copies, each with the other copy's. -/
theorem alternatives_relaxes {P : Option Bool → Option Bool → Prop} (hxy : Relaxes lacks x y)
    (h : ∀ (i : Nat) (schema schema' : Json), (x.array?.getD [])[i]? = some schema →
      (y.array?.getD [])[i]? = some schema' → Relaxes lacks schema schema' →
      P (fits? (check schema place value)) (fits? (check' schema' place value))) :
    List.Forall₂ P ((x.array?.getD []).map fun schema => fits? (check schema place value))
      ((y.array?.getD []).map fun schema => fits? (check' schema place value)) := by
  have hschemas : List.Forall₂ (Relaxes lacks) (x.array?.getD []) (y.array?.getD []) :=
    hxy.array?_getD.elements
  rw [List.forall₂_map_left_iff, List.forall₂_map_right_iff, List.forall₂_iff_get]
  refine ⟨hschemas.length_eq, fun i hi hi' => ?_⟩
  exact h i _ _ (List.getElem?_eq_getElem hi) (List.getElem?_eq_getElem hi')
    ((List.forall₂_iff_get.1 hschemas).2 i hi hi')

/-- Where one alternative fits in the full copy, one fits in the relaxed copy, or there is no
answer. -/
theorem anyOf_relaxes (hxy : Relaxes lacks x y)
    (hweaker : Weaker lacks check check' xs ys place value "anyOf" x y)
    (h : anyFits? ((x.array?.getD []).map fun schema =>
      fits? (check schema (place.keyword "anyOf") value)) = some true) :
    anyFits? ((y.array?.getD []).map fun schema =>
      fits? (check' schema (place.keyword "anyOf") value)) ≠ some false := by
  refine anyFits?_ne_false
    (alternatives_relaxes hxy fun i schema schema' hschema hschema' hrel => ?_) h
  exact hweaker.fits (.alternative (.inl rfl) hschema) (.alternative (.inl rfl) hschema') hrel

/-- Where exactly one alternative fits in the full copy, exactly one fits in the relaxed copy, or
there is no answer. -/
theorem oneOf_relaxes (hxy : Relaxes lacks x y)
    (hweaker : Weaker lacks check check' xs ys place value "oneOf" x y)
    (h : combined check xs place value "oneOf" x = []) :
    OnlyEndless (combined check' ys place value "oneOf" y) := by
  simp only [combined] at h ⊢
  have hfull : countFits? ((x.array?.getD []).map fun schema =>
      fits? (check schema (place.keyword "oneOf") value)) = some 1 := by
    split at h
    · cases h
    · next hone => exact hone
    · cases h
    · cases h
  have hone : ∀ {n}, countFits? ((y.array?.getD []).map fun schema =>
      fits? (check' schema (place.keyword "oneOf") value)) = some n → n = 1 := by
    refine countFits?_eq_one
      (alternatives_relaxes hxy fun i schema schema' hschema hschema' hrel => ⟨?_, ?_⟩) hfull
    · exact hweaker.fits (.alternative (.inr rfl) hschema) (.alternative (.inr rfl) hschema') hrel
    · exact hweaker.turns (by decide) (.alternative (.inr rfl) hschema)
        (.alternative (.inr rfl) hschema')
  split
  · next hnone => cases hone hnone
  · exact onlyEndless_nil
  · next n _ hother hmore => exact absurd (hone hmore) hother
  · exact List.forall_mem_singleton.2 rfl

/-- A branch that finds nothing in the full copy finds nothing in the relaxed one. -/
theorem branch_relaxes {word : String} {needs needs' : Need}
    (hsiblings : Relaxes lacks (.object xs) (.object ys))
    (hweaker : Weaker lacks check check' xs ys place value "if" x y)
    (hhands : ∀ {schema}, xs.get? word = some schema →
      Hands xs value "if" x needs [] [word] schema value)
    (hhands' : ∀ {schema}, ys.get? word = some schema →
      Hands ys value "if" y needs' [] [word] schema value)
    (hneeds : needs.Holds check place value) (hneeds' : needs'.Holds check' place value)
    (h : (match xs.get? word with
      | some schema => check schema (place.keyword word) value
      | none => []) = []) :
    OnlyEndless (match ys.get? word with
      | some schema => check' schema (place.keyword word) value
      | none => []) := by
  split
  · next schema' hschema' =>
    obtain ⟨schema, hschema, hrel⟩ := hsiblings.get? hschema'
    rw [hschema] at h
    rw [Place.keyword_eq_onward] at h ⊢
    exact hweaker.hands (hhands hschema) (hhands' hschema') hneeds hneeds' hrel h
  · exact onlyEndless_nil

/-- The branches of a condition: where a value that fits in the full copy is not refused by the
relaxed one, and the other way round, both copies take the same branch, or there is no answer. -/
theorem condition_relaxes (hslack : Slack lacks)
    (hsiblings : Relaxes lacks (.object xs) (.object ys)) (hxy : Relaxes lacks x y)
    (hweaker : Weaker lacks check check' xs ys place value "if" x y)
    (h : combined check xs place value "if" x = []) :
    OnlyEndless (combined check' ys place value "if" y) := by
  have hcontains : ∀ word, word = "then" ∨ word = "else" →
      xs.contains word = ys.contains word := by
    rintro word (rfl | rfl)
    · exact contains_relaxes hslack hsiblings (by decide)
    · exact contains_relaxes hslack hsiblings (by decide)
  simp only [combined, hcontains "then" (.inl rfl), hcontains "else" (.inr rfl)] at h ⊢
  split
  swap
  · exact onlyEndless_nil
  next hbranch =>
  rw [if_pos hbranch] at h
  obtain ⟨word, hword, hbranch⟩ :
      ∃ word, (word = "then" ∨ word = "else") ∧ ys.contains word = true := by
    rcases Bool.or_eq_true_iff.1 hbranch with hbranch | hbranch
    · exact ⟨"then", .inl rfl, hbranch⟩
    · exact ⟨"else", .inr rfl, hbranch⟩
  have htests : Tests xs value "if" x 0 x value :=
    .condition hword ((hcontains word hword).trans hbranch)
  have htests' : Tests ys value "if" y 0 y value := .condition hword hbranch
  cases hfull : fits? (check x (place.keyword "if") value) with
  | none =>
    rw [hfull] at h
    cases h
  | some fits =>
    rw [hfull] at h
    cases hrelaxed : fits? (check' y (place.keyword "if") value) with
    | none => exact List.forall_mem_singleton.2 rfl
    | some fits' =>
      cases fits with
      | true =>
        have hfits' : fits' = true := by
          have hnot := hweaker.fits htests htests' hxy hfull
          rw [hrelaxed] at hnot
          simpa using hnot
        subst hfits'
        exact branch_relaxes hsiblings hweaker .consequence .consequence hfull hrelaxed h
      | false =>
        have hfits' : fits' = false := by
          have hnot := hweaker.turns (by decide) htests htests' hfull
          rw [hrelaxed] at hnot
          simpa using hnot
        subst hfits'
        exact branch_relaxes hsiblings hweaker .alternative .alternative hfull hrelaxed h

theorem combined_relaxes (hslack : Slack lacks)
    (hsiblings : Relaxes lacks (.object xs) (.object ys)) (hxy : Relaxes lacks x y)
    (hweaker : Weaker lacks check check' xs ys place value keyword x y)
    (hhanded : AcceptsHanded check' ys place value keyword y)
    (h : combined check xs place value keyword x = []) :
    OnlyEndless (combined check' ys place value keyword y) := by
  by_cases hone : keyword = "oneOf"
  · subst hone
    exact oneOf_relaxes hxy hweaker h
  by_cases hif : keyword = "if"
  · subst hif
    exact condition_relaxes hslack hsiblings hxy hweaker h
  unfold combined at h ⊢
  dsimp only at h ⊢
  split
  · intro v hv
    obtain ⟨i, schema, hschema, hv⟩ := mem_checkEach.1 hv
    rw [Nat.zero_add, Place.keyword_keyword] at hv
    exact hhanded (.each hschema) v hv
  · exact onlyEndless_expect? (anyOf_relaxes hxy hweaker (expect?_eq_nil_iff.1 h))
  · exact absurd rfl hone
  · obtain ⟨fits, hfits, hfalse⟩ := Option.map_eq_some_iff.1 (expect?_eq_nil_iff.1 h)
    have hrefused : fits = false := by simpa using hfalse
    subst hrefused
    have hnot := hweaker.turns (by decide) .negation .negation hfits
    refine onlyEndless_expect? fun hrelaxed => hnot ?_
    obtain ⟨fits', hfits', htrue⟩ := Option.map_eq_some_iff.1 hrelaxed
    rw [hfits', show fits' = true by simpa using htrue]
  · exact absurd rfl hif
  · exact onlyEndless_nil

/-- A keyword of the relaxed copy finds nothing where that of the full one finds nothing, but
perhaps that a check has no end. -/
theorem keywordViolations_relaxes (hslack : Slack lacks)
    (hsiblings : Relaxes lacks (.object xs) (.object ys))
    (hxy : Relaxes lacks x y) (hdata : keyword ∈ Json.dataKeywords → x = y)
    (hproperties : NoneIsPlain (schemasUnder xs "properties"))
    (hpatterns : NoneIsPlain (schemasUnder xs "patternProperties"))
    (hweaker : Weaker lacks check check' xs ys place value keyword x y)
    (h : keywordViolations library dialect check xs place value keyword x = []) :
    OnlyEndless (keywordViolations library dialect check' ys place value keyword y) := by
  -- what the relaxed copy's keyword hands on in any case, the full copy's does, and accepts it
  have hhanded : AcceptsHanded check' ys place value keyword y := by
    intro steps words schema' part hhands'
    obtain ⟨schema, hhands, hrel⟩ := hhands'.of_relaxes hslack hsiblings hxy hproperties hpatterns
    refine hweaker.hands hhands hhands' trivial trivial hrel
      (List.eq_nil_iff_forall_not_mem.2 fun v hv => ?_)
    have hmem : v ∈ keywordViolations library dialect check xs place value keyword x :=
      mem_of_hands hhands trivial hv
    rw [h] at hmem
    cases hmem
  simp only [keywordViolations, List.append_eq_nil_iff] at h
  obtain ⟨⟨⟨⟨⟨⟨hany, hnumbers⟩, hstrings⟩, hcontents⟩, harrays⟩, hobjects⟩, hcombined⟩ := h
  rw [anyValue_relaxes hxy hdata] at hany
  rw [numbers_relaxes hxy] at hnumbers
  rw [strings_relaxes hxy] at hstrings
  rw [contents_relaxes hslack hsiblings hxy] at hcontents
  simp only [keywordViolations, hany, hnumbers, hstrings, hcontents, List.nil_append,
    onlyEndless_append]
  exact ⟨⟨arrays_relaxes hsiblings hxy hweaker hhanded harrays,
    objects_relaxes hslack hsiblings hxy hproperties hpatterns hweaker hhanded hobjects⟩,
    combined_relaxes hslack hsiblings hxy hweaker hhanded hcombined⟩

end

/-! ## References -/

section

variable {lacks : Record Json → String → Prop}

theorem reach?_relaxes {segments : List (List Char)} {x y part' : Json} (h : Relaxes lacks x y)
    (hpart' : reach? y segments = some part') :
    ∃ part, reach? x segments = some part ∧ Relaxes lacks part part' := by
  induction segments generalizing x y with
  | nil =>
    obtain rfl : y = part' := by simpa [reach?] using hpart'
    exact ⟨x, by simp [reach?], h⟩
  | cons segment rest ih =>
    cases y with
    | array ys =>
      obtain ⟨xs, rfl, helements⟩ := h.eq_array
      obtain ⟨next', hnext', hrest⟩ := Option.bind_eq_some_iff.1 hpart'
      obtain ⟨i, hi, hnext'⟩ := Option.bind_eq_some_iff.1 hnext'
      obtain ⟨next, hnext, hrel⟩ := Traversal.getElem?_of_forall₂ helements hnext'
      obtain ⟨part, hpart, hrel⟩ := ih hrel hrest
      refine ⟨part, ?_, hrel⟩
      rw [reach?, hi, Option.bind_some, hnext]
      exact hpart
    | object ys =>
      obtain ⟨xs, rfl, hobjects⟩ := h.eq_object
      obtain ⟨next', hnext', hrest⟩ := Option.bind_eq_some_iff.1 hpart'
      obtain ⟨next, hnext, hrel⟩ := hobjects.get? hnext'
      obtain ⟨part, hpart, hrel⟩ := ih hrel hrest
      refine ⟨part, ?_, hrel⟩
      rw [reach?, hnext]
      exact hpart
    | _ => cases hpart'

/-- Where a reference leads to in the relaxed copy is the relaxed copy of where it leads to. -/
theorem resolve?_relaxes {root root' target' : Json} {reference : String}
    (h : Relaxes lacks root root')
    (htarget' : resolve? root' reference = some target') :
    ∃ target, resolve? root reference = some target ∧ Relaxes lacks target target' := by
  unfold resolve? at htarget' ⊢
  split at htarget'
  · cases htarget'
    exact ⟨root, rfl, h⟩
  · cases htarget'
    exact ⟨root, rfl, h⟩
  · obtain ⟨cs, hcs, hreach⟩ := Option.bind_eq_some_iff.1 htarget'
    obtain ⟨target, htarget, hrel⟩ := reach?_relaxes h hreach
    refine ⟨target, ?_, hrel⟩
    rw [hcs]
    exact htarget
  · cases htarget'

/-- What a reference leads to in the relaxed document it leads to in the full one, but for members
that are lacking: a part of both documents, or one of another document. -/
def Library.ReadsAlike (library : Library) (lacks : Record Json → String → Prop)
    (full relaxed : Json) : Prop :=
  ∀ {base reference : String} {target' : Json} {there : Scope},
    library.resolve? relaxed base reference = some (target', there) →
      ∃ target, library.resolve? full base reference = some (target, there) ∧
        Relaxes lacks target target'

theorem Library.readsAlike_pointers {full relaxed : Json} (h : Relaxes lacks full relaxed) :
    Library.pointers.ReadsAlike lacks full relaxed := by
  intro base reference target' there htarget'
  obtain ⟨found, hfound, hsame⟩ := Option.map_eq_some_iff.1 htarget'
  cases hsame
  obtain ⟨target, htarget, hrel⟩ := resolve?_relaxes h hfound
  exact ⟨target, Option.map_eq_some_iff.2 ⟨target, htarget, rfl⟩, hrel⟩

end

end Draft7

end ItemTable
