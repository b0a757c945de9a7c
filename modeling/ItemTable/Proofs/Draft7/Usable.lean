import ItemTable.Draft7.Reference
import ItemTable.Proofs.Draft7.Comes

set_option autoImplicit false

/-! # Schemas that can be used

Where references are pointers, every reference in a complete document leads to a schema that can be
used, and so do the references there (`Draft7.exists_followed_of_isComplete`). So whatever a check
comes to can be used: by a reference or a keyword that hands values on (`Draft7.UsesOnly.passes`),
or by a keyword that asks whether a value fits (`Draft7.UsesOnly.tests`). Hence the library of such
documents is careful (`Draft7.Library.isCareful_pointers`). -/

namespace ItemTable

namespace Draft7

/-- The dialect in which a schema inside one of a dialect is written. -/
def Dialect.within (outer : Dialect) : Json → Dialect
  | .object members => outer.inside members
  | _ => outer

theorem Library.dialect_within (library : Library) (scope : Scope) (schema : Json) :
    (library.within scope schema).dialect = scope.dialect.within schema := by
  cases schema <;> rfl

/-- A schema inside another one names its dialect, or has that of the other one. -/
theorem Dialect.within_cases (schema : Json) :
    (∀ dialect : Dialect, dialect.within schema = dialect) ∨
      ∃ own, ∀ dialect : Dialect, dialect.within schema = own := by
  cases schema with
  | object members =>
    unfold Dialect.within Dialect.inside
    dsimp only
    split
    · exact .inr ⟨_, fun _ => rfl⟩
    · exact .inl fun _ => rfl
  | _ => exact .inl fun _ => rfl

/-- Schemas have no addresses of their own where references are pointers. -/
theorem Library.base_within_pointers (scope : Scope) (schema : Json) :
    (Library.pointers.within scope schema).base = scope.base := by
  cases schema with
  | object members =>
    dsimp only [Library.within, Library.address]
    split <;> rfl
  | _ => rfl

/-! ## References among others -/

/-- Something can be used, and its references are among these. -/
def AreAmong (uses : Option (List String)) (references : List String) : Prop :=
  ∃ xs, uses = some xs ∧ xs ⊆ references

section

variable {references : List String} {dialect : Dialect} {siblings : Record Json} {keyword : String}

theorem AreAmong.mono {uses : Option (List String)} {others : List String}
    (h : AreAmong uses references) (hsubset : references ⊆ others) : AreAmong uses others := by
  obtain ⟨xs, rfl, hxs⟩ := h
  exact ⟨xs, rfl, List.Subset.trans hxs hsubset⟩

theorem areAmong_both {first second : Option (List String)} :
    AreAmong (both first second) references ↔
      AreAmong first references ∧ AreAmong second references := by
  constructor
  · rintro ⟨all, hall, hsubset⟩
    obtain ⟨xs, rfl, hrest⟩ := Option.bind_eq_some_iff.1 hall
    obtain ⟨ys, rfl, rfl⟩ := Option.map_eq_some_iff.1 hrest
    obtain ⟨hxs, hys⟩ := List.append_subset.1 hsubset
    exact ⟨⟨xs, rfl, hxs⟩, ys, rfl, hys⟩
  · rintro ⟨⟨xs, rfl, hxs⟩, ys, rfl, hys⟩
    exact ⟨xs ++ ys, rfl, List.append_subset.2 ⟨hxs, hys⟩⟩

theorem AreAmong.entries {members : Record Json}
    (h : AreAmong (entriesUse? dialect members) references) :
    ∀ m ∈ members, AreAmong (schemaUses? dialect m.2) references := by
  induction members with
  | nil => simp
  | cons m rest ih =>
    obtain ⟨name, value⟩ := m
    rw [entriesUse?, areAmong_both] at h
    exact List.forall_mem_cons.2 ⟨h.1, ih h.2⟩

theorem AreAmong.elements {elements : List Json}
    (h : AreAmong (elementsUse? dialect elements) references) :
    ∀ x ∈ elements, AreAmong (schemaUses? dialect x) references := by
  induction elements with
  | nil => simp
  | cons x rest ih =>
    rw [elementsUse?, areAmong_both] at h
    exact List.forall_mem_cons.2 ⟨h.1, ih h.2⟩

theorem AreAmong.dependencies_cons {name : String} {value : Json} {rest : Record Json}
    (h : AreAmong (dependenciesUse? dialect ((name, value) :: rest)) references) :
    (value.isArray = false → AreAmong (schemaUses? dialect value) references) ∧
      AreAmong (dependenciesUse? dialect rest) references := by
  cases value with
  | array names =>
    rw [dependenciesUse?, areAmong_both] at h
    exact ⟨(fun harray => nomatch harray), h.2⟩
  | _ =>
    rw [dependenciesUse?, areAmong_both] at h
    · exact ⟨fun _ => h.1, h.2⟩
    · simp

theorem AreAmong.dependencies {members : Record Json}
    (h : AreAmong (dependenciesUse? dialect members) references) :
    ∀ m ∈ members, m.2.isArray = false → AreAmong (schemaUses? dialect m.2) references := by
  induction members with
  | nil => simp
  | cons m rest ih =>
    obtain ⟨name, value⟩ := m
    exact List.forall_mem_cons.2 ⟨h.dependencies_cons.1, ih h.dependencies_cons.2⟩

theorem AreAmong.argument {members : Record Json} {argument : Json}
    (h : AreAmong (keywordsUse? dialect siblings members) references)
    (hmem : (keyword, argument) ∈ members) (hknown : dialect.knows keyword = true) :
    AreAmong (argumentUses? dialect siblings keyword argument) references := by
  induction members with
  | nil => cases hmem
  | cons m rest ih =>
    obtain ⟨name, value⟩ := m
    rw [keywordsUse?] at h
    rcases List.mem_cons.1 hmem with heq | hmem
    · cases heq
      rw [if_pos hknown, areAmong_both] at h
      exact h.1
    · split at h
      · exact ih (areAmong_both.1 h).2 hmem
      · exact ih h hmem

/-! ## What a keyword takes -/

theorem schemaUses?_object (members : Record Json) : schemaUses? dialect (.object members) =
    ownReference members (keywordsUse? (dialect.inside members) members members) := by
  rw [schemaUses?]

/-- An object that counts as a schema is used as one. -/
theorem AreAmong.schema {members : Record Json}
    (hform : usedForm siblings keyword (.object members) = .schema ∨
      usedForm siblings keyword (.object members) = .schemaOrSchemas)
    (h : AreAmong (argumentUses? dialect siblings keyword (.object members)) references) :
    AreAmong (schemaUses? dialect (.object members)) references := by
  rw [schemaUses?_object]
  rcases hform with hform | hform
  · simpa only [argumentUses?, hform] using h
  · simpa only [argumentUses?, hform] using h

/-- The elements of an array that counts as schemas are used as schemas. -/
theorem AreAmong.schemas {elements : List Json}
    (hform : usedForm siblings keyword (.array elements) = .schemas ∨
      usedForm siblings keyword (.array elements) = .schemaOrSchemas)
    (h : AreAmong (argumentUses? dialect siblings keyword (.array elements)) references) :
    ∀ x ∈ elements, AreAmong (schemaUses? dialect x) references := by
  rcases hform with hform | hform
  · exact AreAmong.elements (by simpa only [argumentUses?, hform] using h)
  · exact AreAmong.elements (by simpa only [argumentUses?, hform] using h)

/-- The values of an object of schemas are used as schemas. -/
theorem AreAmong.named {members : Record Json}
    (hform : usedForm siblings keyword (.object members) = .named ∨
      usedForm siblings keyword (.object members) = .patterned)
    (h : AreAmong (argumentUses? dialect siblings keyword (.object members)) references) :
    ∀ m ∈ members, AreAmong (schemaUses? dialect m.2) references := by
  rcases hform with hform | hform
  · exact AreAmong.entries (by simpa only [argumentUses?, hform] using h)
  · simp only [argumentUses?, hform] at h
    split at h
    · exact AreAmong.entries h
    · obtain ⟨xs, hxs, -⟩ := h
      cases hxs

end

/-! ## Schemas that use these references alone -/

/-- A schema in a dialect can be used if it is an object, and its references are among these. -/
def UsesOnly (references : List String) (dialect : Dialect) (schema : Json) : Prop :=
  ∀ members, schema = .object members →
    AreAmong (ownReference members (keywordsUse? dialect members members)) references

/-- Each of the references leads to a schema that can be used, and whose references are among them.
-/
def Followed (root : Json) (references : List String) : Prop :=
  ∀ reference ∈ references, ∃ target, resolve? root reference = some target ∧
    AreAmong (targetUses? target) references

section

variable {root schema schema' value part : Json} {references : List String}
  {dialect : Dialect}

theorem usesOnly_of_schemaUses (h : AreAmong (schemaUses? dialect schema) references) :
    UsesOnly references (dialect.within schema) schema := by
  rintro members rfl
  rwa [schemaUses?_object] at h

theorem usesOnly_of_targetUses (h : AreAmong (targetUses? schema) references) :
    UsesOnly references .seven schema := by
  rintro members rfl
  rwa [targetUses?] at h

/-- What is no object uses no references. -/
theorem usesOnly_of_not_object (h : schema.isObject = false) :
    UsesOnly references dialect schema := by
  rintro members rfl
  cases h

/-- The keywords next to no reference can be used. -/
theorem UsesOnly.keywords {members : Record Json}
    (h : UsesOnly references dialect (.object members))
    (hplain : ∀ reference, members.get? "$ref" ≠ some (.string reference)) :
    AreAmong (keywordsUse? dialect members members) references := by
  have hown := h members rfl
  unfold ownReference at hown
  split at hown
  · next reference href => exact absurd href (hplain reference)
  · obtain ⟨xs, hxs, -⟩ := hown
    cases hxs
  · exact hown

theorem UsesOnly.argument {members : Record Json} {keyword : String} {argument : Json}
    (h : UsesOnly references dialect (.object members))
    (hasks : Asks dialect members keyword argument) :
    AreAmong (argumentUses? dialect members keyword argument) references :=
  (h.keywords hasks.plain).argument hasks.mem hasks.known

/-- The schemas that a keyword of names or patterns gives can be used. -/
theorem UsesOnly.schemasUnder {members : Record Json} {keyword name : String}
    (h : UsesOnly references dialect (.object members))
    (hplain : ∀ reference, members.get? "$ref" ≠ some (.string reference))
    (hknown : dialect.knows keyword = true)
    (hkeyword : keyword = "properties" ∨ keyword = "patternProperties")
    (hschema : (name, schema) ∈ Draft7.schemasUnder members keyword) :
    AreAmong (schemaUses? dialect schema) references := by
  unfold Draft7.schemasUnder at hschema
  cases hget : members.get? keyword with
  | none =>
    rw [hget] at hschema
    cases hschema
  | some argument =>
    rw [hget] at hschema
    cases argument with
    | object schemas =>
      have hargument := h.argument ⟨hplain, Record.mem_of_get?_eq_some hget, hknown⟩
      have hform : usedForm members keyword (.object schemas) = .named ∨
          usedForm members keyword (.object schemas) = .patterned := by
        rcases hkeyword with rfl | rfl
        · exact .inl rfl
        · exact .inr rfl
      exact hargument.named hform _ hschema
    | _ => cases hschema

/-! ## Handing on -/

/-- The one dialect that knows `if` knows everything. -/
theorem Dialect.knows_of_condition (h : dialect.knows "if" = true) (word : String) :
    dialect.knows word = true := by
  cases dialect with
  | seven => rfl
  | _ => cases h

/-- What counts as a schema can be used as one. -/
theorem usesOnly_of_argument {siblings : Record Json} {keyword : String}
    (hform : schema.isObject = true → usedForm siblings keyword schema = .schema ∨
      usedForm siblings keyword schema = .schemaOrSchemas)
    (h : AreAmong (argumentUses? dialect siblings keyword schema) references) :
    UsesOnly references (dialect.within schema) schema := by
  cases schema with
  | object => exact usesOnly_of_schemaUses (h.schema (hform rfl))
  | _ => exact usesOnly_of_not_object rfl

/-- The branches next to a condition can be used. -/
theorem UsesOnly.branch {members : Record Json} {argument : Json} {word : String}
    (h : UsesOnly references dialect (.object members)) (hasks : Asks dialect members "if" argument)
    (hword : word = "then" ∨ word = "else") (hschema : members.get? word = some schema) :
    UsesOnly references (dialect.within schema) schema := by
  have hknown := Dialect.knows_of_condition hasks.known word
  have hif : Record.contains members "if" = true :=
    Record.contains_eq_true_iff.2 (List.mem_map_of_mem hasks.mem)
  refine usesOnly_of_argument (fun _ => .inl ?_)
    (h.argument ⟨hasks.plain, Record.mem_of_get?_eq_some hschema, hknown⟩)
  rcases hword with rfl | rfl
  · exact if_pos hif
  · exact if_pos hif

/-- What a keyword hands a value on to can be used. -/
theorem UsesOnly.hands {members : Record Json} {keyword : String} {argument : Json}
    {needs : Need} {steps : Path} {words : List String}
    (h : UsesOnly references dialect (.object members))
    (hasks : Asks dialect members keyword argument)
    (hhands : Hands members value keyword argument needs steps words schema part) :
    UsesOnly references (dialect.within schema) schema := by
  have hargument := h.argument hasks
  cases hhands with
  | property _ hschema _ =>
    cases argument with
    | object schemas => exact usesOnly_of_schemaUses (hargument.named (.inl rfl) _ hschema)
    | _ => cases hschema
  | pattern _ hschema _ _ =>
    cases argument with
    | object schemas => exact usesOnly_of_schemaUses (hargument.named (.inr rfl) _ hschema)
    | _ => cases hschema
  | governedProperty _ _ hschema =>
    have hknown := Dialect.knows_names hasks.known (.inl rfl)
    exact usesOnly_of_schemaUses
      (h.schemasUnder hasks.plain hknown (.inl rfl) (Record.mem_of_get?_eq_some hschema))
  | governedPattern _ _ hschema _ =>
    have hknown := Dialect.knows_names hasks.known (.inr rfl)
    exact usesOnly_of_schemaUses (h.schemasUnder hasks.plain hknown (.inr rfl) hschema)
  | tuple hschema _ =>
    exact usesOnly_of_schemaUses (hargument.schemas (.inr rfl) _ (List.mem_of_getElem? hschema))
  | each hschema =>
    cases argument with
    | array schemas =>
      exact usesOnly_of_schemaUses (hargument.schemas (.inl rfl) _ (List.mem_of_getElem? hschema))
    | _ => simp [Json.array?] at hschema
  | consequence hschema => exact h.branch hasks (.inl rfl) hschema
  | alternative hschema => exact h.branch hasks (.inr rfl) hschema
  | dependent hschema harray =>
    cases argument with
    | object schemas =>
      have hform : usedForm members "dependencies" (.object schemas) = .dependencies := rfl
      have hdependencies : AreAmong (dependenciesUse? dialect schemas) references := by
        simpa only [argumentUses?, hform] using hargument
      exact usesOnly_of_schemaUses (hdependencies.dependencies _ hschema harray)
    | _ => cases hschema
  | further hitems _ _ =>
    refine usesOnly_of_argument (fun hobject => .inl ?_) hargument
    simp [usedForm, hitems, hobject, Json.isArray]
  | governedOther => exact usesOnly_of_argument (fun _ => .inl rfl) hargument
  | element =>
    refine usesOnly_of_argument (fun hobject => .inr ?_) hargument
    simp [usedForm, hobject]
  | name =>
    refine usesOnly_of_argument (fun hobject => .inl ?_) hargument
    exact if_pos hobject

/-- What a schema hands a value on to can be used. -/
theorem UsesOnly.passes {scope there : Scope} {needs : Need} {steps : Path}
    {words : List String} (hfollowed : Followed root references)
    (h : UsesOnly references scope.dialect schema)
    (hpasses : Passes .pointers root scope schema value needs steps words there schema' part) :
    UsesOnly references there.dialect schema' := by
  cases hpasses with
  | @reference members _ _ reference _ href htarget =>
    obtain ⟨uses, huses, hsubset⟩ := h members rfl
    obtain ⟨target, hresolve, hsame⟩ := Option.map_eq_some_iff.1 htarget
    cases hsame
    simp only [ownReference, href] at huses
    split at huses
    · cases huses
      obtain ⟨other, hother, hamong⟩ := hfollowed reference (hsubset (.head _))
      obtain rfl : schema' = other := Option.some.inj (hresolve.symm.trans hother)
      exact usesOnly_of_targetUses hamong
    · cases huses
  | keyword hasks hhands =>
    rw [Library.dialect_within]
    exact h.hands hasks hhands

/-! ## Asking -/

/-- What a keyword asks about can be used. -/
theorem UsesOnly.tests {members : Record Json} {keyword : String} {argument : Json} {i : Nat}
    (h : UsesOnly references dialect (.object members))
    (hasks : Asks dialect members keyword argument)
    (htests : Tests members value keyword argument i schema part) :
    UsesOnly references (dialect.within schema) schema := by
  have hargument := h.argument hasks
  cases htests with
  | alternative hkeyword hschema =>
    cases argument with
    | array schemas =>
      have hform : usedForm members keyword (.array schemas) = .schemas := by
        rcases hkeyword with rfl | rfl
        · rfl
        · rfl
      exact usesOnly_of_schemaUses
        (hargument.schemas (.inl hform) _ (List.mem_of_getElem? hschema))
    | _ => simp [Json.array?] at hschema
  | condition hword hbranch =>
    refine usesOnly_of_argument (fun _ => .inl ?_) hargument
    rcases hword with rfl | rfl
    · exact if_pos (by rw [hbranch, Bool.true_or])
    · exact if_pos (by rw [hbranch, Bool.or_true])
  | element => exact usesOnly_of_argument (fun _ => .inl rfl) hargument
  | negation => exact usesOnly_of_argument (fun _ => .inl rfl) hargument

/-! ## All references are followed -/

/-- Each reference that was seen leads to a schema that can be used, and whose references were seen
or are pending. -/
def SeenAreFollowed (root : Json) (seen pending : List String) : Prop :=
  ∀ reference ∈ seen, ∃ target, resolve? root reference = some target ∧
    AreAmong (targetUses? target) (seen ++ pending)

theorem SeenAreFollowed.mono {seen pending pending' : List String}
    (h : SeenAreFollowed root seen pending) (hsubset : seen ++ pending ⊆ seen ++ pending') :
    SeenAreFollowed root seen pending' := by
  intro reference hreference
  obtain ⟨target, htarget, hamong⟩ := h reference hreference
  exact ⟨target, htarget, hamong.mono hsubset⟩

/-- A reference whose target can be used is followed, and its target's references come next. -/
theorem SeenAreFollowed.step {seen rest further : List String} {reference : String}
    (h : SeenAreFollowed root seen (reference :: rest))
    (hfurther : (resolve? root reference).bind targetUses? = some further) :
    SeenAreFollowed root (reference :: seen) (further ++ rest) := by
  obtain ⟨target, htarget, huses⟩ := Option.bind_eq_some_iff.1 hfurther
  intro other hother
  rcases List.mem_cons.1 hother with rfl | hother
  · refine ⟨target, htarget, further, huses, ?_⟩
    intro use huse
    simp [huse]
  · obtain ⟨target', htarget', hamong⟩ := h other hother
    refine ⟨target', htarget', hamong.mono ?_⟩
    intro use huse
    simp only [List.mem_append, List.mem_cons] at huse ⊢
    rcases huse with huse | rfl | huse
    · exact .inl (.inr huse)
    · exact .inl (.inl rfl)
    · exact .inr (.inr huse)

/-- Where pending references are followed to the end, they and those that were seen are among
references that all lead to schemas that can be used. -/
theorem exists_followed {fuel : Nat} {seen pending : List String}
    (h : followAll root fuel seen pending = true) (hseen : SeenAreFollowed root seen pending) :
    ∃ references, seen ++ pending ⊆ references ∧ Followed root references := by
  -- on the fuel: at the end nothing is pending, so what was seen is closed
  induction fuel generalizing seen pending with
  | zero =>
    obtain rfl : pending = [] := List.isEmpty_iff.1 h
    rw [SeenAreFollowed, List.append_nil] at hseen
    exact ⟨seen, by simp, hseen⟩
  | succ fuel ih =>
    cases pending with
    | nil =>
      rw [SeenAreFollowed, List.append_nil] at hseen
      exact ⟨seen, by simp, hseen⟩
    | cons reference rest =>
      rw [followAll] at h
      split at h
      · next hmem =>
        have hsame : seen ++ reference :: rest ⊆ seen ++ rest := by
          intro other hother
          simp only [List.mem_append, List.mem_cons] at hother ⊢
          rcases hother with hother | rfl | hother
          · exact .inl hother
          · exact .inl hmem
          · exact .inr hother
        obtain ⟨references, hsubset, hfollowed⟩ := ih h (hseen.mono hsame)
        exact ⟨references, List.Subset.trans hsame hsubset, hfollowed⟩
      · split at h
        · cases h
        · next further hfurther =>
          obtain ⟨references, hsubset, hfollowed⟩ := ih h (hseen.step hfurther)
          refine ⟨references, ?_, hfollowed⟩
          intro other hother
          refine hsubset ?_
          simp only [List.mem_append, List.mem_cons] at hother ⊢
          rcases hother with hother | rfl | hother
          · exact .inl (.inr hother)
          · exact .inl (.inl rfl)
          · exact .inr (.inr hother)

/-- The references of a complete document all lead to schemas that can be used. -/
theorem exists_followed_of_isComplete (h : isComplete root = true) :
    ∃ references, Followed root references ∧ UsesOnly references .seven root := by
  have hresolve := (Bool.and_eq_true_iff.1 h).2
  unfold referencesResolve at hresolve
  split at hresolve
  · cases hresolve
  · next uses huses =>
    obtain ⟨references, hsubset, hfollowed⟩ := exists_followed hresolve fun _ h => nomatch h
    exact ⟨references, hfollowed, usesOnly_of_targetUses ⟨uses, huses, hsubset⟩⟩

end

/-! ## Wherever a check comes -/

section

variable {root schema : Json} {references : List String} {scope : Scope}

theorem Comes.usesOnly (hfollowed : Followed root references)
    (huses : UsesOnly references .seven root) (h : Comes .pointers root scope schema) :
    UsesOnly references scope.dialect schema := by
  induction h with
  | start => cases root <;> exact huses
  | passes _ hpasses ih => exact ih.passes hfollowed hpasses
  | tests _ hasks htests ih =>
    rw [Library.dialect_within]
    exact ih.tests hasks htests

/-- What can be used as a schema is an object or a truth value. -/
theorem isObject_of_schemaUses {dialect : Dialect}
    (h : AreAmong (schemaUses? dialect schema) references) :
    schema.isObject = true ∨ ∃ b, schema = .bool b := by
  obtain ⟨uses, huses, -⟩ := h
  cases schema with
  | object => exact .inl rfl
  | bool b => exact .inr ⟨b, rfl⟩
  | _ => cases huses

theorem argumentUses?_type (dialect : Dialect) (siblings : Record Json) (name : String) :
    argumentUses? dialect siblings "type" (.string name) =
      noneIf (isTypeName (.string name)) := rfl

/-- Documents that are complete can be checked by, wherever a check may come. -/
theorem Library.isCareful_pointers : Library.pointers.IsCareful where
  named := by
    intro root scope members keyword argument hcomplete hcomes hasks hkeyword m hm
    obtain ⟨references, hfollowed, huses⟩ := exists_followed_of_isComplete hcomplete
    have hargument := (hcomes.usesOnly hfollowed huses).argument hasks
    cases argument with
    | object schemas =>
      have hform : usedForm members keyword (.object schemas) = .named ∨
          usedForm members keyword (.object schemas) = .patterned := by
        rcases hkeyword with rfl | rfl
        · exact .inl rfl
        · exact .inr rfl
      exact isObject_of_schemaUses (hargument.named hform m hm)
    | _ => cases hm
  typed := by
    intro root scope members name hcomplete hcomes hasks
    obtain ⟨references, hfollowed, huses⟩ := exists_followed_of_isComplete hcomplete
    obtain ⟨uses, hown, -⟩ := (hcomes.usesOnly hfollowed huses).argument hasks
    rw [argumentUses?_type] at hown
    cases hname : isTypeName (.string name) with
    | true => rfl
    | false =>
      rw [hname] at hown
      cases hown

end

end Draft7

end ItemTable
