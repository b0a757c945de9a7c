import ItemTable.Draft7.Reference
import ItemTable.Proofs.Draft7.Required

set_option autoImplicit false

/-! # The schema that finds something

What a check finds is found by one schema in one part of the value, at the end of a way
(`Draft7.Reaches.exists_way`). That schema inherits from the one at the beginning what is handed
down under all names but some, if the words on the way are none of these (`Draft7.Way.inherits`),
and it is a part of the document, unless a reference leads out of that (`Draft7.Way.isPart`). A
finding of `required` comes from a schema with that keyword, or from one under that name that allows
nothing (`Draft7.Way.asks_required`). -/

namespace ItemTable

namespace Draft7

open Json (Inherited IsPart)

/-- A check comes from a schema and a value to another schema and a part of the value. -/
inductive Way (library : Library) (root : Json) :
    Scope → Json → Json → Path → List String → Scope → Json → Json → Prop
  | here (scope : Scope) (schema value : Json) :
    Way library root scope schema value [] [] scope schema value
  | onward {scope there last : Scope} {schema value schema' part schema'' part' : Json}
    {needs : Need} {steps steps' : Path} {words words' : List String}
    (h : Way library root scope schema value steps words there schema' part)
    (hpasses : Passes library root there schema' part needs steps' words' last schema'' part') :
    Way library root scope schema value (steps ++ steps') (words ++ words') last schema'' part'

section

variable {library : Library} {root schema schema' schema'' value part part' : Json}
  {scope there last : Scope} {needs : Need} {steps steps' : Path} {words words' : List String}

theorem Way.prepend
    (hpasses : Passes library root scope schema value needs steps words there schema' part)
    (h : Way library root there schema' part steps' words' last schema'' part') :
    Way library root scope schema value (steps ++ steps') (words ++ words') last schema''
      part' := by
  induction h with
  | here =>
    rw [List.append_nil, List.append_nil]
    exact .onward (.here scope schema value) hpasses
  | onward _ hlast ih =>
    rw [← List.append_assoc, ← List.append_assoc]
    exact .onward (ih hpasses) hlast

/-- What is reached is found by a schema at the end of a way. -/
theorem Reaches.exists_way {room : Nat} {place : Place}
    (h : Reaches library root room scope schema place value steps words) :
    ∃ last schema' part before own,
      Way library root scope schema value steps before last schema' part ∧
        Own last.dialect schema' part own ∧ words = before ++ own := by
  induction h with
  | here hown => exact ⟨_, _, _, [], _, .here _ _ _, hown, rfl⟩
  | onward hpasses _ _ ih =>
    obtain ⟨last, schema', part, before, own, hway, hown, rfl⟩ := ih
    exact ⟨last, schema', part, _, own, hway.prepend hpasses, hown, (List.append_assoc ..).symm⟩

/-! ## The schema at the end -/

/-- A reference in a document leads to a schema that is no part of it. -/
def Library.LeadsOut (library : Library) (root : Json) : Prop :=
  ∃ members base reference target there, IsPart (.object members) root ∧
    Record.get? members "$ref" = some (.string reference) ∧
    library.resolve? root base reference = some (target, there) ∧ ¬ IsPart target root

theorem isPart_of_reach? {whole : Json} {segments : List (List Char)}
    (h : reach? whole segments = some part) (hwhole : IsPart whole root) : IsPart part root := by
  induction segments generalizing whole with
  | nil =>
    obtain rfl : whole = part := by simpa [reach?] using h
    exact hwhole
  | cons segment rest ih =>
    cases whole with
    | array elements =>
      obtain ⟨next, hnext, hrest⟩ := Option.bind_eq_some_iff.1 h
      obtain ⟨i, -, hi⟩ := Option.bind_eq_some_iff.1 hnext
      exact ih hrest (hwhole.element (List.mem_of_getElem? hi))
    | object members =>
      obtain ⟨next, hnext, hrest⟩ := Option.bind_eq_some_iff.1 h
      exact ih hrest (hwhole.member (Record.mem_of_get?_eq_some hnext))
    | _ => cases h

theorem isPart_of_resolve? {reference : String} (h : resolve? root reference = some part) :
    IsPart part root := by
  unfold resolve? at h
  split at h
  · cases h
    exact Json.isPart_self root
  · cases h
    exact Json.isPart_self root
  · obtain ⟨cs, -, hreach⟩ := Option.bind_eq_some_iff.1 h
    exact isPart_of_reach? hreach (Json.isPart_self root)
  · cases h

/-- Pointers into a document do not lead out of it. -/
theorem Library.not_leadsOut_pointers (root : Json) : ¬ Library.pointers.LeadsOut root := by
  rintro ⟨members, base, reference, target, there, -, -, htarget, hpart⟩
  obtain ⟨other, hresolve, hsame⟩ := Option.map_eq_some_iff.1 htarget
  cases hsame
  exact hpart (isPart_of_resolve? hresolve)

/-- What a part of a document hands on to is a part of it, unless a reference leads out. -/
theorem Passes.isPart
    (h : Passes library root scope schema value needs steps words there schema' part)
    (hschema : IsPart schema root) :
    IsPart schema' root ∨ ("$ref" ∈ words ∧ library.LeadsOut root) := by
  cases h with
  | reference href htarget =>
    by_cases hpart : IsPart schema' root
    · exact .inl hpart
    · exact .inr ⟨List.mem_singleton.2 rfl, _, _, _, _, _, hschema, href, htarget, hpart⟩
  | keyword hasks hhands =>
    refine .inl ?_
    exact hhands.inherits (Json.inherited_isPart root) hschema hasks.mem fun _ _ => List.not_mem_nil

theorem Way.isPart (h : Way library root scope schema value steps words last schema' part)
    (hschema : IsPart schema root) :
    IsPart schema' root ∨ ("$ref" ∈ words ∧ library.LeadsOut root) := by
  induction h with
  | here => exact .inl hschema
  | onward _ hpasses ih =>
    rcases ih hschema with hpart | ⟨hmem, hout⟩
    · exact (hpasses.isPart hpart).imp_right fun hleads =>
        ⟨List.mem_append_right _ hleads.1, hleads.2⟩
    · exact .inr ⟨List.mem_append_left _ hmem, hout⟩

/-- Where no reference is met, the schema at the end inherits from the one at the beginning. -/
theorem Way.inherits {excluded : List String} {P : Json → Prop} (hinherited : Inherited excluded P)
    (h : Way library root scope schema value steps words last schema' part)
    (hwords : ∀ word ∈ words, word ≠ "$ref" ∧ word ∉ excluded) (hschema : P schema) :
    P schema' := by
  induction h with
  | here => exact hschema
  | onward _ hpasses ih =>
    obtain ⟨hbefore, hlast⟩ := List.forall_mem_append.1 hwords
    have hnode := ih hbefore hschema
    cases hpasses with
    | reference => exact absurd rfl (hlast "$ref" (by simp)).1
    | keyword hasks hhands =>
      exact hhands.inherits hinherited hnode hasks.mem fun word hword => (hlast word hword).2

/-! ## The part of the value at the end -/

theorem Passes.eq_string {text : String}
    (h : Passes library root scope schema (.string text) needs steps words there schema' part) :
    part = .string text := by
  cases h with
  | reference => rfl
  | keyword _ hhands => cases hhands <;> rfl

/-- What is handed on is a part of the value, or a name, which is a string. -/
theorem Passes.walk?_or_string
    (h : Passes library root scope schema value needs steps words there schema' part)
    (hvalue : value.isProper = true) :
    value.walk? steps = some part ∨ ∃ text, part = .string text := by
  by_cases hnames : words = ["propertyNames"]
  · exact .inr (h.string_of_names hnames).2
  · exact .inl (h.walk? hvalue hnames)

/-- A way ends at the part of the value that its steps lead to, or at a name. -/
theorem Way.walk? (h : Way library root scope schema value steps words last schema' part)
    (hvalue : value.isProper = true) :
    value.walk? steps = some part ∨ ∃ text, part = .string text := by
  induction h with
  | here => exact .inl rfl
  | onward _ hpasses ih =>
    rcases ih hvalue with hwalk | ⟨text, rfl⟩
    · have hproper := Json.isProper_of_walk? hvalue hwalk
      refine (hpasses.walk?_or_string hproper).imp_left fun hpart => ?_
      rw [Json.walk?_append, hwalk]
      exact hpart
    · exact .inr ⟨text, hpasses.eq_string⟩

/-! ## Findings of `required` -/

section

variable {siblings : Record Json} {keyword name : String} {argument : Json}

theorem exists_holder_of_mem_object? (hargument : IsPart argument root)
    (hmem : (name, schema) ∈ argument.object?.getD []) :
    ∃ holder, IsPart (.object holder) root ∧ (name, schema) ∈ holder := by
  cases argument with
  | object holder => exact ⟨holder, hargument, hmem⟩
  | _ => cases hmem

theorem exists_holder_of_mem_schemasUnder (hsiblings : IsPart (.object siblings) root)
    (hmem : (name, schema) ∈ schemasUnder siblings keyword) :
    ∃ holder, IsPart (.object holder) root ∧ (name, schema) ∈ holder := by
  unfold schemasUnder at hmem
  cases hget : siblings.get? keyword with
  | none =>
    rw [hget] at hmem
    cases hmem
  | some argument =>
    rw [hget] at hmem
    exact exists_holder_of_mem_object? (hsiblings.member (Record.mem_of_get?_eq_some hget)) hmem

theorem repr_ne_required (i : Nat) : Nat.repr i ≠ "required" := fun heq => by
  have hmem : ["required"].contains (Nat.repr i) = false := repr_not_mem (by decide) i
  simp [heq] at hmem

theorem Passes.words_ne_nil
    (h : Passes library root scope schema value needs steps words there schema' part) :
    words ≠ [] := by
  cases h with
  | reference => exact List.cons_ne_nil _ _
  | keyword _ hhands => cases hhands <;> exact List.cons_ne_nil _ _

/-- A schema that the last word on the way to it calls `required` stands under that name. -/
theorem Passes.exists_holder
    (h : Passes library root scope schema value needs steps words there schema' part)
    (hschema : IsPart schema root) (hlast : words.getLast? = some "required") :
    ∃ holder, IsPart (.object holder) root ∧ ("required", schema') ∈ holder := by
  cases h with
  | reference => simp at hlast
  | keyword hasks hhands =>
    have hargument := hschema.member hasks.mem
    cases hhands with
    | property _ hmem _ =>
      obtain rfl : _ = "required" := by simpa using hlast
      exact exists_holder_of_mem_object? hargument hmem
    | pattern _ hmem _ _ =>
      obtain rfl : _ = "required" := by simpa using hlast
      exact exists_holder_of_mem_object? hargument hmem
    | governedProperty _ _ hget =>
      obtain rfl : _ = "required" := by simpa using hlast
      exact exists_holder_of_mem_schemasUnder hschema (Record.mem_of_get?_eq_some hget)
    | governedPattern _ _ hmem _ =>
      obtain rfl : _ = "required" := by simpa using hlast
      exact exists_holder_of_mem_schemasUnder hschema hmem
    | dependent hmem _ =>
      obtain rfl : _ = "required" := by simpa using hlast
      exact exists_holder_of_mem_object? hargument hmem
    | tuple => simp [repr_ne_required] at hlast
    | each => simp [repr_ne_required] at hlast
    | _ => simp at hlast

end

/-- What is found under the name `required` is a name that an object lacks of those that a schema
lists, or it is found by a schema of that name that allows nothing, or a reference leads out of the
document. -/
theorem Way.asks_required {own : List String}
    (h : Way library root scope schema value steps words last schema' part)
    (hown : Own last.dialect schema' part own) (hschema : IsPart schema root)
    (hlast : (words ++ own).getLast? = some "required") :
    (∃ members argument xs name, schema' = .object members ∧ ("required", argument) ∈ members ∧
        part = .object xs ∧ name ∈ argument.stringElements ∧ Record.contains xs name = false) ∨
      (∃ holder, IsPart (.object holder) root ∧ ("required", .bool false) ∈ holder) ∨
        ("$ref" ∈ words ∧ library.LeadsOut root) := by
  cases hown with
  | never =>
    rw [List.append_nil] at hlast
    cases h with
    | here => simp at hlast
    | onward hway hpasses =>
      rw [List.getLast?_append_of_ne_nil _ hpasses.words_ne_nil] at hlast
      rcases hway.isPart hschema with hpart | ⟨hmem, hout⟩
      · exact .inr (.inl (hpasses.exists_holder hpart hlast))
      · exact .inr (.inr ⟨List.mem_append_left _ hmem, hout⟩)
  | keyword hasks hfinds =>
    cases hfinds with
    | lacking hname hlacks => exact .inl ⟨_, _, _, _, rfl, hasks.mem, rfl, hname, hlacks⟩
    | other hne => simp [hne] at hlast

end

end Draft7

end ItemTable
