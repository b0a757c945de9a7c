import ItemTable.Proofs.Draft7.Way
import ItemTable.Proofs.Schema.Relaxed
import ItemTable.Proofs.Schema.Required

set_option autoImplicit false

/-! # Data in a schema

The names that `required` lists are dropped from the relaxed copy of a schema, but not from data,
which are told by the name that they stand under. So where a property bears such a name, or a
reference leads into data or out of the document, parts of items are asked for required names all
the same (`Schema.validatePart_required`). -/

namespace ItemTable

namespace Json

open StoreType (asType keptTypes)

/-- A part of a document's data. -/
inductive InData (document : Json) : Json → Prop
  | whole {members : Record Json} {keyword : String} {x : Json}
    (h : IsPart (.object members) document) (hx : (keyword, x) ∈ members)
    (hkeyword : keyword ∈ dataKeywords) : InData document x
  | member {members : Record Json} {m : String × Json} (h : InData document (.object members))
    (hm : m ∈ members) : InData document m.2
  | element {elements : List Json} {x : Json} (h : InData document (.array elements))
    (hx : x ∈ elements) : InData document x

/-- A part of a document's relaxed copy that is no data: a part of the document lowered, or what is
put in for a type. -/
inductive IsRelaxed (document : Json) : Json → Prop
  | part {x : Json} (h : IsPart x document) : IsRelaxed document (x.lower false)
  | types {names : List Json} (h : IsPart (.array names) document) :
    IsRelaxed document (.array ((keptTypes [] names).map fun x => asType (x.lower false)))
  | typed (text : String) : IsRelaxed document (.object [("type", .string text)])
  | text (text : String) : IsRelaxed document (.string text)
  | distinct : IsRelaxed document (.bool true)

section

variable {document part x : Json} {ys : Record Json} {name : String}

theorem InData.isPart (h : InData document x) : IsPart x document := by
  induction h with
  | whole h hx _ => exact h.member hx
  | member _ hm ih => exact ih.member hm
  | element _ hx ih => exact ih.element hx

theorem isProper_of_isPart (h : IsPart part document) (hdocument : document.isProper = true) :
    part.isProper = true := by
  have hinherited : Inherited [] fun x => x.isProper = true :=
    ⟨fun h hmem _ => isProper_of_mem_object h hmem, fun h hmem => isProper_of_mem_array h hmem⟩
  exact hinherited.part h hdocument

/-- The members of an object in the relaxed copy are data or no data, by their names. -/
theorem IsRelaxed.member (hdocument : document.isProper = true)
    (h : IsRelaxed document (.object ys)) (hmem : (name, x) ∈ ys) :
    IsRelaxed document x ∨ (name ∈ dataKeywords ∧ InData document x) := by
  generalize hobject : Json.object ys = whole at h
  cases h with
  | @part original horiginal =>
    cases original with
    | object xs =>
      rw [lower_object] at hobject
      cases hobject
      have hxs := (isProper_object.1 (isProper_of_isPart horiginal hdocument)).1
      have hget := Record.get?_eq_some_of_mem (nodup_names_lowered hxs) hmem
      rw [get?_lowered false hxs, Option.or_eq_some_iff] at hget
      rcases hget with hget | ⟨-, hget⟩
      · have htype := StoreType.mem_overrides (Record.mem_of_get?_eq_some hget)
        dsimp only at htype
        rcases htype with ⟨-, names, htype, rfl⟩ | ⟨text, rfl⟩ | ⟨text, rfl⟩ | rfl
        · exact .inl (.types (horiginal.member (Record.mem_of_get?_eq_some htype)))
        · exact .inl (.text text)
        · exact .inl (.typed text)
        · exact .inl .distinct
      · obtain ⟨w, hw, heq⟩ := Option.bind_eq_some_iff.1 hget
        have hown := Record.mem_of_get?_eq_some hw
        split at heq
        · cases heq
        · cases heq
          unfold lowerMember
          split
          · next hname => exact .inr ⟨hname, .whole horiginal hown hname⟩
          · exact .inl (.part (horiginal.member hown))
    | _ => cases hobject
  | typed text =>
    cases hobject
    cases List.mem_singleton.1 hmem
    exact .inl (.text text)
  | _ => cases hobject

theorem IsRelaxed.element {elements : List Json} (h : IsRelaxed document (.array elements))
    (hx : x ∈ elements) : IsRelaxed document x := by
  generalize harray : Json.array elements = whole at h
  cases h with
  | @part original horiginal =>
    cases original with
    | array xs =>
      rw [lower_array] at harray
      cases harray
      obtain ⟨w, hw, rfl⟩ := List.mem_map.1 hx
      exact .part (horiginal.element hw)
    | _ => cases harray
  | @types names hnames =>
    cases harray
    obtain ⟨w, hw, rfl⟩ := List.mem_map.1 hx
    rcases StoreType.asType_cases (w.lower false) with hsame | ⟨text, htext⟩
    · rw [hsame]
      exact .part (hnames.element ((StoreType.keptTypes_sublist [] names).subset hw))
    · rw [htext]
      exact .text text
  | _ => cases harray

/-- What is no data hands that down, but not under the names of data. -/
theorem inherited_isRelaxed (hdocument : document.isProper = true) :
    Inherited dataKeywords (IsRelaxed document) :=
  ⟨fun h hmem hname => (h.member hdocument hmem).resolve_right fun hdata => hname hdata.1,
    fun h hmem => h.element hmem⟩

/-- Every part of the relaxed copy is data or no data. -/
theorem isRelaxed_or_inData (hdocument : document.isProper = true)
    (h : IsPart part (document.lower false)) : IsRelaxed document part ∨ InData document part := by
  have hinherited : Inherited [] fun x => IsRelaxed document x ∨ InData document x := by
    constructor
    · rintro members name x (h | h) hmem -
      · exact (h.member hdocument hmem).imp_right And.right
      · exact .inr (h.member hmem)
    · rintro elements x (h | h) hmem
      · exact .inl (h.element hmem)
      · exact .inr (h.element hmem)
  exact hinherited.part h (.inl (.part (isPart_self document)))

/-- What is called `required` and is no data was no array. -/
theorem IsRelaxed.required (hdocument : document.isProper = true)
    (h : IsRelaxed document (.object ys)) (hmem : ("required", x) ∈ ys) :
    ∃ xs w, IsPart (.object xs) document ∧ ("required", w) ∈ xs ∧ w.isArray = false ∧
      x = w.lower false := by
  generalize hobject : Json.object ys = whole at h
  cases h with
  | @part original horiginal =>
    cases original with
    | object xs =>
      rw [lower_object] at hobject
      cases hobject
      have hxs := (isProper_object.1 (isProper_of_isPart horiginal hdocument)).1
      have hget := Record.get?_eq_some_of_mem (nodup_names_lowered hxs) hmem
      rw [get?_lowered false hxs, StoreType.get?_overrides_of_not_mem _ _ (by decide),
        Option.none_or] at hget
      obtain ⟨w, hw, heq⟩ := Option.bind_eq_some_iff.1 hget
      split at heq
      · cases heq
      · next hkept =>
        refine ⟨xs, w, horiginal, Record.mem_of_get?_eq_some hw, ?_, ?_⟩
        · simpa [isDropped] using hkept
        · exact (Option.some.inj heq).symm
    | _ => cases hobject
  | typed text =>
    cases hobject
    simp at hmem
  | _ => cases hobject

end

end Json

namespace Schema

open Draft7 (Library Own Scope Way)
open Json (InData IsPart IsRelaxed)

/-- Where a schema finds something under the name `required` in the relaxed copy, it is data that
the way came to by the name of data or a reference, or it allows nothing; else a reference leads out
of the copy. -/
theorem asks_in_data {library : Library} {document value schema part : Json} {scope last : Scope}
    {steps : Path} {words own : List String} (hdocument : document.isProper = true)
    (hvalue : value.isProper = true)
    (hway : Way library (document.lower false) scope (document.lower false) value steps words last
      schema part)
    (hown : Own last.dialect schema part own) (hlast : (words ++ own).getLast? = some "required") :
    (∃ node names xs name, InData document (.object node) ∧ ("required", .array names) ∈ node ∧
        value.walk? steps = some (.object xs) ∧ .string name ∈ names ∧
        Record.contains xs name = false ∧
        ∃ word ∈ words, word = "$ref" ∨ word ∈ Json.dataKeywords) ∨
      (∃ node, IsPart (.object node) document ∧ ("required", .bool false) ∈ node) ∨
      ("$ref" ∈ words ∧ library.LeadsOut (document.lower false)) := by
  have hroot := Json.isPart_self (document.lower false)
  rcases hway.isPart hroot with hpart | hout
  swap
  · exact .inr (.inr hout)
  rcases hway.asks_required hown hroot hlast with
    ⟨node, argument, xs, name, rfl, hmem, rfl, hname, hlacks⟩ | ⟨holder, hholder, hmem⟩ | hout
  · obtain ⟨names, rfl⟩ : ∃ names, argument = .array names := by
      cases argument with
      | array names => exact ⟨names, rfl⟩
      | _ => cases hname
    have hnone : ¬ IsRelaxed document (.object node) := fun hrelaxed => by
      obtain ⟨_, w, -, -, harray, heq⟩ := hrelaxed.required hdocument hmem
      rw [← Json.isArray_lower false w, ← heq] at harray
      cases harray
    have hdata : InData document (.object node) :=
      (Json.isRelaxed_or_inData hdocument hpart).resolve_left hnone
    have hwalk : value.walk? steps = some (.object xs) :=
      (hway.walk? hvalue).resolve_right fun ⟨_, htext⟩ => by cases htext
    refine .inl ⟨node, names, xs, name, hdata, hmem, hwalk, ?_, hlacks, ?_⟩
    · obtain ⟨text, htext, hstring⟩ := List.mem_filterMap.1 hname
      cases text with
      | string => cases hstring; exact htext
      | _ => cases hstring
    · -- else the schema is no data, just as the whole copy
      by_contra hwords
      refine hnone (hway.inherits (Json.inherited_isRelaxed hdocument) (fun word hword => ?_)
        (.part (Json.isPart_self document)))
      exact not_or.1 fun hor => hwords ⟨word, hword, hor⟩
  · refine .inr (.inl ?_)
    rcases Json.isRelaxed_or_inData hdocument hholder with hrelaxed | hdata
    · obtain ⟨xs, w, hxs, hw, -, heq⟩ := hrelaxed.required hdocument hmem
      cases w <;> cases heq
      exact ⟨xs, hxs, hw⟩
    · exact ⟨holder, hdata.isPart, hmem⟩
  · exact .inr (.inr hout)

/-- A part of an item is asked for a required name only by data that a property named like data or a
reference makes a schema, or where a property named `required` may not be there, or where a
reference leads out of the document. -/
theorem validatePart_required {library : Library} {document value : Json} {schema : Schema}
    {finding : Finding} (hschema : Schema.build? library document = some schema)
    (hdocument : document.isProper = true) (hvalue : value.isProper = true)
    (hfound : schema.validatePart value = some finding) (hkind : finding.kind = .required) :
    ∃ violation ∈ Draft7.violations library schema.relaxed value,
      violation.place.location = finding.path ∧
      ((∃ node names path xs name, InData document (.object node) ∧
          ("required", .array names) ∈ node ∧ finding.path = path.map Step.word ∧
          value.walk? path = some (.object xs) ∧ .string name ∈ names ∧
          Record.contains xs name = false ∧
          ∃ word ∈ violation.place.schemaPath, word = "$ref" ∨ word ∈ Json.dataKeywords) ∨
        (∃ node, IsPart (.object node) document ∧ ("required", .bool false) ∈ node) ∨
        ("$ref" ∈ violation.place.schemaPath ∧ library.LeadsOut schema.relaxed)) := by
  obtain ⟨rfl, -, -⟩ := build?_eq_some hschema
  obtain ⟨violation, hviolation, rfl⟩ := check_eq_some hfound
  obtain ⟨hends, hlast, hpath⟩ := describe_required hkind
  refine ⟨violation, hviolation, hpath.symm, ?_⟩
  obtain ⟨path, words, hplace, hreaches⟩ := Draft7.reaches_of_mem hends hviolation
  obtain ⟨last, node, part, before, own, hway, hown, rfl⟩ := hreaches.exists_way
  rw [hplace] at hlast
  rw [hpath, hplace]
  rcases asks_in_data hdocument hvalue hway hown hlast with
    ⟨node, names, xs, name, hdata, hrequired, hwalk, hname, hlacks, word, hword, hleads⟩ |
      hnever | ⟨hmem, hout⟩
  · exact .inl ⟨node, names, path, xs, name, hdata, hrequired, rfl, hwalk, hname, hlacks, word,
      List.mem_append_left own hword, hleads⟩
  · exact .inr (.inl hnever)
  · exact .inr (.inr ⟨List.mem_append_left own hmem, hout⟩)

/-- A schema with a property called `default`, which has to have an attribute. -/
def defaultSchema : Schema :=
  let inner : Json := .object [("type", .string "object"), ("required", .strings ["a"])]
  let document : Json := .object
    [("type", .string "object"),
      ("properties", .object [("id", .object [("type", .string "string")]), ("default", inner)]),
      ("default", .strings ["id"])]
  .lowered .pointers document

/-- A part of an item that sets the property, but not the attribute. -/
def emptyDefault : Json := .object [("default", .object [])]

theorem validatePart_required_default :
    Schema.ofDocument? defaultSchema.document = some defaultSchema ∧
      defaultSchema.document.isProper = true ∧ emptyDefault.isProper = true ∧ ∃ finding,
        defaultSchema.validatePart emptyDefault = some finding ∧ finding.kind = .required ∧
        ∃ violation ∈ Draft7.violations .pointers defaultSchema.relaxed emptyDefault,
          violation.place.location = finding.path ∧
          ((∃ node names path xs name, InData defaultSchema.document (.object node) ∧
              ("required", .array names) ∈ node ∧ finding.path = path.map Step.word ∧
              emptyDefault.walk? path = some (.object xs) ∧ .string name ∈ names ∧
              Record.contains xs name = false ∧
              ∃ word ∈ violation.place.schemaPath, word = "$ref" ∨ word ∈ Json.dataKeywords) ∨
            (∃ node, IsPart (.object node) defaultSchema.document ∧
              ("required", .bool false) ∈ node) ∨
            ("$ref" ∈ violation.place.schemaPath ∧
              Library.pointers.LeadsOut defaultSchema.relaxed)) := by
  have hschema : Schema.ofDocument? defaultSchema.document = some defaultSchema :=
    ofDocument?_of_isComplete (by decide +kernel)
  have hdocument : defaultSchema.document.isProper = true := by decide +kernel
  have hvalue : emptyDefault.isProper = true := by decide +kernel
  have hkind : (defaultSchema.validatePart emptyDefault).map (·.kind) = some .required := by rfl
  obtain ⟨finding, hfound, hkind⟩ := Option.map_eq_some_iff.1 hkind
  exact ⟨hschema, hdocument, hvalue, finding, hfound, hkind,
    validatePart_required hschema hdocument hvalue hfound hkind⟩

/-- The attribute is asked for, since the property's schema counts as data. -/
theorem defaultSchema_asks :
    Schema.ofDocument? defaultSchema.document = some defaultSchema ∧
      ∃ finding, defaultSchema.validatePart emptyDefault = some finding ∧
        finding.kind = .required := by
  have hkind : (defaultSchema.validatePart emptyDefault).map (·.kind) = some .required := by rfl
  exact ⟨ofDocument?_of_isComplete (by decide +kernel), Option.map_eq_some_iff.1 hkind⟩

end Schema

end ItemTable
