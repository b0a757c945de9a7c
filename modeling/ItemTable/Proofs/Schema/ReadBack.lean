import ItemTable.Proofs.Schema.OneForm
import ItemTable.Proofs.StoreValue.ReadBack

set_option autoImplicit false

/-! # What is put is what is read

Values are stored by their schema and read back without it, by the tags of the stored values alone.
All the same, whatever a schema stores comes back as it was put, but for the order of members
(`Schema.storeItem_readBack`). Two things have to hold of the item: it has no floats, which come
back by value only, and no array repeats an element where a set is declared, since a set keeps it
once. -/

namespace ItemTable

open Traversal (forall₂_imp_of_mem)

namespace Schema

variable {schema : Schema}

/-- No array in the value at a path repeats an element where the schema declares a set. -/
def SetsDistinct (schema : Schema) (path : Path) (value : Json) : Prop :=
  ∀ part ∈ value.partsAt path, schema.setAt part.1 = true →
    ∀ elements ∈ part.2.array?, elements.Nodup

theorem SetsDistinct.element {path : Path} {elements : List Json}
    (h : schema.SetsDistinct path (.array elements)) {i : Nat} {x : Json}
    (hx : elements[i]? = some x) : schema.SetsDistinct (path ++ [.position i]) x :=
  fun part hpart => h part (Json.mem_partsAt_array.2 (.inr ⟨i, x, hx, hpart⟩))

theorem SetsDistinct.member {path : Path} {members : List (String × Json)}
    (h : schema.SetsDistinct path (.object members)) {m : String × Json} (hm : m ∈ members) :
    schema.SetsDistinct (path ++ [.key m.1]) m.2 :=
  fun part hpart => h part (Json.mem_partsAt_object.2 (.inr ⟨m, hm, hpart⟩))

/-- Where a set is declared, an array is stored as one of the sets. -/
theorem storeValue_set {path : Path} (hset : schema.setAt path = true) (elements : List Json) :
    schema.storeValue path (.array elements) = StoreValue.setOfJson (.array elements) ∨
      schema.storeValue path (.array elements) = StoreValue.binarySetOfJson (.array elements) := by
  rw [storeValue, storeAt, nodeAt?_bind_resolve?]
  unfold setAt typeAt? at hset
  cases hdeclared : (declaredType? (schema.nodeAt? path)).bind StoreType.ofName? with
  | none => simp [hdeclared] at hset
  | some declared =>
    cases declared with
    | bytes => simp [hdeclared, StoreType.isSet] at hset
    | stringSet => exact .inl rfl
    | numberSet => exact .inl rfl
    | bytesSet => exact .inr rfl

/-- A text is stored as the bytes that it spells where byte strings are declared, and else as it is.
-/
theorem storeValue_text (path : Path) (text : String) : schema.storeValue path (.string text) =
    if schema.typeAt? path = some .bytes then StoreValue.binaryOfText text
    else .ok (.string text) := by
  rw [storeValue, storeAt, nodeAt?_bind_resolve?, typeAt?]
  split
  · next hdeclared => rw [if_pos hdeclared]
  · next hdeclared => rw [if_neg hdeclared]

/-- A value without members and elements is stored as a byte string, or as it is. -/
theorem storeValue_scalar (schema : Schema) (path : Path) {value : Json}
    (harray : value.isArray = false) (hobject : value.isObject = false) :
    (∃ text, value = .string text ∧
        schema.storeValue path value = StoreValue.binaryOfText text) ∨
      schema.storeValue path value = .ok (.ofJson value) := by
  cases value with
  | string text =>
    rw [storeValue_text]
    by_cases hbytes : schema.typeAt? path = some .bytes
    · rw [if_pos hbytes]
      exact .inl ⟨text, rfl, rfl⟩
    · rw [if_neg hbytes]
      exact .inr rfl
  | array => cases harray
  | object => cases hobject
  | _ => exact .inr rfl

/-- A stored value comes back with its members by name. -/
theorem toJson_of_storeValue {value : Json} (hfloat : value.isFloatless = true) {path : Path}
    (hsets : schema.SetsDistinct path value)
    {stored : StoreValue} (h : schema.storeValue path value = .ok stored) :
    stored.toJson = .ok value.byName := by
  induction value using Json.parts_induction generalizing path stored with
  | scalar value harray hobject =>
    rcases storeValue_scalar schema path harray hobject with ⟨text, rfl, hbinary⟩ | hplain
    · rw [hbinary] at h
      exact StoreValue.toJson_of_binaryOfText h
    · rw [hplain] at h
      cases h
      exact StoreValue.toJson_ofJson hfloat
  | array elements ih =>
    by_cases hset : schema.setAt path = true
    · have hnodup : elements.Nodup :=
        hsets (path, .array elements) (Json.mem_partsAt_array.2 (.inl rfl)) hset elements rfl
      rcases storeValue_set hset elements with heq | heq
      · rw [heq] at h
        exact StoreValue.toJson_of_setOfJson hnodup hfloat h
      · rw [heq] at h
        exact StoreValue.toJson_of_binarySetOfJson h
    · obtain ⟨parts, rfl, hlength, hparts⟩ :=
        elements_of_storeValue (Bool.eq_false_iff.2 hset) h
      apply StoreValue.toJson_list
      rw [List.forall₂_iff_get]
      refine ⟨hlength.symm, ?_⟩
      intro i hi hi'
      have hx : elements[i]? = some (elements.get ⟨i, hi⟩) := List.getElem?_eq_getElem hi
      have hpart : parts[i]? = some (parts.get ⟨i, hi'⟩) := List.getElem?_eq_getElem hi'
      have hmem : elements.get ⟨i, hi⟩ ∈ elements := List.get_mem elements ⟨i, hi⟩
      exact ih _ hmem (Json.isFloatless_array.1 hfloat _ hmem) (hsets.element hx)
        (hparts i _ _ hx hpart)
  | object members ih =>
    obtain ⟨entries, rfl, hentries⟩ := entries_of_storeValue h
    apply StoreValue.toJson_map
    refine forall₂_imp_of_mem hentries ?_
    rintro m hm e ⟨hname, hvalue⟩
    exact ⟨hname, ih m hm (Json.isFloatless_object.1 hfloat m hm) (hsets.member hm) hvalue⟩

/-- An item without floats comes back as it was put, but for the order of members: whenever a schema
stores it, if no array repeats an element where a set is declared, and without a schema always. -/
theorem storeItem_readBack (schema : Schema) (item : Record Json)
    (hfloat : (Json.object item).isFloatless = true) :
    (∀ stored, schema.SetsDistinct [] (.object item) → schema.storeItem item = .ok stored →
      ∃ back, StoreValue.membersOfItem stored = .ok back ∧
        Json.Rearranged (.object item) (.object back)) ∧
    ∃ back, StoreValue.membersOfItem (StoreValue.itemOfMembers item) = .ok back ∧
      Json.Rearranged (.object item) (.object back) := by
  have hback := Json.rearranged_byName (.object item)
  constructor
  · intro stored hsets h
    have hread := toJson_of_storeValue hfloat hsets (storeItem_eq_ok_iff.1 h)
    exact ⟨_, StoreValue.membersOfItem_of_toJson hread, hback⟩
  · have hread := StoreValue.toJson_ofJson hfloat
    exact ⟨_, StoreValue.membersOfItem_of_toJson hread, hback⟩

/-- A schema with a declared type of each kind, one of them behind a reference. -/
def albumSchema : Schema :=
  let typed (name : String) : Json := .object [("type", .string name)]
  let document : Json := .object
    [("type", .string "object"),
      ("properties", .object
        [("id", typed "string"), ("cover", typed "bytes"), ("tags", typed "stringSet"),
          ("hashes", .object [("$ref", .string "#/definitions/hashes")]),
          ("more", .object [("additionalProperties", typed "numberSet")])]),
      ("definitions", .object [("hashes", typed "bytesSet")])]
  .lowered .pointers document

/-- An item with a value of each declared type, the least and the greatest integer, and a list that
repeats an element where no set is declared. -/
def album : Record Json :=
  let least : WordInt := ⟨-9223372036854775808, by decide, by decide⟩
  let greatest : WordInt := ⟨18446744073709551615, by decide, by decide⟩
  [("tags", .strings ["b", "a"]), ("id", .string "x"), ("cover", .string "aGk="),
    ("hashes", .strings ["", "aGk="]),
    ("more", .object [("sizes", .array [.number (.int greatest), .number (.int least)])]),
    ("log", .array [.null, .object [("z", .bool true), ("a", .object [])], .null])]

theorem storeItem_readBack_album :
    (Json.object album).isFloatless = true ∧ albumSchema.SetsDistinct [] (.object album) ∧
      ∃ stored back, albumSchema.storeItem album = .ok stored ∧
        StoreValue.membersOfItem stored = .ok back ∧
        Json.Rearranged (.object album) (.object back) := by
  have hfloat : (Json.object album).isFloatless = true := by decide +kernel
  have hsets : albumSchema.SetsDistinct [] (.object album) := by
    have hlog : albumSchema.setAt [.key "log"] = false := by decide +kernel
    unfold SetsDistinct
    simp [album, Json.strings, Json.partsAt, Json.partsOfElements, Json.partsOfMembers,
      Json.array?, hlog]
  have hstores : (albumSchema.storeItem album).isOk = true := by decide +kernel
  cases hstored : albumSchema.storeItem album with
  | error e =>
    rw [hstored] at hstores
    cases hstores
  | ok stored =>
    obtain ⟨back, hback, hsame⟩ :=
      (storeItem_readBack albumSchema album hfloat).1 stored hsets hstored
    exact ⟨hfloat, hsets, stored, back, rfl, hback, hsame⟩

end Schema

end ItemTable
