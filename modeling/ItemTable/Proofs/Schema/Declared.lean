import ItemTable.Proofs.Schema.Verbatim
import ItemTable.Proofs.StoreValue.Locate

set_option autoImplicit false

/-! # Byte strings and sets where they are declared

A stored value has a part for each part of the value that it was stored for, at the same place and
stored as that part is alone; only what is inside an array that was stored as a set has none
(`Schema.storeValue_locate?`). There an array is a set and a text is bytes exactly where a node's
type is the name of such a store type (`Schema.storeItem_declared`). A list of types is checked
by the store types in it, yet nothing is stored as one of them: an array of a node with the types
`stringSet` and `null` is stored as a list (`Schema.tagsSchema_stores_list`). -/

namespace ItemTable

open Traversal (map_eq_ok exists_of_isOk)

namespace Schema

variable {schema : Schema}

/-! ## Places outside of sets -/

/-- No array in the value at a path that is declared as a set has the end of a way down inside. -/
def OutsideSets (schema : Schema) (path : Path) (value : Json) (below : Path) : Prop :=
  ∀ before step after elements, below = before ++ step :: after →
    value.walk? before = some (.array elements) → schema.setAt (path ++ before) = false

section

variable {path below : Path} {step : Step} {value part : Json}

theorem outsideSets_nil : schema.OutsideSets path value [] := by
  intro before step after elements hbelow
  cases before <;> cases hbelow

/-- The first step does not lead into a set, and neither do the others. -/
theorem outsideSets_cons_iff : schema.OutsideSets path value (step :: below) ↔
    (∀ elements, value = .array elements → schema.setAt path = false) ∧
      ∀ part, value.child? step = some part → schema.OutsideSets (path ++ [step]) part below := by
  constructor
  · intro h
    constructor
    · rintro elements rfl
      have hset := h [] step below elements rfl rfl
      rwa [List.append_nil] at hset
    · rintro part hpart before next after elements rfl hwalk
      have hset := h (step :: before) next after elements rfl
        (by rw [Json.walk?, hpart]; exact hwalk)
      rwa [List.append_assoc, List.singleton_append]
  · rintro ⟨hfirst, hrest⟩ before next after elements hbelow hwalk
    cases before with
    | nil =>
      rw [List.append_nil]
      exact hfirst elements (Option.some.inj hwalk)
    | cons first before =>
      cases hbelow
      obtain ⟨part, hpart, hwalk⟩ := Option.bind_eq_some_iff.1 hwalk
      have hset := hrest part hpart before next after elements rfl hwalk
      rwa [List.append_assoc, List.singleton_append] at hset

/-- The last step does not lead into a set, and neither do the others. -/
theorem OutsideSets.concat (h : schema.OutsideSets path value (below ++ [step])) :
    schema.OutsideSets path value below ∧ ∀ elements, value.walk? below = some (.array elements) →
      schema.setAt (path ++ below) = false := by
  constructor
  · rintro before next after elements rfl hwalk
    exact h before next (after ++ [step]) elements (by simp) hwalk
  · intro elements hwalk
    exact h below step [] elements rfl hwalk

/-! ## Stored parts -/

/-- A step that does not lead into a set leads to the stored form of the part there. -/
theorem child?_of_storeValue {stored : StoreValue}
    (hstored : schema.storeValue path value = .ok stored)
    (houtside : ∀ elements, value = .array elements → schema.setAt path = false)
    (hpart : value.child? step = some part) :
    ∃ found, stored.child? step = some found ∧
      schema.storeValue (path ++ [step]) part = .ok found := by
  cases step with
  | key name =>
    cases value with
    | object members =>
      obtain ⟨entries, rfl, hentries⟩ := storesByParts_storeValue schema path members stored hstored
      exact hentries name part hpart
    | _ => cases hpart
  | position i =>
    cases value with
    | array elements =>
      obtain ⟨parts, rfl, hlength, hparts⟩ := elements_of_storeValue (houtside elements rfl) hstored
      have hpart : elements[i]? = some part := hpart
      obtain ⟨hi, -⟩ := List.getElem?_eq_some_iff.1 hpart
      have hfound : parts[i]? = some parts[i] := List.getElem?_eq_getElem (hlength ▸ hi)
      exact ⟨_, hfound, hparts i part _ hpart hfound⟩
    | _ => cases hpart

/-- A part that is in no set is stored at its place as it is alone. -/
theorem storeValue_locate? {stored : StoreValue}
    (hstored : schema.storeValue path value = .ok stored)
    (houtside : schema.OutsideSets path value below) (hwalk : value.walk? below = some part) :
    ∃ found, stored.locate? below = some found ∧
      schema.storeValue (path ++ below) part = .ok found := by
  induction below generalizing path value stored with
  | nil =>
    obtain rfl : value = part := Option.some.inj hwalk
    exact ⟨stored, rfl, by rwa [List.append_nil]⟩
  | cons step rest ih =>
    obtain ⟨next, hnext, hrest⟩ := Option.bind_eq_some_iff.1 hwalk
    obtain ⟨hfirst, houtside⟩ := outsideSets_cons_iff.1 houtside
    obtain ⟨child, hchild, hstored⟩ := child?_of_storeValue hstored hfirst hnext
    obtain ⟨found, hfound, hpart⟩ := ih hstored (houtside next hnext) hrest
    refine ⟨found, ?_, ?_⟩
    · rw [StoreValue.locate?, hchild]
      exact hfound
    · rwa [List.append_assoc, List.singleton_append] at hpart

end

/-! ## Stored forms by declared type -/

/-- A text is stored as the bytes that it spells exactly where byte strings are declared. -/
theorem text_of_storeValue {path : Path} {text : String} {stored : StoreValue}
    (h : schema.storeValue path (.string text) = .ok stored) :
    (schema.typeAt? path = some .bytes →
        ∃ bytes, Base64.decode text = .ok bytes ∧ stored = .binary bytes) ∧
      (schema.typeAt? path ≠ some .bytes → stored = .string text) := by
  rw [storeValue_text] at h
  constructor
  · intro hbytes
    rw [if_pos hbytes] at h
    obtain ⟨bytes, hspelt, rfl⟩ := map_eq_ok h
    unfold StoreValue.bytesOfText at hspelt
    split at hspelt
    · next hdecode =>
      cases hspelt
      exact ⟨_, hdecode, rfl⟩
    · cases hspelt
  · intro hbytes
    rw [if_neg hbytes] at h
    cases h
    rfl

theorem storeValue_bytesSet {path : Path} (hset : schema.typeAt? path = some .bytesSet)
    (elements : List Json) : schema.storeValue path (.array elements) =
      StoreValue.binarySetOfJson (.array elements) := by
  unfold typeAt? at hset
  rw [storeValue, storeAt, nodeAt?_bind_resolve?]
  simp only [hset]

theorem storeValue_plainSet {path : Path}
    (hset : schema.typeAt? path = some .stringSet ∨ schema.typeAt? path = some .numberSet)
    (elements : List Json) : schema.storeValue path (.array elements) =
      StoreValue.setOfJson (.array elements) := by
  unfold typeAt? at hset
  rw [storeValue, storeAt, nodeAt?_bind_resolve?]
  rcases hset with hset | hset
  · simp only [hset]
  · simp only [hset]

/-- Where sets of byte strings are declared, an array is stored as one. -/
theorem binarySet_of_storeValue {path : Path} (hset : schema.typeAt? path = some .bytesSet)
    {elements : List Json} {stored : StoreValue}
    (h : schema.storeValue path (.array elements) = .ok stored) :
    ∃ members, stored = .binarySet members := by
  rw [storeValue_bytesSet hset] at h
  unfold StoreValue.binarySetOfJson at h
  split at h
  · obtain ⟨members, -, rfl⟩ := map_eq_ok h
    exact ⟨members, rfl⟩
  · cases h

/-- Of a stored item, each part of the item that is in no set has its own part: an array as a set
exactly where the type of its node is the name of a set, a text as bytes exactly where that type is
`bytes`. -/
theorem storeItem_declared (schema : Schema) (item : Record Json) (stored : Item)
    (hstored : schema.storeItem item = .ok stored) (path : Path) (part : Json)
    (hwalk : (Json.object item).walk? path = some part)
    (houtside : schema.OutsideSets [] (.object item) path) :
    ∃ found, (StoreValue.map stored).locate? path = some found ∧
      (∀ elements, part = .array elements →
        (schema.setAt path = true → found.isSet = true) ∧
        (schema.typeAt? path = some .bytesSet → ∃ members, found = .binarySet members) ∧
        (schema.setAt path = false → ∃ parts, found = .list parts)) ∧
      (∀ text, part = .string text →
        (schema.typeAt? path = some .bytes →
          ∃ bytes, Base64.decode text = .ok bytes ∧ found = .binary bytes) ∧
        (schema.typeAt? path ≠ some .bytes → found = .string text)) := by
  have hwhole := storeItem_eq_ok_iff.1 hstored
  obtain ⟨found, hfound, hpart⟩ := storeValue_locate? hwhole houtside hwalk
  rw [List.nil_append] at hpart
  refine ⟨found, hfound, ?_, ?_⟩
  · rintro elements rfl
    refine ⟨fun hset => isSet_of_storeValue hset hpart,
      fun hset => binarySet_of_storeValue hset hpart, fun hset => ?_⟩
    obtain ⟨parts, rfl, -⟩ := elements_of_storeValue hset hpart
    exact ⟨parts, rfl⟩
  · rintro text rfl
    exact text_of_storeValue hpart

theorem exists_storeItem_album : ∃ stored, albumSchema.storeItem album = .ok stored :=
  exists_of_isOk (by decide +kernel)

theorem storeItem_declared_album :
    ∃ stored found, albumSchema.storeItem album = .ok stored ∧
      (Json.object album).walk? [.key "hashes"] = some (.strings ["", "aGk="]) ∧
      albumSchema.OutsideSets [] (.object album) [.key "hashes"] ∧
      (StoreValue.map stored).locate? [.key "hashes"] = some found ∧
      ∃ members, found = .binarySet members := by
  have hwalk : (Json.object album).walk? [.key "hashes"] = some (.strings ["", "aGk="]) := rfl
  have houtside : albumSchema.OutsideSets [] (.object album) [.key "hashes"] :=
    outsideSets_cons_iff.2 ⟨nofun, fun _ _ => outsideSets_nil⟩
  obtain ⟨stored, hstored⟩ := exists_storeItem_album
  obtain ⟨found, hfound, harray, -⟩ :=
    storeItem_declared albumSchema album stored hstored _ _ hwalk houtside
  exact ⟨stored, found, hstored, hwalk, houtside, hfound, (harray _ rfl).2.1 (by decide +kernel)⟩

/-- A schema with a list of types, one of them a set. -/
def tagsSchema : Schema :=
  let document : Json := .object
    [("type", .string "object"),
      ("properties", .object
        [("id", .object [("type", .string "string")]),
          ("tags", .object [("type", .strings ["stringSet", "null"])])]),
      ("default", .strings ["id"])]
  .lowered .pointers document

/-- An array where a list of types has a set beside `null` is checked as a set's array, and yet it
is stored as a list. -/
theorem tagsSchema_stores_list :
    Schema.ofDocument? tagsSchema.document = some tagsSchema ∧
      (tagsSchema.nodeAt? [.key "tags"]).bind (·.member? "type") =
        some (.strings ["stringSet", "null"]) ∧
      tagsSchema.validate (.object [("id", .string "a"), ("tags", .strings ["x"])]) = none ∧
      tagsSchema.storeItem [("id", .string "a"), ("tags", .strings ["x"])] =
        .ok [("id", .string "a"), ("tags", .list [.string "x"])] :=
  ⟨ofDocument?_of_isComplete (by decide +kernel), rfl, rfl, rfl⟩

end Schema

end ItemTable
