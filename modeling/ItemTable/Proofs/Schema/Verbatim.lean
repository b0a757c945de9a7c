import ItemTable.Proofs.Schema.ReadBack

set_option autoImplicit false

/-! # Values that are stored as they are

A schema stores a value as rules without a schema do, unless it spells some part of it otherwise: a
text where byte strings are declared is stored as the bytes that it spells, and an array where a set
is declared as the set. Each of them alone makes a difference (`Schema.storeValue_eq_ofJson_iff`).
-/

namespace ItemTable

open Traversal (map_eq_ok map_eq_ok_iff mapM_eq_ok_map_iff)

namespace Schema

variable {schema : Schema}

/-- No part of the value at a path is a text where byte strings are declared, or an array where a
set is declared. -/
def Verbatim (schema : Schema) (path : Path) (value : Json) : Prop :=
  ∀ part ∈ value.partsAt path,
    (part.2.string?.isSome = true → schema.typeAt? part.1 ≠ some .bytes) ∧
      (part.2.isArray = true → schema.setAt part.1 = false)

theorem verbatim_array_iff {path : Path} {elements : List Json} :
    schema.Verbatim path (.array elements) ↔ schema.setAt path = false ∧
      ∀ (i : Nat) (x : Json), elements[i]? = some x →
        schema.Verbatim (path ++ [.position i]) x := by
  constructor
  · intro h
    refine ⟨(h _ (Json.mem_partsAt_array.2 (.inl rfl))).2 rfl, ?_⟩
    intro i x hx part hpart
    exact h part (Json.mem_partsAt_array.2 (.inr ⟨i, x, hx, hpart⟩))
  · rintro ⟨hset, helements⟩ part hpart
    rcases Json.mem_partsAt_array.1 hpart with rfl | ⟨i, x, hx, hpart⟩
    · exact ⟨nofun, fun _ => hset⟩
    · exact helements i x hx part hpart

theorem verbatim_object_iff {path : Path} {members : List (String × Json)} :
    schema.Verbatim path (.object members) ↔
      ∀ m ∈ members, schema.Verbatim (path ++ [.key m.1]) m.2 := by
  constructor
  · intro h m hm part hpart
    exact h part (Json.mem_partsAt_object.2 (.inr ⟨m, hm, hpart⟩))
  · intro hmembers part hpart
    rcases Json.mem_partsAt_object.1 hpart with rfl | ⟨m, hm, hpart⟩
    · exact ⟨nofun, nofun⟩
    · exact hmembers m hm part hpart

theorem storeValue_text_eq_iff {path : Path} {text : String} :
    schema.storeValue path (.string text) = .ok (.string text) ↔
      schema.Verbatim path (.string text) := by
  have hverbatim : schema.Verbatim path (.string text) ↔ schema.typeAt? path ≠ some .bytes := by
    simp [Verbatim, Json.partsAt, Json.string?, Json.isArray]
  rw [hverbatim, storeValue_text]
  by_cases hbytes : schema.typeAt? path = some .bytes
  · rw [if_pos hbytes]
    constructor
    · intro h
      obtain ⟨bytes, -, heq⟩ := map_eq_ok h
      cases heq
    · intro h
      exact absurd hbytes h
  · rw [if_neg hbytes]
    exact iff_of_true rfl hbytes

/-- Where a set is declared, an array is stored as nothing else. -/
theorem isSet_of_storeValue {path : Path} (hset : schema.setAt path = true) {elements : List Json}
    {stored : StoreValue} (h : schema.storeValue path (.array elements) = .ok stored) :
    stored.isSet = true := by
  rcases storeValue_set hset elements with heq | heq
  · rw [heq] at h
    exact StoreValue.isSet_of_setOfJson h
  · rw [heq] at h
    exact StoreValue.isSet_of_binarySetOfJson h

/-- Nothing but `null` is stored as nothing. -/
theorem null_of_storeValue {path : Path} {value : Json} {flag : Bool}
    (h : schema.storeValue path value = .ok (.null flag)) : value = .null := by
  cases value with
  | null => rfl
  | string text =>
    rw [storeValue_text] at h
    split at h
    · obtain ⟨bytes, -, heq⟩ := map_eq_ok h
      cases heq
    · cases h
  | array elements =>
    by_cases hset : schema.setAt path = true
    · cases isSet_of_storeValue hset h
    · obtain ⟨parts, hlist, -⟩ := elements_of_storeValue (Bool.eq_false_iff.2 hset) h
      cases hlist
  | object members =>
    obtain ⟨entries, hmap, -⟩ := entries_of_storeValue h
    cases hmap
  | _ => cases h

/-- A value is stored as it is exactly if the schema spells no part of it otherwise. -/
theorem storeValue_eq_ofJson_iff {path : Path} {value : Json} :
    schema.storeValue path value = .ok (.ofJson value) ↔ schema.Verbatim path value := by
  induction value using Json.parts_induction generalizing path with
  | scalar value harray hobject =>
    cases value with
    | string text => exact storeValue_text_eq_iff
    | array => cases harray
    | object => cases hobject
    | _ => exact iff_of_true rfl (by simp [Verbatim, Json.partsAt, Json.string?, Json.isArray])
  | array elements ih =>
    rw [verbatim_array_iff, StoreValue.ofJson]
    by_cases hset : schema.setAt path = false
    · have hstored : schema.storeValue path (.array elements) =
          .ok (.list (StoreValue.ofElements elements)) ↔
            ∀ x ∈ elements, schema.storeValue (path ++ [.position 0]) x = .ok (.ofJson x) := by
        rw [storeValue_array hset elements 0, map_eq_ok_iff fun _ _ => StoreValue.list.inj,
          StoreValue.ofElements_eq_map, mapM_eq_ok_map_iff]
      rw [hstored]
      constructor
      · intro h
        refine ⟨hset, ?_⟩
        intro i x hx
        have hmem := List.mem_of_getElem? hx
        rw [← ih x hmem, storeValue_position path i 0]
        exact h x hmem
      · rintro ⟨-, h⟩ x hmem
        obtain ⟨i, hx⟩ := List.mem_iff_getElem?.1 hmem
        rw [storeValue_position path 0 i, ih x hmem]
        exact h i x hx
    · constructor
      · intro h
        cases isSet_of_storeValue (by simpa using hset) h
      · intro h
        exact absurd h.1 hset
  | object members ih =>
    have hstored : schema.storeValue path (.object members) =
        .ok (.map (StoreValue.ofMembers members)) ↔
          ∀ m ∈ members, (schema.storeValue (path ++ [.key m.1]) m.2).map (fun v => (m.1, v)) =
            .ok (m.1, .ofJson m.2) := by
      rw [storeValue_object, map_eq_ok_iff fun _ _ => StoreValue.map.inj,
        StoreValue.ofMembers_eq_map, mapM_eq_ok_map_iff]
    rw [verbatim_object_iff, StoreValue.ofJson, hstored]
    refine forall₂_congr fun m hm => ?_
    rw [← ih m hm, map_eq_ok_iff (f := fun v => (m.1, v)) fun _ _ h => (Prod.mk.inj h).2]

end Schema

end ItemTable
