import ItemTable.Proofs.Schema.ReadBack
import ItemTable.Proofs.StoreValue.Locate
import ItemTable.Proofs.StoreValue.SetMembers

set_option autoImplicit false

/-! # Stored forms have documents

A value of the store may have no document, since a numeral may spell no number. What a document or
a schema makes always has one, floats and repeated set elements included
(`Schema.isReadable_of_storeValue`); and what stands at a path of names in the whole is there the
document of the part (`StoreValue.toJson_walk?`). -/

namespace ItemTable

open Traversal (map_eq_ok exists_mapM_iff exists_map_eq_ok_iff exists_of_mem_right)

namespace StoreValue

variable {value : StoreValue} {json : Json}

/-- Whether a stored value has a document. -/
def IsReadable (value : StoreValue) : Prop := ∃ json, toJson value = .ok json

theorem isReadable_list {parts : List StoreValue} :
    (list parts).IsReadable ↔ ∀ part ∈ parts, part.IsReadable := by
  simp only [IsReadable, toJson, toElements_eq_mapM, exists_map_eq_ok_iff, exists_mapM_iff]

theorem isReadable_map {entries : List (String × StoreValue)} :
    (map entries).IsReadable ↔ ∀ e ∈ entries, e.2.IsReadable := by
  simp only [IsReadable, toJson, settle, exists_map_eq_ok_iff, exists_mapM_iff,
    (Record.perm_sort _).mem_iff, toEntries_eq_map, List.forall_mem_map]

theorem isReadable_ofJson (json : Json) : (ofJson json).IsReadable := by
  induction json using Json.parts_induction with
  | scalar json harray hobject =>
    cases json with
    | number n =>
      rw [ofJson, IsReadable, toJson, exists_map_eq_ok_iff]
      rcases numberOfNumeral_numeral n with ⟨i, hi⟩ | hn
      · exact ⟨_, hi⟩
      · exact ⟨_, hn⟩
    | array => cases harray
    | object => cases hobject
    | _ => exact ⟨_, rfl⟩
  | array elements ih =>
    rw [ofJson, isReadable_list, ofElements_eq_map, List.forall_mem_map]
    exact ih
  | object members ih =>
    rw [ofJson, isReadable_map, ofMembers_eq_map, List.forall_mem_map]
    exact ih

theorem isReadable_of_setOfJson {elements : List Json}
    (h : setOfJson (.array elements) = .ok value) : value.IsReadable := by
  rcases setOfJson_eq_ok h with ⟨strings, -, rfl⟩ | ⟨numbers, -, rfl⟩
  · exact ⟨_, rfl⟩
  · rw [IsReadable, toJson, exists_map_eq_ok_iff, numbersOfNumerals, exists_mapM_iff,
      List.forall_mem_map]
    intro n _
    obtain ⟨m, hm, -⟩ := numberOfNumeral_text n
    exact ⟨.number m, by rw [hm]; rfl⟩

/-- Along a path of names, the document of a whole leads to the document of the part. -/
theorem toJson_walk? {path : Path} {part : StoreValue} (h : toJson value = .ok json)
    (hwalk : value.walk? path = some part) :
    ∃ x, json.walk? path = some x ∧ toJson part = .ok x := by
  induction path generalizing value json with
  | nil =>
    obtain rfl := Option.some.inj hwalk
    exact ⟨json, rfl, h⟩
  | cons step rest ih =>
    unfold walk? at hwalk
    split at hwalk
    · next heq => cases heq
    · next entries name rest' heq =>
      cases heq
      obtain ⟨next, hnext, hrest⟩ := Option.bind_eq_some_iff.1 hwalk
      rcases child?_key h name with ⟨hnone, -⟩ | ⟨next', x, hchild, hx, hread⟩
      · simp [child?, hnext] at hnone
      · obtain rfl : next = next' := Option.some.inj (hnext.symm.trans hchild)
        obtain ⟨last, hlast, hpart⟩ := ih hread hrest
        exact ⟨last, by rw [Json.walk?, hx, Option.bind_some, hlast], hpart⟩
    · cases hwalk

end StoreValue

namespace Schema

open StoreValue (IsReadable)

/-- What a schema makes of a value has a document. -/
theorem isReadable_of_storeValue {schema : Schema} {path : Path} {value : Json}
    {stored : StoreValue} (h : schema.storeValue path value = .ok stored) : stored.IsReadable := by
  induction value using Json.parts_induction generalizing path stored with
  | scalar value harray hobject =>
    rcases storeValue_scalar schema path harray hobject with ⟨text, rfl, hbinary⟩ | hplain
    · rw [hbinary] at h
      exact ⟨_, StoreValue.toJson_of_binaryOfText h⟩
    · rw [hplain] at h
      cases h
      exact StoreValue.isReadable_ofJson value
  | array elements ih =>
    by_cases hset : schema.setAt path = true
    · rcases storeValue_set hset elements with heq | heq
      · rw [heq] at h
        exact StoreValue.isReadable_of_setOfJson h
      · rw [heq] at h
        exact ⟨_, StoreValue.toJson_of_binarySetOfJson h⟩
    · rw [storeValue_array (Bool.eq_false_iff.2 hset) elements 0] at h
      obtain ⟨parts, hparts, rfl⟩ := map_eq_ok h
      refine StoreValue.isReadable_list.2 fun part hpart => ?_
      obtain ⟨x, hx, hstored⟩ := exists_of_mem_right (Traversal.forall₂_of_mapM hparts) part hpart
      exact ih x hx hstored
  | object members ih =>
    obtain ⟨entries, rfl, hentries⟩ := entries_of_storeValue h
    refine StoreValue.isReadable_map.2 fun e he => ?_
    obtain ⟨m, hm, -, hstored⟩ := exists_of_mem_right hentries e he
    exact ih m hm hstored

end Schema

end ItemTable
