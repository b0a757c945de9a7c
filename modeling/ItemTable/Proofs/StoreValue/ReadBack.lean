import ItemTable.Proofs.Json.ByName
import ItemTable.Proofs.Number.Numeral
import ItemTable.Proofs.Text.Base64
import ItemTable.Proofs.Traversal
import ItemTable.StoreValue.Convert

set_option autoImplicit false

/-! # Stored values read back

What is stored without a schema comes back as it was, with the members of its maps by name
(`StoreValue.toJson_ofJson`). What is stored as a set of strings, numbers or byte strings, or as a
byte string, comes back as the array or text that it was made of, as long as no element of a set
repeats. All this holds of documents without floats: of a float only the value comes back, and a
whole one as an integer. -/

namespace ItemTable

open Traversal (map_eq_ok mapM_of_forall₂ forall₂_of_mapM forall₂_imp_of_mem nodup_of_forall₂
  exists_of_mem_left)

namespace Json

mutual
/-- Whether no number in a document is a float. -/
def isFloatless : Json → Bool
  | .number (.float _) => false
  | .array elements => areFloatless elements
  | .object members => membersFloatless members
  | _ => true

/-- Whether no number in the elements is a float. -/
def areFloatless : List Json → Bool
  | [] => true
  | x :: xs => isFloatless x && areFloatless xs

/-- Whether no number in the members' values is a float. -/
def membersFloatless : List (String × Json) → Bool
  | [] => true
  | (_, x) :: xs => isFloatless x && membersFloatless xs
end

theorem isFloatless_array {elements : List Json} :
    (array elements).isFloatless = true ↔ ∀ x ∈ elements, x.isFloatless = true := by
  rw [isFloatless]
  induction elements with
  | nil => simp [areFloatless]
  | cons x xs ih => rw [areFloatless, Bool.and_eq_true, ih, List.forall_mem_cons]

theorem isFloatless_object {members : List (String × Json)} :
    (object members).isFloatless = true ↔ ∀ m ∈ members, m.2.isFloatless = true := by
  rw [isFloatless]
  induction members with
  | nil => simp [membersFloatless]
  | cons m rest ih =>
    obtain ⟨name, value⟩ := m
    rw [membersFloatless, Bool.and_eq_true, ih, List.forall_mem_cons]

end Json

namespace StoreValue

/-! ## Lists and maps -/

theorem toElements_eq_mapM (parts : List StoreValue) : toElements parts = parts.mapM toJson := by
  induction parts with
  | nil => rfl
  | cons x xs ih => rw [toElements, List.mapM_cons, ← ih]; rfl

theorem toEntries_eq_map (entries : List (String × StoreValue)) :
    toEntries entries = entries.map fun e => (e.1, toJson e.2) := by
  induction entries with
  | nil => rfl
  | cons e rest ih =>
    obtain ⟨name, value⟩ := e
    rw [toEntries, ih, List.map_cons]

theorem ofElements_eq_map (elements : List Json) : ofElements elements = elements.map ofJson := by
  induction elements with
  | nil => rfl
  | cons x xs ih => rw [ofElements, ih, List.map_cons]

theorem ofMembers_eq_map (members : List (String × Json)) :
    ofMembers members = members.map fun m => (m.1, ofJson m.2) := by
  induction members with
  | nil => rfl
  | cons m rest ih =>
    obtain ⟨name, value⟩ := m
    rw [ofMembers, ih, List.map_cons]

/-- Entries without a fault are settled by name. -/
theorem settle_of_ok (members : Record Json) :
    settle (members.map fun m => (m.1, .ok m.2)) = .ok (Record.sort members) := by
  unfold settle
  rw [Record.sort_map (fun m : String × Json => (m.1, Except.ok m.2)) fun _ => rfl]
  apply mapM_of_forall₂
  rw [List.forall₂_map_left_iff, List.forall₂_same]
  intro m _
  rfl

theorem toJson_list {elements : List Json} {parts : List StoreValue}
    (h : List.Forall₂ (fun x part => toJson part = .ok x.byName) elements parts) :
    toJson (.list parts) = .ok (Json.array elements).byName := by
  have hparts : toElements parts = .ok (elements.map Json.byName) := by
    rw [toElements_eq_mapM]
    apply mapM_of_forall₂
    rw [List.forall₂_map_right_iff]
    exact h.flip
  rw [toJson, hparts, Json.byName, Json.elementsByName_eq_map]
  rfl

theorem toJson_map {members : List (String × Json)} {entries : List (String × StoreValue)}
    (h : List.Forall₂ (fun m e => e.1 = m.1 ∧ toJson e.2 = .ok m.2.byName) members entries) :
    toJson (.map entries) = .ok (Json.object members).byName := by
  have hentries : toEntries entries =
      (Json.membersByName members).map fun m => (m.1, .ok m.2) := by
    rw [toEntries_eq_map, Json.membersByName_eq_map, List.map_map]
    induction h with
    | nil => rfl
    | cons hme _ ih =>
      obtain ⟨hname, hvalue⟩ := hme
      rw [List.map_cons, List.map_cons, ih, hname, hvalue]
      rfl
  rw [toJson, hentries, settle_of_ok, Json.byName]
  rfl

theorem membersOfItem_of_toJson {item : Item} {members : Record Json}
    (h : toJson (.map item) = .ok (.object members)) : membersOfItem item = .ok members := by
  obtain ⟨back, hback, heq⟩ := map_eq_ok h
  cases heq
  exact hback

theorem get?_of_settle {entries : Record (Except ConversionError Json)} {members : Record Json}
    (h : settle entries = .ok members) {name : String} {value : Except ConversionError Json}
    (hget : entries.get? name = some value) :
    ∃ x, value = .ok x ∧ members.get? name = some x := by
  rw [← Record.get?_sort] at hget
  have hsorted := forall₂_of_mapM h
  clear h
  generalize Record.sort entries = sorted at hget hsorted
  induction hsorted with
  | nil => cases hget
  | @cons e m sorted members hentry _ ih =>
    obtain ⟨x, hx, rfl⟩ := map_eq_ok hentry
    rw [Record.get?] at hget ⊢
    by_cases hname : e.1 = name
    · rw [if_pos hname] at hget ⊢
      obtain rfl := Option.some.inj hget
      exact ⟨x, hx, rfl⟩
    · rw [if_neg hname] at hget ⊢
      exact ih hget

/-- An attribute of an item is in the item's document. -/
theorem get?_of_membersOfItem {item : Item} {members : Record Json}
    (h : membersOfItem item = .ok members) {name : String} {part : StoreValue}
    (hget : item.get? name = some part) : ∃ x, toJson part = .ok x ∧ members.get? name = some x := by
  refine get?_of_settle h ?_
  rw [toEntries_eq_map]
  clear h
  induction item with
  | nil => cases hget
  | cons e rest ih =>
    obtain ⟨n, v⟩ := e
    rw [Record.get?] at hget
    rw [List.map_cons, Record.get?]
    split_ifs at hget ⊢ with hname
    · obtain rfl := Option.some.inj hget
      rfl
    · exact ih hget

/-! ## Values without a schema -/

theorem toJson_ofJson {value : Json} (h : value.isFloatless = true) :
    toJson (ofJson value) = .ok value.byName := by
  induction value using Json.parts_induction with
  | scalar value harray hobject =>
    rw [Json.byName_of_scalar harray hobject]
    cases value with
    | number n =>
      cases n with
      | float x => cases h
      | int i =>
        rw [ofJson, toJson, Number.numeral, numberOfNumeral_integerText]
        rfl
    | array => cases harray
    | object => cases hobject
    | _ => rfl
  | array elements ih =>
    rw [ofJson, ofElements_eq_map]
    apply toJson_list
    rw [List.forall₂_map_right_iff, List.forall₂_same]
    intro x hx
    exact ih x hx (Json.isFloatless_array.1 h x hx)
  | object members ih =>
    rw [ofJson, ofMembers_eq_map]
    apply toJson_map
    rw [List.forall₂_map_right_iff, List.forall₂_same]
    intro m hm
    exact ⟨rfl, ih m hm (Json.isFloatless_object.1 h m hm)⟩

/-! ## Byte strings and sets -/

theorem isSet_of_setOfJson {value : Json} {stored : StoreValue}
    (h : setOfJson value = .ok stored) : stored.isSet = true := by
  unfold setOfJson at h
  split at h
  · cases h
  · obtain ⟨members, -, rfl⟩ := map_eq_ok h
    rfl
  · obtain ⟨numerals, -, rfl⟩ := map_eq_ok h
    rfl
  · cases h
  · cases h

theorem isSet_of_binarySetOfJson {value : Json} {stored : StoreValue}
    (h : binarySetOfJson value = .ok stored) : stored.isSet = true := by
  unfold binarySetOfJson at h
  split at h
  · obtain ⟨members, -, rfl⟩ := map_eq_ok h
    rfl
  · cases h

theorem toJson_of_binaryOfText {text : String} {stored : StoreValue}
    (h : binaryOfText text = .ok stored) : toJson stored = .ok (.string text) := by
  obtain ⟨bytes, hbytes, rfl⟩ := map_eq_ok h
  unfold bytesOfText at hbytes
  split at hbytes
  · next hdecode =>
    cases hbytes
    rw [toJson, Base64.encode_of_decode hdecode]
  · cases hbytes

theorem stringMember_eq_ok {x : Json} {s : String} (h : stringMember x = .ok s) :
    x = .string s := by
  unfold stringMember at h
  split at h
  · cases h
    rfl
  · cases h

theorem byteStringMember_eq_ok {x : Json} {bytes : List UInt8}
    (h : byteStringMember x = .ok bytes) : x = .string (Base64.encode bytes) := by
  unfold byteStringMember at h
  split at h
  · unfold bytesOfText at h
    split at h
    · next hdecode =>
      cases h
      rw [Base64.encode_of_decode hdecode]
    · cases h
  · cases h

/-- The text of an integer that is an element comes back as the element. -/
theorem numberOfNumeral_of_numberMember {x : Json} {text : String} (hfloat : x.isFloatless = true)
    (h : numberMember x = .ok text) : (numberOfNumeral text).map .number = .ok x := by
  unfold numberMember at h
  split at h
  · next n =>
    cases h
    cases n with
    | float x => cases hfloat
    | int i =>
      rw [Number.text, numberOfNumeral_integerText]
      rfl
  · cases h

/-- An array of strings has no order to lose. -/
theorem byName_strings (ss : List String) : (Json.strings ss).byName = .strings ss := by
  rw [Json.strings, Json.byName, Json.elementsByName_eq_map, List.map_map]
  rfl

theorem eq_strings_of_forall₂ {α : Type} {f : α → String} {elements : List Json} {members : List α}
    (h : List.Forall₂ (fun x a => x = Json.string (f a)) elements members) :
    Json.array elements = .strings (members.map f) := by
  rw [Json.strings, List.map_map]
  congr 1
  induction h with
  | nil => rfl
  | cons hxa _ ih => rw [hxa, ih]; rfl

theorem toJson_of_binarySetOfJson {elements : List Json} {stored : StoreValue}
    (h : binarySetOfJson (.array elements) = .ok stored) :
    toJson stored = .ok (Json.array elements).byName := by
  unfold binarySetOfJson at h
  split at h
  · next x xs heq =>
    cases heq
    obtain ⟨members, hmembers, rfl⟩ := map_eq_ok h
    have helements := eq_strings_of_forall₂ ((forall₂_of_mapM hmembers).imp
      fun _ _ => byteStringMember_eq_ok)
    rw [helements, byName_strings, toJson]
  · cases h

theorem toJson_of_setOfJson {elements : List Json} (hnodup : elements.Nodup)
    (hfloat : (Json.array elements).isFloatless = true) {stored : StoreValue}
    (h : setOfJson (.array elements) = .ok stored) :
    toJson stored = .ok (Json.array elements).byName := by
  unfold setOfJson at h
  split at h
  · cases h
  · next s rest heq =>
    cases heq
    obtain ⟨ss, hss, rfl⟩ := map_eq_ok h
    have hmembers := (forall₂_of_mapM hss).imp fun _ _ => stringMember_eq_ok
    have hdistinct : ss.Nodup := by
      refine nodup_of_forall₂ ?_ hmembers hnodup
      intro x x' s hx hx'
      rw [hx, hx']
    have helements := eq_strings_of_forall₂ (f := id) hmembers
    rw [helements, byName_strings, toJson, distinct_of_nodup hdistinct, List.map_id]
  · next n rest heq =>
    cases heq
    obtain ⟨texts, htexts, rfl⟩ := map_eq_ok h
    have hmembers := forall₂_imp_of_mem (forall₂_of_mapM htexts) fun x hx text =>
      numberOfNumeral_of_numberMember (Json.isFloatless_array.1 hfloat x hx)
    have hdistinct : texts.Nodup := by
      refine nodup_of_forall₂ ?_ hmembers hnodup
      intro x x' text hx hx'
      exact Except.ok.inj (hx.symm.trans hx')
    have hnumbers : numbersOfNumerals texts = .ok (Json.number n :: rest) :=
      mapM_of_forall₂ hmembers.flip
    have hscalar : (Json.number n :: rest).map Json.byName = Json.number n :: rest := by
      refine (List.map_congr_left ?_).trans (List.map_id _)
      intro x hx
      obtain ⟨text, -, hnumber⟩ := exists_of_mem_left hmembers x hx
      obtain ⟨m, -, rfl⟩ := map_eq_ok hnumber
      rfl
    rw [distinct_of_nodup hdistinct, toJson, hnumbers, Json.byName, Json.elementsByName_eq_map,
      hscalar]
    rfl
  · cases h
  · cases h

end StoreValue

end ItemTable
