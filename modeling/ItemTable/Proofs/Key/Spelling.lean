import ItemTable.Proofs.Key
import Mathlib.Data.List.Perm.Subperm

set_option autoImplicit false

/-! # What a caller may write for a key

A key has two spellings: the bare value, or the pair of values, and its entries in any order
(`KeyShape.Spells`). A table understands these and no others (`Table.keyOf_spelled`). Of anything
else it says which key attributes have no value, and only if none is without one, that something
else is wrong. -/

namespace ItemTable

namespace Record

variable {α : Type} {r s : Record α}

/-- What is said of all entries of one name is said of the one that a look-up finds. -/
theorem all_under (hr : r.names.Nodup) (p : α → Bool) (name : String) :
    (r.all fun e => e.1 != name || p e.2) = (r.get? name).all p := by
  induction r with
  | nil => rfl
  | cons e rest ih =>
    obtain ⟨n, v⟩ := e
    obtain ⟨hn, hrest⟩ := List.nodup_cons.1 hr
    rw [List.all_cons, ih hrest, get?]
    by_cases hname : n = name
    · subst hname
      rw [(get?_eq_none_iff rest n).2 hn, if_pos rfl]
      simp
    · simp [hname]

/-- Entries that are all in a record that has no more than they are those of the record. -/
theorem perm_of_get? (hs : s.names.Nodup) (hget : ∀ e ∈ s, r.get? e.1 = some e.2)
    (hlength : List.length r ≤ List.length s) : r.Perm s := by
  have hsub : s ⊆ r := fun e he => mem_of_get?_eq_some (hget e he)
  have hnodup : List.Nodup s :=
    List.Pairwise.of_map _ (fun _ _ hne heq => hne (congrArg Prod.fst heq)) hs
  exact ((hnodup.subperm hsub).perm_of_length_le hlength).symm

end Record

namespace KeyInput

/-- A mapping has each of its names once. -/
def IsProper : KeyInput → Prop
  | .mapping entries => entries.names.Nodup
  | _ => True

/-- What a caller gave, for a message: the values, or the names of a mapping. -/
def given : KeyInput → List String
  | .scalar value => [value.text]
  | .pair first second => [first.text, second.text]
  | .mapping entries => entries.names

end KeyInput

namespace KeyShape

/-- What a caller may write for a key of a shape: the value or the pair of values, or the entries in
any order. No part of the key is `null`. -/
inductive Spells : KeyShape → KeyInput → Key → Prop
  | scalar {hash : String} {value : Json} (hvalue : value ≠ .null) :
    Spells (.simple hash) (.scalar value) ⟨⟨hash, value⟩, none⟩
  | pair {hash sort : String} {first second : Json} (hfirst : first ≠ .null)
    (hsecond : second ≠ .null) :
    Spells (.composite hash sort) (.pair first second) ⟨⟨hash, first⟩, some ⟨sort, second⟩⟩
  | mapping {shape : KeyShape} {entries : Record Json} {key : Key}
    (hnames : key.parts.map (·.name) = shape.names) (hvalues : ∀ part ∈ key.parts, part.value ≠ .null)
    (hentries : entries.Perm (key.parts.map fun p => (p.name, p.value))) :
    Spells shape (.mapping entries) key

/-- The key attributes to which an input gives no value, in the order of the shape. -/
def lackedBy (shape : KeyShape) : KeyInput → List String
  | .scalar _ => shape.sort?.toList
  | .pair _ _ => []
  | .mapping entries => shape.names.filter fun name => entries.all fun e => e.1 != name || e.2.isNull

variable {shape : KeyShape} {key : Key} {entries : Record Json}

theorem missingIn_eq_lackedBy (hentries : entries.names.Nodup) :
    shape.missingIn entries = shape.lackedBy (.mapping entries) := by
  refine List.filter_congr fun name _ => ?_
  rw [Record.all_under hentries Json.isNull]
  cases entries.get? name <;> rfl

/-- The parts of a mapping's key are what it has under the key attributes, if these differ. -/
theorem parts_keyOfMapping (hshape : shape.names.Nodup) (entries : Record Json) :
    (shape.keyOfMapping entries).parts = shape.names.map (partOf entries) := by
  cases shape with
  | simple hash => rfl
  | composite hash sort =>
    have hne : hash ≠ sort := by simpa [names] using hshape
    simp [keyOfMapping, Key.parts, names, partOf, KeyShape.hash, sort?, Record.get?_erase_of_ne hne]

theorem spells_keyOfMapping (hshape : shape.names.Nodup) (hmissing : shape.missingIn entries = [])
    (hlength : List.length entries ≤ shape.names.length) :
    shape.Spells (.mapping entries) (shape.keyOfMapping entries) := by
  have hnames := names_keyOfMapping shape entries
  have hvalues := value_ne_null_of_normalize hshape
    (normalize_mapping_eq_ok_iff.2 ⟨hmissing, hlength, rfl⟩)
  refine .mapping hnames hvalues (Record.perm_of_get? ?_ (fun e he => ?_) ?_)
  · rwa [Key.names_map _ fun value => value, hnames]
  · obtain ⟨part, hpart, rfl⟩ := List.mem_map.1 he
    have hvalue := hvalues part hpart
    rw [parts_keyOfMapping hshape] at hpart
    obtain ⟨name, -, rfl⟩ := List.mem_map.1 hpart
    -- only an entry that is there has a value other than `null`
    cases hget : entries.get? name with
    | none => simp [partOf, hget] at hvalue
    | some value => simp [partOf, hget]
  · rwa [List.length_map, ← List.length_map (f := KeyPart.name), hnames]

/-- A shape understands the spellings of its keys, and nothing else. -/
theorem normalize_eq_ok_iff (hshape : shape.names.Nodup) {input : KeyInput} :
    shape.normalize input = .ok key ↔ shape.Spells input key := by
  constructor
  · intro h
    cases input with
    | mapping entries =>
      obtain ⟨hmissing, hlength, rfl⟩ := normalize_mapping_eq_ok_iff.1 h
      exact spells_keyOfMapping hshape hmissing hlength
    | scalar value =>
      have hvalues := value_ne_null_of_normalize hshape h
      cases shape with
      | composite => cases h
      | simple hash =>
        rw [normalize] at h
        split at h
        · cases h
        · cases h
          exact .scalar (hvalues _ (.head _))
    | pair first second =>
      have hvalues := value_ne_null_of_normalize hshape h
      cases shape with
      | simple => cases h
      | composite hash sort =>
        rw [normalize] at h
        split at h
        · cases h
        · cases h
          exact .pair (hvalues _ (.head _)) (hvalues _ (.tail _ (.head _)))
  · have hnull : ∀ {value : Json}, value ≠ .null → value.isNull = false := by
      intro value hvalue
      cases value with
      | null => exact absurd rfl hvalue
      | _ => rfl
    intro h
    cases h with
    | scalar hvalue => simp [normalize, hnull hvalue]
    | pair hfirst hsecond => simp [normalize, hnull hfirst, hnull hsecond]
    | mapping hnames hvalues hentries => exact normalize_of_perm hshape hnames hvalues hentries

/-- What lacks key attributes is refused for just these. -/
theorem normalize_of_lackedBy {input : KeyInput} (hinput : input.IsProper)
    (hlacked : shape.lackedBy input ≠ []) :
    shape.normalize input = .error (.missing (shape.lackedBy input)) := by
  cases input with
  | scalar value =>
    cases shape with
    | simple => exact absurd rfl hlacked
    | composite => rfl
  | pair => exact absurd rfl hlacked
  | mapping entries =>
    rw [← missingIn_eq_lackedBy hinput] at hlacked ⊢
    rw [normalize_mapping, if_pos]
    simpa using hlacked

/-- What lacks no key attribute makes a key, or is refused as it was given. -/
theorem normalize_of_not_lackedBy {input : KeyInput} (hinput : input.IsProper)
    (hlacked : shape.lackedBy input = []) :
    (∃ key, shape.normalize input = .ok key) ∨ shape.normalize input = .error (.wrong input.given) := by
  cases input with
  | scalar value =>
    cases shape with
    | composite => cases hlacked
    | simple =>
      rw [normalize]
      split
      · exact .inr rfl
      · exact .inl ⟨_, rfl⟩
  | pair first second =>
    cases shape with
    | simple => exact .inr rfl
    | composite =>
      rw [normalize]
      split
      · exact .inr rfl
      · exact .inl ⟨_, rfl⟩
  | mapping entries =>
    rw [← missingIn_eq_lackedBy hinput] at hlacked
    rw [normalize_mapping, hlacked]
    split
    · next hfalse => cases hfalse
    · split
      · exact .inr rfl
      · exact .inl ⟨_, rfl⟩

end KeyShape

namespace Table

variable {shape : KeyShape} {input : KeyInput}

/-- A table understands a key's spellings and nothing else. The key has the shape's names in order
and the caller's values, and its own entries, in any order, are a spelling of it. Where key
attributes have no value, these are what is missing; everything else that is no key is wrong. -/
theorem keyOf_spelled (table : Table) (hshape : shape.names.Nodup) (hinput : input.IsProper) :
    (∀ key, table.keyOf shape input = .ok key ↔ shape.Spells input key) ∧
      (∀ key, table.keyOf shape input = .ok key →
        key.parts.map (·.name) = shape.names ∧
          ∀ entries : Record Json, entries.Perm key.members →
            table.keyOf shape (.mapping entries) = .ok key) ∧
      (shape.lackedBy input ≠ [] →
        table.keyOf shape input =
          .error (.missingKey table.name shape.names (shape.lackedBy input))) ∧
      (shape.lackedBy input = [] → ∀ e, table.keyOf shape input = .error e →
        e = .wrongKey table.name shape.names input.given) := by
  refine ⟨fun key => keyOf_eq_ok_iff.trans (KeyShape.normalize_eq_ok_iff hshape), ?_, ?_, ?_⟩
  · intro key h
    have hnormal := keyOf_eq_ok_iff.1 h
    have hnames := KeyShape.names_of_normalize hnormal
    refine ⟨hnames, fun entries hentries => keyOf_eq_ok_iff.2 ?_⟩
    have hvalues := KeyShape.value_ne_null_of_normalize hshape hnormal
    rw [Key.members_eq_map (by rwa [hnames])] at hentries
    exact KeyShape.normalize_of_perm hshape hnames hvalues hentries
  · intro hlacked
    rw [keyOf, KeyShape.normalize_of_lackedBy hinput hlacked]
  · intro hlacked e h
    rcases KeyShape.normalize_of_not_lackedBy hinput hlacked with ⟨key, hkey⟩ | hwrong
    · rw [keyOf, hkey] at h
      cases h
    · rw [keyOf, hwrong] at h
      cases h
      rfl

/-- A table of the visits of users. -/
def visitTable : Table := ⟨"T", "P-T", .composite "user" "visit", .free ["user", "visit"]⟩

/-- A visit by its entries, the sort attribute's first. -/
def visit : KeyInput := .mapping [("visit", .bool true), ("user", .string "a")]

theorem keyOf_spelled_visit :
    (visitTable.shape.names.Nodup ∧ visit.IsProper) ∧
    (∀ key, visitTable.keyOf visitTable.shape visit = .ok key ↔ visitTable.shape.Spells visit key) ∧
      (∀ key, visitTable.keyOf visitTable.shape visit = .ok key →
        key.parts.map (·.name) = visitTable.shape.names ∧
          ∀ entries : Record Json, entries.Perm key.members →
            visitTable.keyOf visitTable.shape (.mapping entries) = .ok key) ∧
      (visitTable.shape.lackedBy visit ≠ [] →
        visitTable.keyOf visitTable.shape visit =
          .error (.missingKey visitTable.name visitTable.shape.names
            (visitTable.shape.lackedBy visit))) ∧
      (visitTable.shape.lackedBy visit = [] → ∀ e,
        visitTable.keyOf visitTable.shape visit = .error e →
          e = .wrongKey visitTable.name visitTable.shape.names visit.given) := by
  have hshape : visitTable.shape.names.Nodup := by decide
  have hinput : visit.IsProper := show ["visit", "user"].Nodup by decide
  exact ⟨⟨hshape, hinput⟩, visitTable.keyOf_spelled hshape hinput⟩

end Table

end ItemTable
