import ItemTable.Proofs.Record
import ItemTable.Table

set_option autoImplicit false

/-! # Keys and the items that hold them

A key that a table makes of a caller's input has the names of the table's key shape, and an item has
that key if it holds the key's stored values under those names. -/

namespace ItemTable

namespace KeyShape

/-- The shape of some names has just these names. -/
theorem ofNames?_eq_some_iff {names : List String} {shape : KeyShape} :
    ofNames? names = some shape ↔ shape.names = names := by
  unfold ofNames?
  split
  · cases shape <;> simp [KeyShape.names, eq_comm]
  · cases shape <;> simp [KeyShape.names, eq_comm]
  · next hsimple hcomposite =>
    refine ⟨nofun, fun h => ?_⟩
    cases shape with
    | simple hash => exact absurd h.symm (hsimple hash)
    | composite hash sort => exact absurd h.symm (hcomposite hash sort)

/-- One name or two make a shape. -/
theorem exists_names_eq_iff {names : List String} :
    (∃ shape : KeyShape, shape.names = names) ↔ names.length = 1 ∨ names.length = 2 := by
  constructor
  · rintro ⟨shape, rfl⟩
    cases shape with
    | simple => exact .inl rfl
    | composite => exact .inr rfl
  · intro h
    match names, h with
    | [hash], _ => exact ⟨.simple hash, rfl⟩
    | [hash, sort], _ => exact ⟨.composite hash sort, rfl⟩

theorem names_keyOfMapping (shape : KeyShape) (entries : Record Json) :
    (shape.keyOfMapping entries).parts.map (·.name) = shape.names := by
  cases shape <;> rfl

/-- Keys have the names of their shape, in order. -/
theorem names_of_normalize {shape : KeyShape} {input : KeyInput} {key : Key}
    (h : shape.normalize input = .ok key) : key.parts.map (·.name) = shape.names := by
  unfold normalize at h
  split at h
  · split at h
    · cases h
    · cases h
      rfl
  · split at h
    · cases h
    · cases h
      rfl
  · cases h
  · cases h
  · dsimp only at h
    split at h
    · cases h
    · split at h
      · cases h
      · cases h
        exact names_keyOfMapping shape _

end KeyShape

/-- A table takes a caller's key as the shape does. -/
theorem Table.normalize_of_keyOf {table : Table} {shape : KeyShape} {input : KeyInput} {key : Key}
    (h : table.keyOf shape input = .ok key) : shape.normalize input = .ok key := by
  unfold keyOf at h
  split at h
  · next hkey =>
    cases h
    exact hkey
  · cases h
  · cases h

theorem Table.keyOf_eq_ok_iff {table : Table} {shape : KeyShape} {input : KeyInput} {key : Key} :
    table.keyOf shape input = .ok key ↔ shape.normalize input = .ok key := by
  refine ⟨normalize_of_keyOf, fun h => ?_⟩
  rw [keyOf, h]

theorem Table.names_of_key {table : Table} {input : KeyInput} {key : Key}
    (h : table.key input = .ok key) : key.parts.map (·.name) = table.shape.names :=
  KeyShape.names_of_normalize (normalize_of_keyOf h)

/-- A key in an item has the names of its parts. -/
theorem Key.names_members {key : Key} {name : String} (h : name ∈ key.members.names) :
    name ∈ key.parts.map (·.name) := by
  unfold Key.members Record.ofEntries at h
  rcases Record.mem_names_merge.1 h with h | h
  · cases h
  · simpa [Record.names] using h

theorem Key.names_map {α : Type} (key : Key) (f : Json → α) :
    Record.names (key.parts.map fun p => (p.name, f p.value)) = key.parts.map (·.name) := by
  rw [Record.names, List.map_map]
  rfl

/-- A key whose names differ is stored part by part. -/
theorem Key.item_eq_map {key : Key} (hnames : (key.parts.map (·.name)).Nodup) :
    key.item = key.parts.map fun p => (p.name, StoreValue.ofJson p.value) :=
  Record.ofEntries_of_nodup (by rwa [names_map])

theorem Key.members_eq_map {key : Key} (hnames : (key.parts.map (·.name)).Nodup) :
    key.members = key.parts.map fun p => (p.name, p.value) :=
  Record.ofEntries_of_nodup (by rwa [names_map key fun value => value])

theorem Key.get?_members {key : Key} (hnames : (key.parts.map (·.name)).Nodup) {part : KeyPart}
    (hpart : part ∈ key.parts) : key.members.get? part.name = some part.value := by
  rw [members_eq_map hnames]
  refine Record.get?_eq_some_of_mem ?_ (List.mem_map_of_mem hpart)
  rwa [names_map key fun value => value]

theorem Key.get?_item {key : Key} (hnames : (key.parts.map (·.name)).Nodup) {part : KeyPart}
    (hpart : part ∈ key.parts) : key.item.get? part.name = some (.ofJson part.value) := by
  rw [item_eq_map hnames]
  refine Record.get?_eq_some_of_mem ?_ (List.mem_map_of_mem hpart)
  rwa [names_map]

/-! ## Keys as mappings -/

namespace KeyShape

variable {shape : KeyShape} {key : Key}

theorem normalize_mapping (shape : KeyShape) (entries : Record Json) :
    shape.normalize (.mapping entries) =
      if !(shape.missingIn entries).isEmpty then .error (.missing (shape.missingIn entries))
      else if shape.names.length < entries.length then .error (.wrong entries.names)
      else .ok (shape.keyOfMapping entries) := by
  cases shape <;> rfl

/-- A mapping makes a key if it gives every key attribute a value and nothing else. -/
theorem normalize_mapping_eq_ok_iff {entries : Record Json} :
    shape.normalize (.mapping entries) = .ok key ↔
      shape.missingIn entries = [] ∧ entries.length ≤ shape.names.length ∧
        key = shape.keyOfMapping entries := by
  rw [normalize_mapping]
  by_cases hmissing : shape.missingIn entries = []
  · by_cases hlength : shape.names.length < entries.length
    · simp [hmissing, hlength, Nat.not_le.2 hlength]
    · simp [hmissing, hlength, Nat.not_lt.1 hlength, eq_comm]
  · simp [hmissing]

/-- A key has a value under each of its names, if these differ. -/
theorem value_ne_null_of_normalize (hnames : shape.names.Nodup) {input : KeyInput}
    (h : shape.normalize input = .ok key) : ∀ part ∈ key.parts, part.value ≠ .null := by
  have hnull : ∀ {value : Json}, ¬ value.isNull = true → value ≠ .null := by
    rintro _ hvalue rfl
    exact hvalue rfl
  cases input with
  | mapping entries =>
    obtain ⟨hmissing, -, rfl⟩ := normalize_mapping_eq_ok_iff.1 h
    have hvalue : ∀ name ∈ shape.names, (entries.get? name).getD .null ≠ .null := fun name hname =>
      hnull (List.filter_eq_nil_iff.1 hmissing name hname)
    cases shape with
    | simple hash =>
      simpa [keyOfMapping, Key.parts, names, partOf, KeyShape.hash, sort?] using hvalue
    | composite hash sort =>
      have hne : hash ≠ sort := by simpa [names] using hnames
      simpa [keyOfMapping, Key.parts, names, partOf, KeyShape.hash, sort?,
        Record.get?_erase_of_ne hne] using hvalue
  | scalar value =>
    cases shape with
    | composite => cases h
    | simple hash =>
      simp only [normalize] at h
      split at h
      · cases h
      · next hvalue =>
        cases h
        simpa [Key.parts] using hnull hvalue
  | pair first second =>
    cases shape with
    | simple => cases h
    | composite hash sort =>
      simp only [normalize] at h
      split at h
      · cases h
      · next hvalue =>
        cases h
        rw [Bool.or_eq_true, not_or] at hvalue
        simpa [Key.parts] using ⟨hnull hvalue.1, hnull hvalue.2⟩

/-- The entries of a key, in any order, make the key, if its names differ. -/
theorem normalize_of_perm (hshape : shape.names.Nodup) (hparts : key.parts.map (·.name) = shape.names)
    (hvalues : ∀ part ∈ key.parts, part.value ≠ .null) {entries : Record Json}
    (hentries : entries.Perm (key.parts.map fun p => (p.name, p.value))) :
    shape.normalize (.mapping entries) = .ok key := by
  have hnodup : (key.parts.map (·.name)).Nodup := by rwa [hparts]
  rw [← Key.members_eq_map hnodup] at hentries
  have hnames : entries.names.Nodup := by
    rw [(Record.perm_names hentries).nodup_iff, Key.members_eq_map hnodup]
    rwa [Key.names_map key fun value => value]
  have hget : ∀ part ∈ key.parts, entries.get? part.name = some part.value := fun part hpart =>
    (Record.get?_of_perm hnames hentries part.name).trans (Key.get?_members hnodup hpart)
  refine normalize_mapping_eq_ok_iff.2 ⟨?_, ?_, ?_⟩
  · refine List.filter_eq_nil_iff.2 fun name hname => ?_
    rw [← hparts] at hname
    obtain ⟨part, hpart, rfl⟩ := List.mem_map.1 hname
    rw [hget part hpart]
    have hvalue := hvalues part hpart
    rw [Option.getD_some]
    cases hpart : part.value with
    | null => exact absurd hpart hvalue
    | _ => simp [Json.isNull]
  · have hlength : List.length entries = shape.names.length := by
      rw [hentries.length_eq, Key.members_eq_map hnodup, List.length_map, ← hparts, List.length_map]
    exact Nat.le_of_eq hlength
  · obtain ⟨first, second⟩ := key
    cases shape with
    | simple hash =>
      obtain ⟨rfl, rfl⟩ : first.name = hash ∧ second = none := by
        simpa [Key.parts, names] using hparts
      simp [keyOfMapping, partOf, KeyShape.hash, sort?, hget first (.head _)]
    | composite hash sort =>
      obtain _ | second := second
      · simp [Key.parts, names] at hparts
      · obtain ⟨rfl, rfl⟩ : first.name = hash ∧ second.name = sort := by
          simpa [Key.parts, names] using hparts
        have hne : first.name ≠ second.name := by simpa [names] using hshape
        simp [keyOfMapping, partOf, KeyShape.hash, sort?, hget first (by simp [Key.parts]),
          Record.get?_erase_of_ne hne, hget second (by simp [Key.parts])]

/-- A key that is given as a mapping is the same key, if its names differ. -/
theorem normalize_members (hnames : shape.names.Nodup) {input : KeyInput}
    (h : shape.normalize input = .ok key) : shape.normalize (.mapping key.members) = .ok key := by
  have hparts := names_of_normalize h
  have hnodup : (key.parts.map (·.name)).Nodup := by rwa [hparts]
  refine normalize_of_perm hnames hparts (value_ne_null_of_normalize hnames h) ?_
  rw [Key.members_eq_map hnodup]

end KeyShape

/-- An item has a key if it holds the key's stored values. -/
theorem KeyShape.project_eq_item_iff {shape : KeyShape} {key : Key}
    (hnames : key.parts.map (·.name) = shape.names) (item : Item) :
    shape.project item = key.item ↔ ∀ entry ∈ key.item, item.get? entry.1 = some entry.2 := by
  obtain ⟨⟨hash, value⟩, sort⟩ := key
  cases shape with
  | simple name =>
    cases sort with
    | some part => simp [Key.parts, names] at hnames
    | none =>
      obtain rfl : hash = name := by simpa [Key.parts, names] using hnames
      cases hget : item.get? hash <;>
        simp [project, names, Key.item, Key.parts, Record.ofEntries, Record.merge, Record.insert,
          hget]
  | composite first second =>
    cases sort with
    | none => simp [Key.parts, names] at hnames
    | some part =>
      obtain ⟨sort, value'⟩ := part
      obtain ⟨rfl, rfl⟩ : hash = first ∧ sort = second := by simpa [Key.parts, names] using hnames
      by_cases heq : hash = sort
      · subst heq
        cases hget : item.get? hash <;>
          simp [project, names, Key.item, Key.parts, Record.ofEntries, Record.merge, Record.insert,
            hget]
      · cases hget : item.get? hash <;> cases hget' : item.get? sort <;>
          simp [project, names, Key.item, Key.parts, Record.ofEntries, Record.merge, Record.insert,
            hget, hget', heq]

end ItemTable
