import ItemTable.Path
import ItemTable.Proofs.StoreValue.ReadBack

set_option autoImplicit false

/-! # Parts of stored values

A stored value has parts where the document that it reads back as has them: at every path of names
there is a part in both or in neither (`StoreValue.isSome_walk?_iff`). -/

namespace ItemTable

namespace StoreValue

/-- The part of a stored value one step down. -/
def child? : StoreValue → Step → Option StoreValue
  | .map entries, .key name => Record.get? entries name
  | .list elements, .position index => elements[index]?
  | _, _ => none

/-- The part of a stored value at the end of a path of names and positions. -/
def locate? : StoreValue → Path → Option StoreValue
  | value, [] => some value
  | value, step :: rest => (value.child? step).bind fun part => part.locate? rest

/-- The paths at which a value has a part. -/
def presentAt (value : StoreValue) (paths : List Path) : List Path :=
  paths.filter fun path => (value.locate? path).isSome

/-- The paths at which a value has no part. -/
def absentAt (value : StoreValue) (paths : List Path) : List Path :=
  paths.filter fun path => (value.locate? path).isNone

theorem presentAt_eq_nil {value : StoreValue} {paths : List Path} :
    value.presentAt paths = [] ↔ ∀ path ∈ paths, (value.locate? path).isNone = true := by
  simp [presentAt]

theorem absentAt_eq_nil {value : StoreValue} {paths : List Path} :
    value.absentAt paths = [] ↔ ∀ path ∈ paths, (value.locate? path).isSome = true := by
  simp [absentAt, Option.isSome_iff_ne_none]

/-! ## Names -/

theorem names_of_settle {entries : Record (Except ConversionError Json)} {members : Record Json}
    (h : settle entries = .ok members) : members.names = (Record.sort entries).names := by
  have hsorted := Traversal.forall₂_of_mapM h
  clear h
  generalize Record.sort entries = sorted at hsorted
  induction hsorted with
  | nil => rfl
  | cons hentry _ ih =>
    obtain ⟨x, -, rfl⟩ := Traversal.map_eq_ok hentry
    exact congrArg (_ :: ·) ih

/-- A map's document has a member for each of the map's entries, and no other. -/
theorem get?_toEntries_of_settle {entries : List (String × StoreValue)} {members : Record Json}
    (h : settle (toEntries entries) = .ok members) (name : String) :
    (Record.get? entries name = none ∧ members.get? name = none) ∨
      ∃ part x, Record.get? entries name = some part ∧ members.get? name = some x ∧
        toJson part = .ok x := by
  have hentries : Record.get? (toEntries entries) name = (Record.get? entries name).map toJson := by
    rw [toEntries_eq_map]
    exact Record.get?_map (fun _ => toJson) entries name
  cases hget : Record.get? entries name with
  | none =>
    rw [hget, Option.map_none, ← Record.get?_sort, Record.get?_eq_none_iff,
      ← names_of_settle h, ← Record.get?_eq_none_iff] at hentries
    exact .inl ⟨rfl, hentries⟩
  | some part =>
    rw [hget, Option.map_some] at hentries
    obtain ⟨x, hx, hmember⟩ := get?_of_settle h hentries
    exact .inr ⟨part, x, rfl, hmember, hx⟩

/-- A value and its document have a member under a name both, or neither has one. -/
theorem child?_key {value : StoreValue} {json : Json} (h : toJson value = .ok json)
    (name : String) :
    (value.child? (.key name) = none ∧ json.child? (.key name) = none) ∨
      ∃ part x, value.child? (.key name) = some part ∧ json.child? (.key name) = some x ∧
        toJson part = .ok x := by
  cases value with
  | map entries =>
    obtain ⟨members, hmembers, rfl⟩ := Traversal.map_eq_ok h
    exact get?_toEntries_of_settle hmembers name
  | number numeral =>
    obtain ⟨n, -, rfl⟩ := Traversal.map_eq_ok h
    exact .inl ⟨rfl, rfl⟩
  | numberSet numerals =>
    obtain ⟨elements, -, rfl⟩ := Traversal.map_eq_ok h
    exact .inl ⟨rfl, rfl⟩
  | list parts =>
    obtain ⟨elements, -, rfl⟩ := Traversal.map_eq_ok h
    exact .inl ⟨rfl, rfl⟩
  | unknown => cases h
  | _ =>
    cases h
    exact .inl ⟨rfl, rfl⟩

/-- A path of names leads to a part of a value exactly if it leads to a part of its document. -/
theorem isSome_walk?_iff {value : StoreValue} {json : Json} (h : toJson value = .ok json)
    {path : Path} (hkeys : ∀ step ∈ path, step.isKey = true) :
    (json.walk? path).isSome = (value.locate? path).isSome := by
  induction path generalizing value json with
  | nil => rfl
  | cons step rest ih =>
    obtain ⟨hstep, hrest⟩ := List.forall_mem_cons.1 hkeys
    cases step with
    | position => cases hstep
    | key name =>
      rw [Json.walk?, locate?]
      rcases child?_key h name with ⟨hvalue, hjson⟩ | ⟨part, x, hvalue, hjson, hx⟩
      · rw [hvalue, hjson]
        rfl
      · rw [hvalue, hjson]
        exact ih hx hrest

end StoreValue

end ItemTable
