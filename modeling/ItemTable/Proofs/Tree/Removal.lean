import ItemTable.Proofs.Json.Parts
import ItemTable.Proofs.Tree.Leaves

set_option autoImplicit false

/-! # Taking paths away

`Json.without` is what is left of a document when the values at some paths are taken away at once:
members go with their names, and the elements of an array move up. What is left at a place was there
before, with the paths below it taken away (`Json.get?_membersWithout`,
`Json.exists_of_getElem?_elementsWithout`). -/

namespace ItemTable

/-- What is left of the paths that start with a step. -/
def Path.below (step : Step) (paths : List Path) : List Path :=
  paths.filterMap fun path =>
    match path with
    | [] => none
    | first :: rest => if first = step then some rest else none

theorem Path.mem_below {step : Step} {paths : List Path} {path : Path} :
    path ∈ below step paths ↔ step :: path ∈ paths := by
  unfold below
  rw [List.mem_filterMap]
  constructor
  · rintro ⟨whole, hwhole, heq⟩
    split at heq
    · cases heq
    · split at heq
      · next hfirst =>
        cases heq
        rwa [← hfirst]
      · cases heq
  · intro h
    exact ⟨step :: path, h, if_pos rfl⟩

namespace Json

mutual
/-- What is left of a document without the values at these paths. -/
def without (paths : List Path) : Json → Json
  | .array elements => .array (elementsWithout paths 0 elements)
  | .object members => .object (membersWithout paths members)
  | value => value

/-- What is left of the elements from a position on. -/
def elementsWithout (paths : List Path) : Nat → List Json → List Json
  | _, [] => []
  | i, x :: rest =>
    if [.position i] ∈ paths then elementsWithout paths (i + 1) rest
    else without (Path.below (.position i) paths) x :: elementsWithout paths (i + 1) rest

/-- What is left of members. -/
def membersWithout (paths : List Path) : List (String × Json) → List (String × Json)
  | [] => []
  | (name, x) :: rest =>
    if [.key name] ∈ paths then membersWithout paths rest
    else (name, without (Path.below (.key name) paths) x) :: membersWithout paths rest
end

section

variable {paths : List Path} {value : Json} {members : Record Json} {name : String}

/-- A member is left if it is not taken away, without what is taken away below it. -/
theorem get?_membersWithout (paths : List Path) (members : Record Json) (name : String) :
    Record.get? (membersWithout paths members) name =
      if [.key name] ∈ paths then none
      else (members.get? name).map (without (Path.below (.key name) paths)) := by
  induction members with
  | nil => simp [membersWithout, Record.get?]
  | cons m rest ih =>
    obtain ⟨n, x⟩ := m
    rw [membersWithout]
    by_cases hn : n = name
    · subst hn
      by_cases htaken : [Step.key n] ∈ paths
      · rw [if_pos htaken, ih, if_pos htaken, if_pos htaken]
      · simp [htaken, Record.get?]
    · by_cases htaken : [Step.key n] ∈ paths
      · rw [if_pos htaken, ih, Record.get?, if_neg hn]
      · rw [if_neg htaken, Record.get?, if_neg hn, ih, Record.get?, if_neg hn]

theorem exists_of_get?_membersWithout {part : Json}
    (h : Record.get? (membersWithout paths members) name = some part) :
    ∃ before, members.get? name = some before ∧
      part = before.without (Path.below (.key name) paths) := by
  rw [get?_membersWithout] at h
  split at h
  · cases h
  · obtain ⟨before, hbefore, rfl⟩ := Option.map_eq_some_iff.1 h
    exact ⟨before, hbefore, rfl⟩

/-- An element that is left was an element, maybe at another position. -/
theorem exists_of_getElem?_elementsWithout {elements : List Json} {start i : Nat} {x : Json}
    (h : (elementsWithout paths start elements)[i]? = some x) :
    ∃ j old, elements[j]? = some old ∧ [.position (start + j)] ∉ paths ∧
      x = old.without (Path.below (.position (start + j)) paths) := by
  induction elements generalizing start i with
  | nil => simp [elementsWithout] at h
  | cons first rest ih =>
    -- the rest is counted from the next position
    have hrest : ∀ {i : Nat}, (elementsWithout paths (start + 1) rest)[i]? = some x →
        ∃ j old, (first :: rest)[j]? = some old ∧ [.position (start + j)] ∉ paths ∧
          x = old.without (Path.below (.position (start + j)) paths) := by
      intro i hi
      obtain ⟨j, old, hold, hkept, hx⟩ := ih hi
      rw [Nat.add_right_comm, Nat.add_assoc] at hkept hx
      exact ⟨j + 1, old, hold, hkept, hx⟩
    rw [elementsWithout] at h
    split at h
    · exact hrest h
    · next hkept =>
      cases i with
      | zero =>
        cases h
        exact ⟨0, first, rfl, hkept, rfl⟩
      | succ i => exact hrest h

/-- What is left of an object has names that were there. -/
theorem names_membersWithout_sublist (paths : List Path) (members : Record Json) :
    (Record.names (membersWithout paths members)).Sublist members.names := by
  induction members with
  | nil => exact List.Sublist.refl _
  | cons m rest ih =>
    obtain ⟨n, x⟩ := m
    rw [membersWithout]
    split
    · exact ih.cons n
    · exact ih.cons_cons n

/-- What is left of a proper document is proper. -/
theorem isProper_without (hvalue : value.isProper = true) :
    (value.without paths).isProper = true := by
  induction value using parts_induction generalizing paths with
  | scalar value harray hobject =>
    cases value with
    | array => cases harray
    | object => cases hobject
    | _ => rfl
  | array elements ih =>
    refine isProper_array_of_forall fun x hx => ?_
    obtain ⟨i, hi⟩ := List.mem_iff_getElem?.1 hx
    obtain ⟨j, old, hold, -, rfl⟩ := exists_of_getElem?_elementsWithout hi
    have hmem := List.mem_of_getElem? hold
    exact ih old hmem (isProper_of_mem_array hvalue hmem)
  | object members ih =>
    have hnames := (isProper_object.1 hvalue).1
    have hleft := hnames.sublist (names_membersWithout_sublist paths members)
    refine isProper_object_of_forall hleft ?_
    rintro ⟨name, x⟩ hx
    obtain ⟨old, hold, rfl⟩ :=
      exists_of_get?_membersWithout (Record.get?_eq_some_of_mem hleft hx)
    have hmem := Record.mem_of_get?_eq_some hold
    exact ih _ hmem (isProper_of_mem_object hvalue hmem)

/-! ## Before something was taken away -/

theorem without_eq_object {left : Record Json} (h : value.without paths = .object left) :
    ∃ members, value = .object members ∧ left = membersWithout paths members := by
  cases value with
  | object members =>
    cases h
    exact ⟨members, rfl, rfl⟩
  | _ => cases h

theorem without_eq_array {left : List Json} (h : value.without paths = .array left) :
    ∃ elements, value = .array elements ∧ left = elementsWithout paths 0 elements := by
  cases value with
  | array elements =>
    cases h
    exact ⟨elements, rfl, rfl⟩
  | _ => cases h

end

end Json

end ItemTable
