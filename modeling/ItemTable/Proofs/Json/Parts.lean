import ItemTable.Path
import ItemTable.Proofs.Record
import ItemTable.Proofs.Traversal

set_option autoImplicit false

/-! # The parts of a document

A document is a scalar, an array of elements or an object of members, and so is each of its parts.
`Json.partsAt` lists the parts of a value, the value among them, each with the path that leads to
it. -/

namespace ItemTable

namespace Json

/-- Induction over the parts of a document. -/
@[elab_as_elim]
theorem parts_induction {P : Json → Prop}
    (scalar : ∀ value, value.isArray = false → value.isObject = false → P value)
    (array : ∀ elements, (∀ x ∈ elements, P x) → P (.array elements))
    (object : ∀ members, (∀ m ∈ members, P m.2) → P (.object members)) : ∀ value, P value
  | .null => scalar _ rfl rfl
  | .bool _ => scalar _ rfl rfl
  | .number _ => scalar _ rfl rfl
  | .string _ => scalar _ rfl rfl
  | .array elements => array elements fun x _ => parts_induction scalar array object x
  | .object members => object members fun m _ => parts_induction scalar array object m.2
termination_by value => sizeOf value
decreasing_by
  · have hlt := List.sizeOf_lt_of_mem ‹x ∈ elements›
    simp only [Json.array.sizeOf_spec]
    omega
  · have hlt := List.sizeOf_lt_of_mem ‹m ∈ members›
    obtain ⟨name, value⟩ := m
    simp only [Json.object.sizeOf_spec, Prod.mk.sizeOf_spec] at hlt ⊢
    omega

/-- Induction over the parts one step down. -/
@[elab_as_elim]
theorem child_induction {P : Json → Prop}
    (step : ∀ value, (∀ step part, child? value step = some part → P part) → P value)
    (value : Json) : P value := by
  induction value using parts_induction with
  | scalar value harray hobject =>
    refine step value fun way part hpart => ?_
    cases value with
    | array => cases harray
    | object => cases hobject
    | _ => cases way <;> cases hpart
  | array elements ih =>
    refine step _ fun way part hpart => ?_
    cases way with
    | key => cases hpart
    | position i => exact ih part (List.mem_of_getElem? hpart)
  | object members ih =>
    refine step _ fun way part hpart => ?_
    cases way with
    | position => cases hpart
    | key name => exact ih _ (Record.mem_of_get?_eq_some hpart)

mutual
/-- The parts of the value at a path, the value first, each with its own path. -/
def partsAt (path : Path) : Json → List (Path × Json)
  | .array elements => (path, .array elements) :: partsOfElements path 0 elements
  | .object members => (path, .object members) :: partsOfMembers path members
  | value => [(path, value)]

/-- The parts of elements from a position on. -/
def partsOfElements (path : Path) : Nat → List Json → List (Path × Json)
  | _, [] => []
  | i, x :: xs => partsAt (path ++ [.position i]) x ++ partsOfElements path (i + 1) xs

/-- The parts of the values of members. -/
def partsOfMembers (path : Path) : List (String × Json) → List (Path × Json)
  | [] => []
  | (name, x) :: xs => partsAt (path ++ [.key name]) x ++ partsOfMembers path xs
end

theorem partsAt_scalar {path : Path} {value : Json} (harray : value.isArray = false)
    (hobject : value.isObject = false) : value.partsAt path = [(path, value)] := by
  cases value with
  | array => cases harray
  | object => cases hobject
  | _ => rfl

theorem mem_partsOfElements {path : Path} {elements : List Json} {start : Nat}
    {part : Path × Json} : part ∈ partsOfElements path start elements ↔
      ∃ (i : Nat) (x : Json), elements[i]? = some x ∧
        part ∈ x.partsAt (path ++ [.position (start + i)]) :=
  Traversal.mem_numbered (partsOfElements path) (fun i x => partsAt (path ++ [.position i]) x)
    (fun _ => rfl) fun _ _ _ => rfl

theorem mem_partsOfMembers {path : Path} {members : List (String × Json)} {part : Path × Json} :
    part ∈ partsOfMembers path members ↔
      ∃ m ∈ members, part ∈ m.2.partsAt (path ++ [.key m.1]) := by
  induction members with
  | nil => simp [partsOfMembers]
  | cons first rest ih =>
    obtain ⟨name, value⟩ := first
    rw [partsOfMembers, List.mem_append, ih]
    simp

/-- The parts of an array are the array and those of its elements. -/
theorem mem_partsAt_array {path : Path} {elements : List Json} {part : Path × Json} :
    part ∈ (Json.array elements).partsAt path ↔ part = (path, .array elements) ∨
      ∃ (i : Nat) (x : Json), elements[i]? = some x ∧ part ∈ x.partsAt (path ++ [.position i]) := by
  rw [partsAt, List.mem_cons, mem_partsOfElements]
  simp only [Nat.zero_add]

/-- The parts of an object are the object and those of its members' values. -/
theorem mem_partsAt_object {path : Path} {members : List (String × Json)} {part : Path × Json} :
    part ∈ (Json.object members).partsAt path ↔ part = (path, .object members) ∨
      ∃ m ∈ members, part ∈ m.2.partsAt (path ++ [.key m.1]) := by
  rw [partsAt, List.mem_cons, mem_partsOfMembers]

theorem mem_partsAt_self (path : Path) (value : Json) : (path, value) ∈ value.partsAt path := by
  cases value with
  | array => exact mem_partsAt_array.2 (.inl rfl)
  | object => exact mem_partsAt_object.2 (.inl rfl)
  | _ => exact List.mem_singleton.2 rfl

/-- The parts of a part are parts. -/
theorem mem_partsAt_trans {value : Json} {path : Path} {part inner : Path × Json}
    (hpart : part ∈ value.partsAt path) (hinner : inner ∈ part.2.partsAt part.1) :
    inner ∈ value.partsAt path := by
  induction value using parts_induction generalizing path with
  | scalar value harray hobject =>
    rw [partsAt_scalar harray hobject, List.mem_singleton] at hpart
    subst hpart
    exact hinner
  | array elements ih =>
    rcases mem_partsAt_array.1 hpart with rfl | ⟨i, x, hx, hpart⟩
    · exact hinner
    · exact mem_partsAt_array.2 (.inr ⟨i, x, hx, ih x (List.mem_of_getElem? hx) hpart⟩)
  | object members ih =>
    rcases mem_partsAt_object.1 hpart with rfl | ⟨m, hm, hpart⟩
    · exact hinner
    · exact mem_partsAt_object.2 (.inr ⟨m, hm, ih m hm hpart⟩)

/-- A document is a part of another one, or that one itself. -/
def IsPart (part whole : Json) : Prop := ∃ path, (path, part) ∈ whole.partsAt []

theorem isPart_self (value : Json) : IsPart value value := ⟨[], mem_partsAt_self [] value⟩

theorem IsPart.element {whole : Json} {elements : List Json} (h : IsPart (.array elements) whole)
    {x : Json} (hx : x ∈ elements) : IsPart x whole := by
  obtain ⟨path, hpath⟩ := h
  obtain ⟨i, hi⟩ := List.mem_iff_getElem?.1 hx
  exact ⟨_, mem_partsAt_trans hpath
    (mem_partsAt_array.2 (.inr ⟨i, x, hi, mem_partsAt_self _ x⟩))⟩

theorem IsPart.member {whole : Json} {members : List (String × Json)}
    (h : IsPart (.object members) whole) {m : String × Json} (hm : m ∈ members) :
    IsPart m.2 whole := by
  obtain ⟨path, hpath⟩ := h
  exact ⟨_, mem_partsAt_trans hpath
    (mem_partsAt_object.2 (.inr ⟨m, hm, mem_partsAt_self _ m.2⟩))⟩

/-! ## What parts inherit -/

/-- A property that values hand down to their elements and to their members, but not to those under
excluded names. -/
structure Inherited (excluded : List String) (P : Json → Prop) : Prop where
  member : ∀ {members : Record Json} {name : String} {x : Json}, P (.object members) →
    (name, x) ∈ members → name ∉ excluded → P x
  element : ∀ {elements : List Json} {x : Json}, P (.array elements) → x ∈ elements → P x

theorem inherited_isPart (root : Json) : Inherited [] (IsPart · root) :=
  ⟨fun h hmem _ => h.member hmem, fun h hmem => h.element hmem⟩

/-- What is handed down under all names holds of all parts. -/
theorem Inherited.part {P : Json → Prop} (h : Inherited [] P) {part whole : Json}
    (hpart : IsPart part whole) (hwhole : P whole) : P part := by
  obtain ⟨path, hpath⟩ := hpart
  generalize ([] : Path) = start at hpath
  induction whole using parts_induction generalizing start with
  | scalar value harray hobject =>
    rw [partsAt_scalar harray hobject, List.mem_singleton] at hpath
    cases hpath
    exact hwhole
  | array elements ih =>
    rcases mem_partsAt_array.1 hpath with heq | ⟨i, x, hx, hpart⟩
    · cases heq
      exact hwhole
    · have hmem := List.mem_of_getElem? hx
      exact ih x hmem (h.element hwhole hmem) _ hpart
  | object members ih =>
    rcases mem_partsAt_object.1 hpath with heq | ⟨m, hm, hpart⟩
    · cases heq
      exact hwhole
    · exact ih m hm (h.member hwhole hm List.not_mem_nil) _ hpart

end Json

end ItemTable
