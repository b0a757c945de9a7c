import ItemTable.Proofs.Schema.Parts
import ItemTable.Proofs.Tree.Leaves

set_option autoImplicit false

/-! # One stored form for each attribute

What a path of a document leads to is stored in one form, whether it is written alone, within a map
or list around it, or with the whole item. The walk along a path and the walk down a value meet the
same nodes: a node that a path ends at stands for itself, so another look for what it stands for
changes nothing. An object is stored exactly if each of its members is, and an array as well, where
no set is declared (`Schema.storeValue_oneForm`). -/

namespace ItemTable

open Traversal (map_eq_ok exists_mapM_iff exists_map_eq_ok_iff forall₂_of_mapM)

namespace StoreType

/-- Whether the type is one of the sets. -/
def isSet : StoreType → Bool
  | .bytes => false
  | .stringSet | .numberSet | .bytesSet => true

end StoreType

namespace Schema

variable {schema : Schema}

/-- The store type that is declared for the values at a path. -/
def typeAt? (schema : Schema) (path : Path) : Option StoreType :=
  (declaredType? (schema.nodeAt? path)).bind StoreType.ofName?

/-- Whether a set is declared for the values at a path. -/
def setAt (schema : Schema) (path : Path) : Bool := (schema.typeAt? path).any StoreType.isSet

/-! ## One step down -/

theorem storeMembers_eq_mapM (node : Option Json) (members : List (String × Json)) :
    schema.storeMembers node members = members.mapM fun m =>
      (schema.storeAt (node.bind (memberNode? · m.1)) m.2).map fun part => (m.1, part) := by
  induction members with
  | nil => rfl
  | cons m rest ih =>
    obtain ⟨name, value⟩ := m
    rw [storeMembers, List.mapM_cons, ← ih]
    cases schema.storeAt (node.bind (memberNode? · name)) value <;> rfl

theorem storeElements_eq_mapM (node : Option Json) (elements : List Json) :
    schema.storeElements node elements = elements.mapM (schema.storeAt node) := by
  induction elements with
  | nil => rfl
  | cons x rest ih => rw [storeElements, List.mapM_cons, ← ih]; rfl

/-- The value one step below a path is stored at the node one step below the path's. -/
theorem storeValue_concat (path : Path) (step : Step) (value : Json) :
    schema.storeValue (path ++ [step]) value =
      schema.storeAt ((schema.nodeAt? path).bind (child? · step)) value := by
  rw [storeValue, nodeAt?_concat, storeAt_resolve]

theorem storeValue_object (path : Path) (members : List (String × Json)) :
    schema.storeValue path (.object members) =
      (members.mapM fun m =>
        (schema.storeValue (path ++ [.key m.1]) m.2).map fun part => (m.1, part)).map .map := by
  have hparts : (fun m : String × Json =>
      (schema.storeValue (path ++ [.key m.1]) m.2).map fun part => (m.1, part)) = fun m =>
      (schema.storeAt ((schema.nodeAt? path).bind (memberNode? · m.1)) m.2).map
        fun part => (m.1, part) := by
    funext m
    rw [storeValue_concat]
    rfl
  rw [storeValue, storeAt, nodeAt?_bind_resolve?, storeMembers_eq_mapM, hparts]

theorem storeValue_array {path : Path} (hset : schema.setAt path = false) (elements : List Json)
    (position : Nat) : schema.storeValue path (.array elements) =
      (elements.mapM (schema.storeValue (path ++ [.position position]))).map .list := by
  have hparts : schema.storeValue (path ++ [.position position]) =
      schema.storeAt ((schema.nodeAt? path).bind (·.member? "items")) := by
    funext x
    rw [storeValue_concat]
    rfl
  have hlist : schema.storeValue path (.array elements) =
      (schema.storeElements ((schema.nodeAt? path).bind (·.member? "items")) elements).map
        .list := by
    rw [storeValue, storeAt, nodeAt?_bind_resolve?]
    unfold setAt typeAt? at hset
    split
    case _ hdeclared => simp [hdeclared, StoreType.isSet] at hset
    case _ hdeclared => simp [hdeclared, StoreType.isSet] at hset
    case _ hdeclared => simp [hdeclared, StoreType.isSet] at hset
    case _ => rfl
  rw [hlist, storeElements_eq_mapM, hparts]

/-! ## Success by parts -/

/-- Whether a value at a path has a stored form. -/
def Stores (schema : Schema) (path : Path) (value : Json) : Prop :=
  ∃ stored, schema.storeValue path value = .ok stored

theorem stores_object_iff {path : Path} {members : List (String × Json)} :
    schema.Stores path (.object members) ↔
      ∀ m ∈ members, schema.Stores (path ++ [.key m.1]) m.2 := by
  unfold Stores
  rw [storeValue_object]
  simp only [exists_map_eq_ok_iff, exists_mapM_iff]

/-- All positions of a list have one node. -/
theorem storeValue_position (path : Path) (i j : Nat) (value : Json) :
    schema.storeValue (path ++ [.position i]) value =
      schema.storeValue (path ++ [.position j]) value := by
  rw [storeValue_concat, storeValue_concat]
  rfl

theorem stores_array_iff {path : Path} (hset : schema.setAt path = false)
    {elements : List Json} : schema.Stores path (.array elements) ↔
      ∀ i x, elements[i]? = some x → schema.Stores (path ++ [.position i]) x := by
  have hfirst : schema.Stores path (.array elements) ↔
      ∀ x ∈ elements, schema.Stores (path ++ [.position 0]) x := by
    unfold Stores
    rw [storeValue_array hset elements 0]
    simp only [exists_map_eq_ok_iff, exists_mapM_iff]
  rw [hfirst]
  constructor
  · intro h i x hx
    have hstores := h x (List.mem_of_getElem? hx)
    rwa [Stores, storeValue_position path 0 i] at hstores
  · intro h x hx
    obtain ⟨i, hi⟩ := List.mem_iff_getElem?.1 hx
    have hstores := h i x hi
    rwa [Stores, storeValue_position path i 0] at hstores

/-- The entries of a map are the members of the object, each as the value at its own path. -/
theorem entries_of_storeValue {path : Path} {members : List (String × Json)} {stored : StoreValue}
    (h : schema.storeValue path (.object members) = .ok stored) :
    ∃ entries, stored = .map entries ∧ List.Forall₂ (fun m e =>
      e.1 = m.1 ∧ schema.storeValue (path ++ [.key m.1]) m.2 = .ok e.2) members entries := by
  rw [storeValue_object] at h
  obtain ⟨entries, hentries, rfl⟩ := map_eq_ok h
  refine ⟨entries, rfl, (forall₂_of_mapM hentries).imp ?_⟩
  intro m e hme
  obtain ⟨part, hpart, rfl⟩ := map_eq_ok hme
  exact ⟨rfl, hpart⟩

/-- The elements of a list are those of the array, each as the value at its own position. -/
theorem elements_of_storeValue {path : Path} (hset : schema.setAt path = false)
    {elements : List Json} {stored : StoreValue}
    (h : schema.storeValue path (.array elements) = .ok stored) :
    ∃ parts, stored = .list parts ∧ parts.length = elements.length ∧
      ∀ i x part, elements[i]? = some x → parts[i]? = some part →
        schema.storeValue (path ++ [.position i]) x = .ok part := by
  rw [storeValue_array hset elements 0] at h
  obtain ⟨parts, hparts, rfl⟩ := map_eq_ok h
  have hall := forall₂_of_mapM hparts
  refine ⟨parts, rfl, hall.length_eq.symm, ?_⟩
  intro i x part hx hpart
  obtain ⟨hi, rfl⟩ := List.getElem?_eq_some_iff.1 hx
  obtain ⟨hi', rfl⟩ := List.getElem?_eq_some_iff.1 hpart
  rw [storeValue_position path i 0]
  exact hall.get hi hi'

/-- An item is stored as the object of its attributes is. -/
theorem storeItem_eq_ok_iff {item : Record Json} {stored : Item} :
    schema.storeItem item = .ok stored ↔
      schema.storeValue [] (.object item) = .ok (.map stored) := by
  rw [storeValue_object]
  unfold storeItem
  constructor
  · intro h
    exact congrArg (Except.map StoreValue.map) h
  · intro h
    obtain ⟨entries, hentries, heq⟩ := map_eq_ok h
    cases heq
    exact hentries

theorem exists_storeItem_iff {item : Record Json} :
    (∃ stored, schema.storeItem item = .ok stored) ↔ schema.Stores [] (.object item) := by
  constructor
  · rintro ⟨stored, h⟩
    exact ⟨_, storeItem_eq_ok_iff.1 h⟩
  · rintro ⟨stored, h⟩
    obtain ⟨entries, rfl, -⟩ := entries_of_storeValue h
    exact ⟨entries, storeItem_eq_ok_iff.2 h⟩

/-- An object is stored exactly if all its leaves are. -/
theorem stores_iff_leaves {path : Path} {members : Record Json} :
    schema.Stores path (.object members) ↔
      ∀ leaf ∈ Tree.flatten members, schema.Stores (path ++ leaf.1) leaf.2 := by
  induction members using Json.members_induction generalizing path with
  | nil => simp [stores_object_iff, Tree.flatten, Tree.leavesOfMembers]
  | cons name value rest ihvalue ihrest =>
    have hvalue : schema.Stores (path ++ [.key name]) value ↔
        ∀ leaf ∈ Tree.leavesOf [.key name] value, schema.Stores (path ++ leaf.1) leaf.2 := by
      rcases Tree.leavesOf_key name value with ⟨hleaf, -⟩ | ⟨members, hmembers, -, hleaves⟩
      · simp [hleaf]
      · rw [hleaves]
        subst hmembers
        rw [ihvalue members rfl, List.forall_mem_map]
        simp [Tree.under]
    have hrest : (∀ m ∈ rest, schema.Stores (path ++ [.key m.1]) m.2) ↔
        ∀ leaf ∈ Tree.flatten rest, schema.Stores (path ++ leaf.1) leaf.2 := by
      rw [← stores_object_iff, ihrest]
    rw [stores_object_iff, List.forall_mem_cons, hvalue, hrest, Tree.flatten_cons]
    simp only [List.mem_append, or_imp, forall_and]

/-! ## Every way to a leaf -/

/-- The stored form of a whole has at the place of a leaf what is stored for the leaf alone. -/
theorem walk?_storeValue_of_leaf {item : Record Json} (hitem : (Json.object item).isProper = true)
    {start below : Path} {leaf whole : Json} (hleaf : (start ++ below, leaf) ∈ Tree.flatten item)
    (hwhole : (Json.object item).walk? start = some whole) {stored : StoreValue}
    (hstored : schema.storeValue start whole = .ok stored) :
    ∃ part, stored.walk? below = some part ∧
      schema.storeValue (start ++ below) leaf = .ok part := by
  have hwalk := Tree.walk?_of_mem_flatten hitem hleaf
  rw [Json.walk?_append, hwhole, Option.bind_some] at hwalk
  have hkeys : ∀ step ∈ below, step.isKey = true := fun step hstep =>
    (Tree.keys_of_mem_flatten hleaf).1 step (List.mem_append_right _ hstep)
  exact schema.storesByParts_storeValue.walk? hkeys hstored hwalk

/-- Objects, lists without a declared set and whole items are stored by their parts, each at its own
path, and exactly if all parts are. So a leaf has one stored form, which is found at its place in
whatever around it is stored. -/
theorem storeValue_oneForm (schema : Schema) :
    (∀ path members,
      (schema.Stores path (.object members) ↔
        ∀ m ∈ members, schema.Stores (path ++ [.key m.1]) m.2) ∧
      ∀ stored, schema.storeValue path (.object members) = .ok stored →
        ∃ entries, stored = .map entries ∧ List.Forall₂ (fun m e =>
          e.1 = m.1 ∧ schema.storeValue (path ++ [.key m.1]) m.2 = .ok e.2) members entries) ∧
    (∀ path elements, schema.setAt path = false →
      (schema.Stores path (.array elements) ↔
        ∀ i x, elements[i]? = some x → schema.Stores (path ++ [.position i]) x) ∧
      ∀ stored, schema.storeValue path (.array elements) = .ok stored →
        ∃ parts, stored = .list parts ∧ parts.length = elements.length ∧
          ∀ i x part, elements[i]? = some x → parts[i]? = some part →
            schema.storeValue (path ++ [.position i]) x = .ok part) ∧
    (∀ item,
      ((∃ stored, schema.storeItem item = .ok stored) ↔
        ∀ m ∈ item, schema.Stores [.key m.1] m.2) ∧
      ∀ stored, schema.storeItem item = .ok stored → List.Forall₂ (fun m e =>
        e.1 = m.1 ∧ schema.storeValue [.key m.1] m.2 = .ok e.2) item stored) ∧
    (∀ path members, schema.Stores path (.object members) ↔
      ∀ leaf ∈ Tree.flatten members, schema.Stores (path ++ leaf.1) leaf.2) ∧
    ∀ item, (Json.object item).isProper = true → ∀ path leaf, (path, leaf) ∈ Tree.flatten item →
      (∀ stored, schema.storeItem item = .ok stored → ∃ part,
        (StoreValue.map stored).walk? path = some part ∧
          schema.storeValue path leaf = .ok part) ∧
      ∀ start below whole stored, path = start ++ below →
        (Json.object item).walk? start = some whole →
        schema.storeValue start whole = .ok stored → ∃ part,
          stored.walk? below = some part ∧ schema.storeValue path leaf = .ok part := by
  refine ⟨?_, ?_, ?_, fun path members => stores_iff_leaves, ?_⟩
  · intro path members
    exact ⟨stores_object_iff, fun stored h => entries_of_storeValue h⟩
  · intro path elements hset
    exact ⟨stores_array_iff hset, fun stored h => elements_of_storeValue hset h⟩
  · intro item
    refine ⟨exists_storeItem_iff.trans stores_object_iff, ?_⟩
    intro stored h
    obtain ⟨entries, heq, hentries⟩ := entries_of_storeValue (storeItem_eq_ok_iff.1 h)
    cases heq
    exact hentries
  · intro item hitem path leaf hleaf
    constructor
    · intro stored h
      have hpath : ([] ++ path, leaf) ∈ Tree.flatten item := hleaf
      exact walk?_storeValue_of_leaf hitem hpath rfl (storeItem_eq_ok_iff.1 h)
    · intro start below whole stored hpath hwhole hstored
      subst hpath
      exact walk?_storeValue_of_leaf hitem hleaf hwhole hstored

end Schema

end ItemTable
