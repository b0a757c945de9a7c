import ItemTable.Proofs.Record
import ItemTable.Tree
import Mathlib.Data.List.Nodup

set_option autoImplicit false

/-! # Leaves of a tree

The leaves below a member are those of its value, each one step further down (`Tree.leavesOf_key`).
In a document whose objects have each of their names once, a leaf's path leads back to its value
(`Tree.walk?_of_mem_flatten`), no leaf lies on the way to another (`Tree.pairwise_flatten`), and a
tree is what its leaves make of an empty one (`Tree.unflatten_flatten`). -/

namespace ItemTable

namespace Path

theorem conflicts_iff {p q : Path} : p.conflicts q = true ↔ p <+: q ∨ q <+: p := by
  rw [conflicts, Bool.or_eq_true, List.isPrefixOf_iff_prefix, List.isPrefixOf_iff_prefix]

theorem conflicts_comm (p q : Path) : p.conflicts q = q.conflicts p := Bool.or_comm _ _

theorem conflicts_cons (step : Step) (p q : Path) :
    conflicts (step :: p) (step :: q) = conflicts p q := by
  simp [conflicts]

theorem conflicts_cons_of_ne {step other : Step} (hne : step ≠ other) (p q : Path) :
    conflicts (step :: p) (other :: q) = false := by
  rw [← Bool.not_eq_true, conflicts_iff, List.cons_prefix_cons, List.cons_prefix_cons]
  rintro (⟨heq, -⟩ | ⟨heq, -⟩)
  · exact hne heq
  · exact hne heq.symm

end Path

namespace Json

mutual
/-- Whether all objects in a document have distinct names. -/
def isProper : Json → Bool
  | .array elements => areProper elements
  | .object members => decide (Record.names members).Nodup && membersProper members
  | _ => true

/-- Whether all objects in the elements have distinct names. -/
def areProper : List Json → Bool
  | [] => true
  | x :: xs => isProper x && areProper xs

/-- Whether all objects in the members' values have distinct names. -/
def membersProper : List (String × Json) → Bool
  | [] => true
  | (_, x) :: xs => isProper x && membersProper xs
end

theorem isProper_object {members : Record Json} : (object members).isProper = true ↔
    members.names.Nodup ∧ membersProper members = true := by
  simp [isProper]

theorem membersProper_cons {name : String} {value : Json} {rest : List (String × Json)} :
    membersProper ((name, value) :: rest) = true ↔
      value.isProper = true ∧ membersProper rest = true := by
  simp [membersProper]

theorem isProper_of_mem_object {members : Record Json} (h : (object members).isProper = true)
    {m : String × Json} (hm : m ∈ members) : m.2.isProper = true := by
  have hmembers := (isProper_object.1 h).2
  clear h
  induction members with
  | nil => cases hm
  | cons first rest ih =>
    obtain ⟨hfirst, hrest⟩ := membersProper_cons.1 hmembers
    rcases List.mem_cons.1 hm with rfl | hm
    · exact hfirst
    · exact ih hm hrest

theorem isProper_of_mem_array {elements : List Json} (h : (array elements).isProper = true)
    {x : Json} (hx : x ∈ elements) : x.isProper = true := by
  rw [isProper] at h
  induction elements with
  | nil => cases hx
  | cons first rest ih =>
    rw [areProper, Bool.and_eq_true] at h
    rcases List.mem_cons.1 hx with rfl | hx
    · exact h.1
    · exact ih h.2 hx

theorem isProper_object_of_forall {members : Record Json} (hnames : members.names.Nodup)
    (h : ∀ m ∈ members, m.2.isProper = true) : (object members).isProper = true := by
  refine isProper_object.2 ⟨hnames, ?_⟩
  clear hnames
  induction members with
  | nil => rfl
  | cons first rest ih =>
    obtain ⟨hfirst, hrest⟩ := List.forall_mem_cons.1 h
    exact membersProper_cons.2 ⟨hfirst, ih hrest⟩

theorem isProper_array_of_forall {elements : List Json} (h : ∀ x ∈ elements, x.isProper = true) :
    (array elements).isProper = true := by
  rw [isProper]
  induction elements with
  | nil => rfl
  | cons first rest ih =>
    obtain ⟨hfirst, hrest⟩ := List.forall_mem_cons.1 h
    rw [areProper, hfirst, ih hrest, Bool.and_true]

/-- What is proper about an object, told of its first member and the rest. -/
theorem isProper_cons {name : String} {value : Json} {rest : Record Json} :
    (object ((name, value) :: rest)).isProper = true ↔
      name ∉ rest.names ∧ value.isProper = true ∧ (object rest).isProper = true := by
  rw [isProper_object, isProper_object, membersProper_cons]
  simp only [Record.names, List.map_cons, List.nodup_cons, and_assoc, and_left_comm]

theorem child?_key_eq_some {value part : Json} {name : String} :
    value.child? (.key name) = some part ↔
      ∃ members, value = .object members ∧ Record.get? members name = some part := by
  cases value <;> simp [child?, member?]

theorem child?_position_eq_some {value part : Json} {i : Nat} :
    value.child? (.position i) = some part ↔
      ∃ elements, value = .array elements ∧ elements[i]? = some part := by
  cases value <;> simp [child?, element?]

theorem isProper_of_child? {value part : Json} {step : Step} (hvalue : value.isProper = true)
    (h : value.child? step = some part) : part.isProper = true := by
  cases step with
  | key name =>
    obtain ⟨members, rfl, hget⟩ := child?_key_eq_some.1 h
    exact isProper_of_mem_object hvalue (Record.mem_of_get?_eq_some hget)
  | position i =>
    obtain ⟨elements, rfl, hget⟩ := child?_position_eq_some.1 h
    exact isProper_of_mem_array hvalue (List.mem_of_getElem? hget)

theorem isProper_of_walk? {value part : Json} {path : Path} (hvalue : value.isProper = true)
    (h : value.walk? path = some part) : part.isProper = true := by
  induction path generalizing value with
  | nil =>
    obtain rfl := Option.some.inj h
    exact hvalue
  | cons step rest ih =>
    obtain ⟨next, hnext, hrest⟩ := Option.bind_eq_some_iff.1 h
    exact ih (isProper_of_child? hvalue hnext) hrest

theorem walk?_singleton (value : Json) (step : Step) : value.walk? [step] = value.child? step := by
  rw [walk?]
  exact Option.bind_fun_some _

theorem walk?_append (value : Json) (path below : Path) :
    value.walk? (path ++ below) = (value.walk? path).bind fun part => part.walk? below := by
  induction path generalizing value with
  | nil => rfl
  | cons step rest ih =>
    rw [List.cons_append, walk?, walk?, Option.bind_assoc]
    exact congrArg _ (funext ih)

/-- Induction over the members of an object, and of the objects that are members. -/
@[elab_as_elim]
theorem members_induction {P : Record Json → Prop} (nil : P [])
    (cons : ∀ name value rest, (∀ members, value = .object members → P members) → P rest →
      P ((name, value) :: rest)) : ∀ members, P members
  | [] => nil
  | (name, value) :: rest =>
    cons name value rest (fun members _ => members_induction nil cons members)
      (members_induction nil cons rest)
termination_by members => sizeOf members
decreasing_by
  · subst_vars
    simp only [List.cons.sizeOf_spec, Prod.mk.sizeOf_spec, object.sizeOf_spec]
    omega
  · simp only [List.cons.sizeOf_spec]
    omega

end Json

namespace Tree

variable {data : Record Json} {path : Path} {value : Json}

/-- A leaf seen from one step further up. -/
def under (step : Step) (leaf : Path × Json) : Path × Json := (step :: leaf.1, leaf.2)

theorem leavesOfMembers_cons (step : Step) (path : Path) (members : Record Json) :
    leavesOfMembers (step :: path) members = (leavesOfMembers path members).map (under step) := by
  induction members using Json.members_induction generalizing path with
  | nil => rfl
  | cons name value rest ihvalue ihrest =>
    have hvalue : leavesOf (step :: (path ++ [.key name])) value =
        (leavesOf (path ++ [.key name]) value).map (under step) := by
      rcases value with _ | _ | _ | _ | _ | members
      case object =>
        rcases members with _ | ⟨m, ms⟩
        · rfl
        · exact ihvalue _ rfl _
      all_goals rfl
    rw [leavesOfMembers, leavesOfMembers, List.map_append, ihrest, List.cons_append, hvalue]

/-- The leaves of a member: its value where that is no object with members, else the leaves below.
-/
theorem leavesOf_key (name : String) (value : Json) :
    (leavesOf [.key name] value = [([.key name], value)] ∧
        ∀ other, value.member? other = none) ∨
      ∃ members, value = .object members ∧ members ≠ [] ∧
        leavesOf [.key name] value = (flatten members).map (under (.key name)) := by
  rcases value with _ | _ | _ | _ | _ | members
  case object =>
    rcases members with _ | ⟨m, ms⟩
    · exact .inl ⟨rfl, fun _ => rfl⟩
    · exact .inr ⟨_, rfl, List.cons_ne_nil _ _, leavesOfMembers_cons _ _ _⟩
  all_goals exact .inl ⟨rfl, fun _ => rfl⟩

theorem flatten_cons (name : String) (value : Json) (rest : Record Json) :
    flatten ((name, value) :: rest) = leavesOf [.key name] value ++ flatten rest := rfl

theorem mem_flatten_cons {name : String} {rest : Record Json} {leaf : Path × Json} :
    leaf ∈ flatten ((name, value) :: rest) ↔
      leaf ∈ leavesOf [.key name] value ∨ leaf ∈ flatten rest := List.mem_append

theorem flatten_ne_nil (h : data ≠ []) : flatten data ≠ [] := by
  induction data using Json.members_induction with
  | nil => exact absurd rfl h
  | cons name value rest ihvalue _ =>
    rw [flatten_cons]
    rcases leavesOf_key name value with ⟨hleaf, -⟩ | ⟨members, hmembers, hne, hleaves⟩
    · simp [hleaf]
    · simp [hleaves, ihvalue members hmembers hne]

theorem name_of_mem_leavesOf {name : String} {leaf : Path × Json}
    (h : leaf ∈ leavesOf [.key name] value) : ∃ rest, leaf.1 = .key name :: rest := by
  rcases leavesOf_key name value with ⟨hleaf, -⟩ | ⟨members, -, -, hleaves⟩
  · rw [hleaf, List.mem_singleton] at h
    exact ⟨[], h ▸ rfl⟩
  · rw [hleaves] at h
    obtain ⟨below, -, rfl⟩ := List.mem_map.1 h
    exact ⟨below.1, rfl⟩

/-- A leaf's path begins with the name of a member. -/
theorem name_of_mem_flatten {leaf : Path × Json} (h : leaf ∈ flatten data) :
    ∃ name ∈ data.names, ∃ rest, leaf.1 = .key name :: rest := by
  induction data using Json.members_induction with
  | nil => cases h
  | cons name value rest _ ihrest =>
    rcases mem_flatten_cons.1 h with h | h
    · exact ⟨name, .head _, name_of_mem_leavesOf h⟩
    · obtain ⟨other, hother, hpath⟩ := ihrest h
      exact ⟨other, .tail _ hother, hpath⟩

/-- A leaf's path is one of names, and its value has no members. -/
theorem keys_of_mem_flatten {leaf : Path × Json} (h : leaf ∈ flatten data) :
    (∀ step ∈ leaf.1, step.isKey = true) ∧ ∀ name, leaf.2.member? name = none := by
  induction data using Json.members_induction generalizing leaf with
  | nil => cases h
  | cons name value rest ihvalue ihrest =>
    rcases mem_flatten_cons.1 h with h | h
    · rcases leavesOf_key name value with ⟨hleaf, hnone⟩ | ⟨members, hmembers, -, hleaves⟩
      · rw [hleaf, List.mem_singleton] at h
        subst h
        exact ⟨by simp [Step.isKey], hnone⟩
      · rw [hleaves] at h
        obtain ⟨below, hbelow, rfl⟩ := List.mem_map.1 h
        obtain ⟨hkeys, hnone⟩ := ihvalue members hmembers hbelow
        exact ⟨List.forall_mem_cons.2 ⟨rfl, hkeys⟩, hnone⟩
    · exact ihrest h

/-- A leaf's path leads to its value. -/
theorem walk?_of_mem_flatten (hdata : (Json.object data).isProper = true)
    (h : (path, value) ∈ flatten data) : (Json.object data).walk? path = some value := by
  induction data using Json.members_induction generalizing path with
  | nil => cases h
  | cons name member rest ihvalue ihrest =>
    obtain ⟨hname, hmember, hrest⟩ := Json.isProper_cons.1 hdata
    rcases mem_flatten_cons.1 h with h | h
    · rcases leavesOf_key name member with ⟨hleaf, -⟩ | ⟨members, hmembers, -, hleaves⟩
      · rw [hleaf, List.mem_singleton] at h
        cases h
        simp [Json.walk?, Json.child?, Json.member?, Record.get?]
      · rw [hleaves] at h
        obtain ⟨below, hbelow, heq⟩ := List.mem_map.1 h
        cases heq
        subst hmembers
        simpa [Json.walk?, Json.child?, Json.member?, Record.get?] using
          ihvalue members rfl hmember hbelow
    · obtain ⟨other, hother, below, hpath⟩ := name_of_mem_flatten h
      have hne : name ≠ other := fun heq => hname (heq ▸ hother)
      have hwalk := ihrest hrest h
      dsimp only at hpath
      subst hpath
      simpa [Json.walk?, Json.child?, Json.member?, Record.get?, hne] using hwalk

/-- No leaf lies on the way to another. -/
theorem pairwise_flatten (hdata : (Json.object data).isProper = true) :
    (flatten data).Pairwise fun a b => a.1.conflicts b.1 = false := by
  induction data using Json.members_induction with
  | nil => exact .nil
  | cons name member rest ihvalue ihrest =>
    obtain ⟨hname, hmember, hrest⟩ := Json.isProper_cons.1 hdata
    rw [flatten_cons]
    refine List.pairwise_append.2 ⟨?_, ihrest hrest, ?_⟩
    · rcases leavesOf_key name member with ⟨hleaf, -⟩ | ⟨members, rfl, -, hleaves⟩
      · rw [hleaf]
        exact List.pairwise_singleton _ _
      · rw [hleaves, List.pairwise_map]
        simp only [under, Path.conflicts_cons]
        exact ihvalue members rfl hmember
    · -- Leaves of two members part at the first step.
      intro a ha b hb
      obtain ⟨below, hpath⟩ := name_of_mem_leavesOf ha
      obtain ⟨other, hother, below', hpath'⟩ := name_of_mem_flatten hb
      have hne : Step.key name ≠ .key other := by
        intro heq
        exact hname (Step.key.inj heq ▸ hother)
      rw [hpath, hpath', Path.conflicts_cons_of_ne hne]

/-- No two leaves are at one place. -/
theorem nodup_paths_flatten (hdata : (Json.object data).isProper = true) :
    ((flatten data).map (·.1)).Nodup := by
  refine List.pairwise_map.2 ((pairwise_flatten hdata).imp ?_)
  intro a b hapart heq
  have hconflict : a.1.conflicts b.1 = true := Path.conflicts_iff.2 (.inl (heq ▸ List.prefix_rfl))
  exact Bool.noConfusion (hapart.symm.trans hconflict)

/-! ## Leaves put into a tree -/

/-- The tree with leaves put in one after the other. -/
def insertAll (tree : Record Json) (leaves : List (Path × Json)) : Record Json :=
  leaves.foldl (fun tree leaf => insert tree leaf.1 leaf.2) tree

theorem insertAll_cons (tree : Record Json) (leaf : Path × Json) (leaves : List (Path × Json)) :
    insertAll tree (leaf :: leaves) = insertAll (insert tree leaf.1 leaf.2) leaves := rfl

theorem insertAll_append (tree : Record Json) (xs ys : List (Path × Json)) :
    insertAll tree (xs ++ ys) = insertAll (insertAll tree xs) ys := List.foldl_append

theorem branch_insert (tree below : Record Json) (name : String) :
    branch (Record.insert tree name (.object below)) name = below := by
  simp [branch, Record.get?_insert, Json.object?]

theorem insert_insert_below (tree below : Record Json) (name : String) {path : Path}
    (hpath : path ≠ []) (value : Json) :
    insert (Record.insert tree name (.object below)) (.key name :: path) value =
      Record.insert tree name (.object (insert below path value)) := by
  obtain ⟨step, rest, rfl⟩ := List.exists_cons_of_ne_nil hpath
  rw [insert, branch_insert, Record.insert_insert]

theorem insertAll_insert_under (tree below : Record Json) (name : String)
    {leaves : List (Path × Json)} (hpaths : ∀ leaf ∈ leaves, leaf.1 ≠ []) :
    insertAll (Record.insert tree name (.object below)) (leaves.map (under (.key name))) =
      Record.insert tree name (.object (insertAll below leaves)) := by
  induction leaves generalizing below with
  | nil => rfl
  | cons leaf leaves ih =>
    obtain ⟨hleaf, hleaves⟩ := List.forall_mem_cons.1 hpaths
    rw [List.map_cons, insertAll_cons, insertAll_cons, under,
      insert_insert_below tree below name hleaf, ih _ hleaves]

/-- Leaves below a name change the object under that name, and make one where there is none. -/
theorem insertAll_under (tree : Record Json) (name : String) {leaves : List (Path × Json)}
    (hne : leaves ≠ []) (hpaths : ∀ leaf ∈ leaves, leaf.1 ≠ []) :
    insertAll tree (leaves.map (under (.key name))) =
      Record.insert tree name (.object (insertAll (branch tree name) leaves)) := by
  obtain ⟨leaf, leaves, rfl⟩ := List.exists_cons_of_ne_nil hne
  obtain ⟨hleaf, hleaves⟩ := List.forall_mem_cons.1 hpaths
  obtain ⟨step, rest, hpath⟩ := List.exists_cons_of_ne_nil hleaf
  rw [List.map_cons, insertAll_cons, insertAll_cons, under, hpath, insert,
    insertAll_insert_under _ _ _ hleaves]

theorem ne_nil_of_mem_flatten {leaf : Path × Json} (h : leaf ∈ flatten data) : leaf.1 ≠ [] := by
  obtain ⟨name, -, rest, hpath⟩ := name_of_mem_flatten h
  exact hpath ▸ List.cons_ne_nil _ _

/-- The leaves of a tree, put into one that has none of its names, put the tree at its end. -/
theorem insertAll_flatten (tree : Record Json) (hdata : (Json.object data).isProper = true)
    (hnames : ∀ name ∈ data.names, name ∉ tree.names) :
    insertAll tree (flatten data) = tree ++ data := by
  induction data using Json.members_induction generalizing tree with
  | nil => exact (List.append_nil tree).symm
  | cons name value rest ihvalue ihrest =>
    obtain ⟨hname, hvalue, hrest⟩ := Json.isProper_cons.1 hdata
    have hnew : name ∉ tree.names := hnames name (.head _)
    have hfirst : insertAll tree (leavesOf [.key name] value) = tree ++ [(name, value)] := by
      rw [← Record.insert_of_not_mem hnew]
      rcases leavesOf_key name value with ⟨hleaf, -⟩ | ⟨members, rfl, hne, hleaves⟩
      · rw [hleaf]
        rfl
      · have hbranch : branch tree name = [] := by
          rw [branch, (Record.get?_eq_none_iff tree name).2 hnew]
          rfl
        rw [hleaves, insertAll_under tree name (flatten_ne_nil hne)
          fun leaf => ne_nil_of_mem_flatten, hbranch,
          ihvalue members rfl [] hvalue (by simp [Record.names]), List.nil_append]
    rw [flatten_cons, insertAll_append, hfirst, ihrest _ hrest, List.append_assoc,
      List.singleton_append]
    intro other hother hmem
    rcases List.mem_append.1 (Record.names_append tree _ ▸ hmem) with hmem | hmem
    · exact hnames other (.tail _ hother) hmem
    · obtain rfl : other = name := List.mem_singleton.1 hmem
      exact hname hother

/-- A tree is built again of its leaves. -/
theorem unflatten_flatten (hdata : (Json.object data).isProper = true) :
    unflatten (flatten data) = data :=
  insertAll_flatten [] hdata (by simp [Record.names])

/-- Flattening loses nothing of a tree: the leaves build it again, name by name in its order. Their
paths are of names only, lead to their values and do not run through each other, and no value has
anything below it that would be a leaf of its own. -/
theorem flatten_invertible (hdata : (Json.object data).isProper = true) :
    unflatten (flatten data) = data ∧
      (∀ leaf ∈ flatten data, leaf.1 ≠ [] ∧ (∀ step ∈ leaf.1, step.isKey = true) ∧
        (Json.object data).walk? leaf.1 = some leaf.2 ∧ ∀ name, leaf.2.member? name = none) ∧
      (flatten data).Pairwise fun a b => a.1.conflicts b.1 = false := by
  refine ⟨unflatten_flatten hdata, ?_, pairwise_flatten hdata⟩
  intro leaf hleaf
  obtain ⟨hkeys, hnone⟩ := keys_of_mem_flatten hleaf
  exact ⟨ne_nil_of_mem_flatten hleaf, hkeys, walk?_of_mem_flatten hdata hleaf, hnone⟩

/-- A profile with an empty map, a list and a name that looks like a path. -/
def profile : Record Json :=
  [("id", .string "1"),
    ("name", .object [("last", .string "B"), ("first", .object []), ("a.b", .array [.null])])]

theorem profile_flatten_invertible :
    (Json.object profile).isProper = true ∧
      unflatten (flatten profile) = profile ∧
      (∀ leaf ∈ flatten profile, leaf.1 ≠ [] ∧ (∀ step ∈ leaf.1, step.isKey = true) ∧
        (Json.object profile).walk? leaf.1 = some leaf.2 ∧ ∀ name, leaf.2.member? name = none) ∧
      (flatten profile).Pairwise fun a b => a.1.conflicts b.1 = false := by
  have hproper : (Json.object profile).isProper = true := by decide
  exact ⟨hproper, flatten_invertible hproper⟩

end Tree

end ItemTable
