import ItemTable.Proofs.Tree.Leaves

set_option autoImplicit false

/-! # Cut leaves write the same tree

An item that lacks a map on the way to a leaf cannot take the leaf alone; the leaf is cut where the
way ends, and carries all the data below. Putting the cut leaves into the item makes of it what
putting in all the leaves would (`Leaf.cut_writes_flatten`), whatever stands in the item where the
data has maps. A leaf the item has a place for is not cut, and it alone keeps its append flag. -/

namespace ItemTable

namespace Leaf

variable {item data : Json} {path : Path} {wanted : List Leaf} {leaf : Leaf}

/-! ## Where a path breaks off -/

theorem firstMissing?_eq_none : firstMissing? item path = none ↔ (item.walk? path).isSome := by
  induction path generalizing item with
  | nil => simp [firstMissing?, Json.walk?]
  | cons step rest ih =>
    cases hchild : item.child? step with
    | none => simp [firstMissing?, Json.walk?, hchild]
    | some part => simp [firstMissing?, Json.walk?, hchild, ih]

/-- Where a path breaks off, the item has nothing. -/
theorem walk?_of_firstMissing? {broken : Path} (h : firstMissing? item path = some broken) :
    broken <+: path ∧ item.walk? broken = none := by
  induction path generalizing item broken with
  | nil => cases h
  | cons step rest ih =>
    cases hchild : item.child? step with
    | none =>
      simp only [firstMissing?, hchild, Option.some.injEq] at h
      subst h
      exact ⟨⟨rest, rfl⟩, by simp [Json.walk?, hchild]⟩
    | some part =>
      simp only [firstMissing?, hchild, Option.map_eq_some_iff] at h
      obtain ⟨below, hbelow, rfl⟩ := h
      obtain ⟨hstart, hwalk⟩ := ih hbelow
      exact ⟨List.cons_prefix_cons.2 ⟨rfl, hstart⟩, by simp [Json.walk?, hchild, hwalk]⟩

/-- The beginning of a path that is written for the path. -/
def cutPath (item : Json) (path : Path) : Path := (firstMissing? item path).getD path

theorem cutPath_of_child {step : Step} {part : Json} (h : item.child? step = some part)
    (rest : Path) : cutPath item (step :: rest) = step :: cutPath part rest := by
  simp only [cutPath, firstMissing?, h]
  cases firstMissing? part rest <;> rfl

theorem cutPath_of_missing {step : Step} (h : item.child? step = none) (rest : Path) :
    cutPath item (step :: rest) = [step] := by
  simp only [cutPath, firstMissing?, h, Option.getD_some]

theorem cutPath_cons (item : Json) (step : Step) (rest : Path) :
    ∃ below, cutPath item (step :: rest) = step :: below := by
  cases h : item.child? step with
  | none => exact ⟨[], cutPath_of_missing h rest⟩
  | some part => exact ⟨_, cutPath_of_child h rest⟩

theorem cutPath_singleton (item : Json) (step : Step) : cutPath item [step] = [step] := by
  cases h : item.child? step with
  | none => exact cutPath_of_missing h []
  | some part => exact cutPath_of_child h []

/-! ## The list of cut leaves -/

/-- Where a leaf goes, and its value. -/
def entry (leaf : Leaf) : Path × Json := (leaf.path, leaf.value)

/-- The entry for a path, with the data that stand there. -/
def entryAt (data : Json) (path : Path) : Path × Json := (path, (data.walk? path).getD .null)

theorem path_cutOne (item data : Json) (leaf : Leaf) :
    (cutOne item data leaf).path = cutPath item leaf.path := by
  rw [cutOne, cutPath]
  cases firstMissing? item leaf.path <;> rfl

theorem entry_cutOne (item data : Json) (leaf : Leaf) :
    (cutOne item data leaf).entry = entryAt data (cutPath item leaf.path) := by
  rw [cutOne, cutPath]
  cases firstMissing? item leaf.path <;> rfl

/-- One more leaf in the list of cut ones, if there is none for its path. -/
def addCut (item data : Json) (acc : List Leaf) (leaf : Leaf) : List Leaf :=
  let new := cutOne item data leaf
  if acc.any fun l => l.path == new.path then acc else acc ++ [new]

theorem cut_eq_foldl (item data : Json) (wanted : List Leaf) :
    cut item data wanted = wanted.foldl (addCut item data) [] := rfl

theorem any_path_iff (acc : List Leaf) (path : Path) :
    (acc.any fun l => l.path == path) = true ↔ path ∈ acc.map (·.path) := by
  simp [List.any_eq_true]

theorem addCut_of_mem (data : Json) {acc : List Leaf}
    (h : cutPath item leaf.path ∈ acc.map (·.path)) : addCut item data acc leaf = acc := by
  rw [← path_cutOne item data, ← any_path_iff] at h
  simp only [addCut, h, if_true]

theorem addCut_of_not_mem (data : Json) {acc : List Leaf}
    (h : cutPath item leaf.path ∉ acc.map (·.path)) :
    addCut item data acc leaf = acc ++ [cutOne item data leaf] := by
  rw [← path_cutOne item data, ← any_path_iff] at h
  simp only [addCut, h, Bool.false_eq_true, if_false]

/-- To the leaves that are there come those for other paths, each path once. -/
theorem paths_foldl_addCut (item data : Json) (acc wanted : List Leaf) :
    (wanted.foldl (addCut item data) acc).map (·.path) =
      acc.map (·.path) ++ ((wanted.map fun leaf => cutPath item leaf.path).removeAll
        (acc.map (·.path))).eraseDups := by
  induction wanted generalizing acc with
  | nil => simp [List.removeAll]
  | cons leaf wanted ih =>
    rw [List.foldl_cons, ih, List.map_cons, List.cons_removeAll]
    by_cases hold : cutPath item leaf.path ∈ acc.map (·.path)
    · rw [addCut_of_mem data hold, if_neg (by simpa using hold)]
    · rw [addCut_of_not_mem data hold, if_pos (by simpa using hold), List.eraseDups_cons,
        List.map_append, List.map_singleton, path_cutOne, removeAll_append_singleton,
        List.append_assoc, List.singleton_append]

theorem mem_foldl_addCut {acc wanted : List Leaf} {new : Leaf}
    (h : new ∈ wanted.foldl (addCut item data) acc) :
    new ∈ acc ∨ ∃ leaf ∈ wanted, new = cutOne item data leaf := by
  induction wanted generalizing acc with
  | nil => exact .inl h
  | cons leaf wanted ih =>
    rcases ih h with hacc | ⟨other, hother, rfl⟩
    · by_cases hold : cutPath item leaf.path ∈ acc.map (·.path)
      · exact .inl (addCut_of_mem data hold ▸ hacc)
      · rw [addCut_of_not_mem data hold] at hacc
        rcases List.mem_append.1 hacc with hacc | hnew
        · exact .inl hacc
        · exact .inr ⟨leaf, .head _, List.mem_singleton.1 hnew⟩
    · exact .inr ⟨other, .tail _ hother, rfl⟩

theorem paths_cut (item data : Json) (wanted : List Leaf) : (cut item data wanted).map (·.path) =
    (wanted.map fun leaf => cutPath item leaf.path).eraseDups := by
  rw [cut_eq_foldl, paths_foldl_addCut, List.map_nil, List.removeAll_nil, List.nil_append]

/-- Every leaf of the list is some wanted one, cut. -/
theorem exists_of_mem_cut {new : Leaf} (h : new ∈ cut item data wanted) :
    ∃ leaf ∈ wanted, new = cutOne item data leaf := by
  rcases mem_foldl_addCut h with hnil | hwanted
  · cases hnil
  · exact hwanted

/-- The cut leaves go to the places the wanted paths break off, each once. -/
theorem entries_cut (item data : Json) (wanted : List Leaf) :
    (cut item data wanted).map entry =
      (wanted.map fun leaf => cutPath item leaf.path).eraseDups.map (entryAt data) := by
  rw [← paths_cut item data, List.map_map]
  refine List.map_congr_left fun new hnew => ?_
  obtain ⟨leaf, -, rfl⟩ := exists_of_mem_cut hnew
  rw [entry_cutOne, Function.comp_apply, path_cutOne]

end Leaf

namespace Tree

open Leaf (cutPath entryAt)

/-! ## The tree they write -/

/-- The leaves put in where the paths of a tree's leaves break off. -/
def cutEntries (item data : Json) (leaves : List (Path × Json)) : List (Path × Json) :=
  (leaves.map fun leaf => cutPath item leaf.1).eraseDups.map (entryAt data)

variable {item data value : Json} {name : String}

theorem entryAt_key (hvalue : data.member? name = some value) :
    entryAt data [.key name] = ([.key name], value) := by
  simp [entryAt, Json.walk?, Json.child?, hvalue]

theorem entryAt_under (hvalue : data.member? name = some value) (path : Path) :
    entryAt data (.key name :: path) = under (.key name) (entryAt value path) := by
  simp [entryAt, under, Json.walk?, Json.child?, hvalue]

/-- The paths of other members' leaves are cut to other paths. -/
theorem cutEntries_append {rest : Record Json} (hname : name ∉ rest.names)
    (item data value : Json) :
    cutEntries item data (leavesOf [.key name] value ++ flatten rest) =
      cutEntries item data (leavesOf [.key name] value) ++
        cutEntries item data (flatten rest) := by
  rw [cutEntries, List.map_append, eraseDups_append_of_disjoint, List.map_append]
  · rfl
  · intro path hrest hfirst
    obtain ⟨leaf, hleaf, rfl⟩ := List.mem_map.1 hrest
    obtain ⟨first, hfirst, heq⟩ := List.mem_map.1 hfirst
    obtain ⟨other, hother, below, hbelow⟩ := name_of_mem_flatten hleaf
    obtain ⟨below', hbelow'⟩ := name_of_mem_leavesOf hfirst
    obtain ⟨cut, hcut⟩ := Leaf.cutPath_cons item (.key other) below
    obtain ⟨cut', hcut'⟩ := Leaf.cutPath_cons item (.key name) below'
    rw [hbelow, hbelow', hcut, hcut', List.cons.injEq, Step.key.injEq] at heq
    exact hname (heq.1 ▸ hother)

/-- A member that is a leaf is written as it is. -/
theorem cutEntries_leaf (hvalue : data.member? name = some value) :
    cutEntries item data [([.key name], value)] = [([.key name], value)] := by
  simp [cutEntries, Leaf.cutPath_singleton, eraseDups_of_forall_eq, entryAt_key hvalue]

/-- A member the item lacks is written whole. -/
theorem cutEntries_missing {members : Record Json} (hvalue : data.member? name = some value)
    (hitem : item.member? name = none) (hne : members ≠ []) :
    cutEntries item data ((flatten members).map (under (.key name))) =
      [([.key name], value)] := by
  rw [cutEntries, List.map_map, eraseDups_of_forall_eq, List.map_singleton, entryAt_key hvalue]
  · simpa using flatten_ne_nil hne
  · intro path hpath
    obtain ⟨leaf, -, rfl⟩ := List.mem_map.1 hpath
    exact Leaf.cutPath_of_missing (show item.child? (.key name) = none from hitem) leaf.1

/-- Below a member the item has, the leaves are cut as the member's value is compared. -/
theorem cutEntries_under {part : Json} (hvalue : data.member? name = some value)
    (hitem : item.member? name = some part) (leaves : List (Path × Json)) :
    cutEntries item data (leaves.map (under (.key name))) =
      (cutEntries part value leaves).map (under (.key name)) := by
  have hpaths : (leaves.map (under (.key name))).map (fun leaf => cutPath item leaf.1) =
      (leaves.map fun leaf => cutPath part leaf.1).map (Step.key name :: ·) := by
    rw [List.map_map, List.map_map]
    exact List.map_congr_left fun leaf _ =>
      Leaf.cutPath_of_child (show item.child? (.key name) = some part from hitem) leaf.1
  rw [cutEntries, hpaths, eraseDups_map fun _ _ _ _ => List.tail_eq_of_cons_eq, cutEntries,
    List.map_map, List.map_map]
  exact List.map_congr_left fun path _ => entryAt_under hvalue path

theorem ne_nil_of_mem_cutEntries {members : Record Json} {leaf : Path × Json}
    (h : leaf ∈ cutEntries item data (flatten members)) : leaf.1 ≠ [] := by
  obtain ⟨path, hpath, rfl⟩ := List.mem_map.1 h
  obtain ⟨wanted, hwanted, rfl⟩ := List.mem_map.1 (List.mem_eraseDups.1 hpath)
  obtain ⟨name, -, rest, hrest⟩ := name_of_mem_flatten hwanted
  obtain ⟨below, hbelow⟩ := Leaf.cutPath_cons item (.key name) rest
  rw [entryAt, hrest, hbelow]
  exact List.cons_ne_nil _ _

theorem cutEntries_ne_nil {members : Record Json} (hne : members ≠ []) :
    cutEntries item data (flatten members) ≠ [] := by
  obtain ⟨leaf, leaves, hleaves⟩ := List.exists_cons_of_ne_nil (flatten_ne_nil hne)
  rw [cutEntries, hleaves, List.map_cons, List.eraseDups_cons]
  exact List.cons_ne_nil _ _

theorem get?_insertAll_leavesOf (tree : Record Json) (name : String) (value : Json)
    {other : String} (hother : name ≠ other) :
    (insertAll tree (leavesOf [.key name] value)).get? other = tree.get? other := by
  rcases leavesOf_key name value with ⟨hleaf, -⟩ | ⟨members, -, hne, hleaves⟩
  · rw [hleaf]
    exact (Record.get?_insert tree name other value).trans (if_neg hother)
  · rw [hleaves, insertAll_under tree name (flatten_ne_nil hne)
      fun leaf => ne_nil_of_mem_flatten]
    exact (Record.get?_insert tree name other _).trans (if_neg hother)

theorem get?_branch {tree : Record Json} (htree : tree.get? name = some value)
    (other : String) : (branch tree name).get? other = value.member? other := by
  rw [branch, htree]
  cases value <;> rfl

/-- The leaves of a member, put in at once where they are cut. Below a member the item has, this is
the statement for the member's own members. -/
theorem insertAll_cutEntries_leavesOf {tree : Record Json} (hproper : value.isProper = true)
    (hvalue : data.member? name = some value) (htree : tree.get? name = item.member? name)
    (hbelow : ∀ members part, value = .object members → item.member? name = some part →
      insertAll (branch tree name) (cutEntries part value (flatten members)) =
        insertAll (branch tree name) (flatten members)) :
    insertAll tree (cutEntries item data (leavesOf [.key name] value)) =
      insertAll tree (leavesOf [.key name] value) := by
  rcases leavesOf_key name value with ⟨hleaf, -⟩ | ⟨members, hmembers, hne, hleaves⟩
  · rw [hleaf, cutEntries_leaf hvalue]
  · rw [hleaves, insertAll_under tree name (flatten_ne_nil hne)
      fun leaf => ne_nil_of_mem_flatten]
    cases hitem : item.member? name with
    | none =>
      have hbranch : branch tree name = [] := by
        rw [branch, htree, hitem]
        rfl
      rw [cutEntries_missing hvalue hitem hne, hbranch, hmembers]
      exact congrArg (fun below => Record.insert tree name (.object below))
        (unflatten_flatten (hmembers ▸ hproper)).symm
    | some part =>
      rw [cutEntries_under hvalue hitem, insertAll_under tree name (cutEntries_ne_nil hne)
        fun leaf => ne_nil_of_mem_cutEntries, hbelow members part hmembers hitem]

/-- The cut leaves of some members change a tree as all their leaves do, if the tree has under
their names what the item has. -/
theorem insertAll_cutEntries {members : Record Json} (item data : Json) (tree : Record Json)
    (hproper : (Json.object members).isProper = true)
    (hdata : ∀ name ∈ members.names, data.member? name = members.get? name)
    (htree : ∀ name ∈ members.names, tree.get? name = item.member? name) :
    insertAll tree (cutEntries item data (flatten members)) =
      insertAll tree (flatten members) := by
  induction members using Json.members_induction generalizing item data tree with
  | nil => rfl
  | cons name value rest ihvalue ihrest =>
    obtain ⟨hname, hvalue, hrest⟩ := Json.isProper_cons.1 hproper
    obtain ⟨htreeName, htreeRest⟩ := List.forall_mem_cons.1 htree
    have hdataName : data.member? name = some value :=
      (hdata name (.head _)).trans (by simp [Record.get?])
    have hne : ∀ other ∈ rest.names, name ≠ other :=
      fun other hother heq => hname (heq ▸ hother)
    have hfirst : insertAll tree (cutEntries item data (leavesOf [.key name] value)) =
        insertAll tree (leavesOf [.key name] value) := by
      refine insertAll_cutEntries_leavesOf hvalue hdataName htreeName ?_
      intro members part hmembers hpart
      subst hmembers
      exact ihvalue members rfl part _ _ hvalue (fun _ _ => rfl)
        fun other _ => get?_branch (htreeName.trans hpart) other
    rw [flatten_cons, cutEntries_append hname, insertAll_append, insertAll_append, hfirst]
    refine ihrest item data _ hrest (fun other hother => ?_) fun other hother => ?_
    · rw [hdata other (.tail _ hother), Record.get?, if_neg (hne other hother)]
    · rw [get?_insertAll_leavesOf tree name value (hne other hother), htreeRest other hother]

end Tree

namespace Leaf

variable {item data : Json} {wanted : List Leaf} {leaf : Leaf}

theorem cutOne_of_walk? (data : Json) (h : (item.walk? leaf.path).isSome) :
    cutOne item data leaf = ⟨leaf.path, (data.walk? leaf.path).getD .null, leaf.append⟩ := by
  rw [cutOne, firstMissing?_eq_none.2 h]

theorem cutOne_of_missing (data : Json) (h : item.walk? leaf.path = none) : ∃ broken,
    broken <+: leaf.path ∧ item.walk? broken = none ∧
      cutOne item data leaf = ⟨broken, (data.walk? broken).getD .null, false⟩ := by
  cases hbroken : firstMissing? item leaf.path with
  | none =>
    rw [firstMissing?_eq_none, h] at hbroken
    cases hbroken
  | some broken =>
    obtain ⟨hstart, hwalk⟩ := walk?_of_firstMissing? hbroken
    exact ⟨broken, hstart, hwalk, by rw [cutOne, hbroken]⟩

/-- A leaf whose whole path is written is kept, but for its flag. -/
theorem cutOne_of_kept {path : Path} {value : Json} (hkept : cutPath item path = path)
    (hvalue : data.walk? path = some value) :
    cutOne item data ⟨path, value, false⟩ = ⟨path, value, false⟩ := by
  unfold cutPath at hkept
  unfold cutOne
  cases hbroken : firstMissing? item path with
  | none => simp [hvalue]
  | some broken =>
    obtain rfl : broken = path := by simpa [hbroken] using hkept
    simp [hvalue]

/-- Two leaves cut to one path have the same data and no flag, if they are two. -/
theorem cutOne_eq_of_path_eq {other : Leaf}
    (hunique : (item.walk? leaf.path).isSome → other.path = leaf.path → other = leaf)
    (heq : (cutOne item data other).path = (cutOne item data leaf).path) :
    cutOne item data other = cutOne item data leaf := by
  cases hwalk : item.walk? leaf.path with
  | none =>
    obtain ⟨broken, -, hbroken, hcut⟩ := cutOne_of_missing data hwalk
    cases hwalk' : item.walk? other.path with
    | none =>
      obtain ⟨broken', -, -, hcut'⟩ := cutOne_of_missing data hwalk'
      rw [hcut, hcut'] at heq ⊢
      dsimp only at heq
      rw [heq]
    | some part =>
      rw [hcut, cutOne_of_walk? data (hwalk' ▸ rfl)] at heq
      dsimp only at heq
      rw [heq, hbroken] at hwalk'
      cases hwalk'
  | some part =>
    have hwhole : (item.walk? leaf.path).isSome := hwalk ▸ rfl
    rw [cutOne_of_walk? data hwhole] at heq
    cases hwalk' : item.walk? other.path with
    | none =>
      obtain ⟨broken', -, hbroken', hcut'⟩ := cutOne_of_missing data hwalk'
      rw [hcut'] at heq
      dsimp only at heq
      rw [← heq, hbroken'] at hwalk
      cases hwalk
    | some part' =>
      rw [cutOne_of_walk? data (hwalk' ▸ rfl)] at heq
      rw [hunique hwhole heq]

/-- A wanted leaf is in the list as it is cut, unless it is whole and one of two for its path. -/
theorem cutOne_mem_cut (h : leaf ∈ wanted) (hunique : ∀ other ∈ wanted,
    (item.walk? leaf.path).isSome → other.path = leaf.path → other = leaf) :
    cutOne item data leaf ∈ cut item data wanted := by
  have hpath : (cutOne item data leaf).path ∈ (cut item data wanted).map (·.path) := by
    rw [paths_cut, List.mem_eraseDups, path_cutOne]
    exact List.mem_map_of_mem h
  obtain ⟨new, hnew, heq⟩ := List.mem_map.1 hpath
  obtain ⟨other, hother, rfl⟩ := exists_of_mem_cut hnew
  exact cutOne_eq_of_path_eq (hunique other hother) heq ▸ hnew

theorem cutOne_mem_cut_of_nodup (h : leaf ∈ wanted) (hpaths : (wanted.map (·.path)).Nodup) :
    cutOne item data leaf ∈ cut item data wanted :=
  cutOne_mem_cut h fun _ hother _ heq => List.inj_on_of_nodup_map hpaths hother h heq

/-- Where a wanted path breaks off, a leaf without a flag has all the data below. -/
theorem mem_cut_of_firstMissing? (data : Json) (h : leaf ∈ wanted) {broken : Path}
    (hbroken : firstMissing? item leaf.path = some broken) :
    ⟨broken, (data.walk? broken).getD .null, false⟩ ∈ cut item data wanted := by
  have hmem : cutOne item data leaf ∈ cut item data wanted := by
    refine cutOne_mem_cut h fun _ _ hwhole => ?_
    rw [← firstMissing?_eq_none, hbroken] at hwhole
    cases hwhole
  rwa [cutOne, hbroken] at hmem

/-- The cut leaves make of an item what all the leaves of the data would. A leaf the item has a
place for is kept as it is. Any other is covered by a leaf without a flag, where its path breaks
off; so only leaves with a place have a flag. -/
theorem cut_writes_flatten (item data : Record Json) (wanted : List Leaf)
    (hdata : (Json.object data).isProper = true)
    (hwanted : wanted.map entry = Tree.flatten data) :
    Tree.insertAll item ((cut (.object item) (.object data) wanted).map entry) =
        Tree.insertAll item (Tree.flatten data) ∧
      (∀ leaf ∈ wanted, ((Json.object item).walk? leaf.path).isSome →
        leaf ∈ cut (.object item) (.object data) wanted) ∧
      (∀ leaf ∈ wanted, (Json.object item).walk? leaf.path = none →
        ∃ new ∈ cut (.object item) (.object data) wanted, new.path <+: leaf.path ∧
          (Json.object item).walk? new.path = none ∧ new.append = false) ∧
      ∀ new ∈ cut (.object item) (.object data) wanted, new.append = true →
        new ∈ wanted ∧ ((Json.object item).walk? new.path).isSome := by
  have hentries : (cut (.object item) (.object data) wanted).map entry =
      Tree.cutEntries (.object item) (.object data) (Tree.flatten data) := by
    rw [entries_cut, Tree.cutEntries, ← hwanted, List.map_map]
    rfl
  have hpaths : (wanted.map (·.path)).Nodup := by
    have := Tree.nodup_paths_flatten hdata
    rwa [← hwanted, List.map_map] at this
  have hwhole : ∀ leaf ∈ wanted, ((Json.object item).walk? leaf.path).isSome →
      cutOne (.object item) (.object data) leaf = leaf := by
    intro leaf hleaf hwalk
    have hvalue : (leaf.path, leaf.value) ∈ Tree.flatten data :=
      hwanted ▸ List.mem_map_of_mem hleaf
    rw [cutOne_of_walk? _ hwalk, Tree.walk?_of_mem_flatten hdata hvalue, Option.getD_some]
  refine ⟨?_, ?_, ?_, ?_⟩
  · rw [hentries]
    exact Tree.insertAll_cutEntries _ _ item hdata (fun _ _ => rfl) fun _ _ => rfl
  · intro leaf hleaf hwalk
    exact hwhole leaf hleaf hwalk ▸ cutOne_mem_cut_of_nodup hleaf hpaths
  · intro leaf hleaf hwalk
    obtain ⟨broken, hstart, hbroken, hcut⟩ :=
      cutOne_of_missing (.object data) hwalk
    exact ⟨_, cutOne_mem_cut_of_nodup hleaf hpaths, hcut ▸ hstart, hcut ▸ hbroken, hcut ▸ rfl⟩
  · intro new hnew happend
    obtain ⟨leaf, hleaf, rfl⟩ := exists_of_mem_cut hnew
    cases hwalk : (Json.object item).walk? leaf.path with
    | none =>
      obtain ⟨broken, -, -, hcut⟩ := cutOne_of_missing (.object data) hwalk
      rw [hcut] at happend
      cases happend
    | some part =>
      have hwalk' : ((Json.object item).walk? leaf.path).isSome := hwalk ▸ rfl
      rw [hwhole leaf hleaf hwalk']
      exact ⟨hleaf, hwalk'⟩

/-- An item with a scalar, a list and an empty map where `patchData` has maps and a list. -/
def patchItem : Record Json :=
  [("id", .string "a"), ("a", .bool true),
    ("m", .object [("l", .array [.string "x"]), ("e", .object [])])]

/-- Two leaves below the scalar, two below a map the item lacks, one in its empty map. -/
def patchData : Record Json :=
  [("a", .object [("x", .null), ("y", .string "1")]),
    ("m", .object [("n", .object [("p", .null), ("q", .object [])]),
      ("l", .array [.string "y"]), ("e", .object [("k", .null)])])]

theorem cut_writes_flatten_patch :
    let wanted := ofTree true (Tree.flatten patchData)
    let new := cut (.object patchItem) (.object patchData) wanted
    (Json.object patchData).isProper = true ∧ wanted.map entry = Tree.flatten patchData ∧
      new.map (fun leaf => (leaf.path, leaf.append)) =
        [([.key "a", .key "x"], false), ([.key "a", .key "y"], false),
          ([.key "m", .key "n"], false), ([.key "m", .key "l"], true),
          ([.key "m", .key "e", .key "k"], false)] ∧
      Tree.insertAll patchItem (new.map entry) =
        Tree.insertAll patchItem (Tree.flatten patchData) := by
  intro wanted new
  have hproper : (Json.object patchData).isProper = true := by decide
  have hwanted : wanted.map entry = Tree.flatten patchData := rfl
  exact ⟨hproper, hwanted, by decide +kernel,
    (cut_writes_flatten patchItem patchData wanted hproper hwanted).1⟩

end Leaf

end ItemTable
