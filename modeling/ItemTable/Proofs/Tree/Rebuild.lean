import ItemTable.Proofs.Tree.Keeps
import Mathlib.Data.List.Induction

set_option autoImplicit false

/-! # Trees built of leaves

A leaf that is put where no other leaf is in its way comes to the leaves of the tree and takes none
away (`Tree.flatten_insert`); a way that parts from the leaf's leads on where it led before
(`Tree.walk?_insert_of_apart`). So a tree that is built of leaves that do not run through each other
has just these leaves, whatever their order was (`Tree.unflatten_keeps_leaves`). -/

namespace ItemTable

namespace Tree

variable {tree : Record Json} {path other : Path} {value part : Json} {name : String}

/-! ## Ways after a leaf is put in -/

/-- The leaf that is put in is found at the end of its path. -/
theorem walk?_insert_self (tree : Record Json) (value : Json) (hpath : path ≠ [])
    (hkeys : ∀ step ∈ path, step.isKey = true) :
    (Json.object (insert tree path value)).walk? path = some value := by
  induction path generalizing tree with
  | nil => exact absurd rfl hpath
  | cons step below ih =>
    obtain ⟨hstep, hbelow⟩ := List.forall_mem_cons.1 hkeys
    cases step with
    | position => cases hstep
    | key name =>
      cases below with
      | nil => rw [insert, Json.walk?_singleton, child?_insert_self]
      | cons next further =>
        rw [insert, Json.walk?, child?_insert_self, Option.bind_some]
        exact ih _ (List.cons_ne_nil _ _) hbelow

/-- Below a name the way leads through the members there; there are none where no object is. -/
theorem walk?_branch (tree : Record Json) (name next : String) (rest : Path) :
    (Json.object (branch tree name)).walk? (.key next :: rest) =
      (Json.object tree).walk? (.key name :: .key next :: rest) := by
  rw [Json.walk?, Json.walk?, Json.child?, Json.child?, branch]
  change _ = (tree.get? name).bind _
  cases tree.get? name with
  | none => rfl
  | some part => cases part <;> rfl

/-- A way of names that parts from the leaf's path leads where it led before. -/
theorem walk?_insert_of_apart (tree : Record Json) (value : Json)
    (hkeys : ∀ step ∈ other, step.isKey = true) (hapart : path.conflicts other = false) :
    (Json.object (insert tree path value)).walk? other = (Json.object tree).walk? other := by
  induction path generalizing tree other with
  | nil => rfl
  | cons step below ih =>
    cases step with
    | position => rfl
    | key name =>
      rcases other with _ | ⟨step', rest⟩
      · cases hapart
      · by_cases hname : step' = .key name
        · -- both ways lead through the name, so they part further down
          subst hname
          rw [Path.conflicts_cons] at hapart
          obtain ⟨-, hrest⟩ := List.forall_mem_cons.1 hkeys
          rcases below with _ | ⟨next, further⟩
          · cases hapart
          · rcases rest with _ | ⟨step', rest⟩
            · cases hapart
            · cases step' with
              | position => cases hrest _ (.head _)
              | key next' =>
                rw [insert, Json.walk?, child?_insert_self, Option.bind_some, ih _ hrest hapart,
                  walk?_branch]
        · cases below <;> rw [insert, Json.walk?, Json.walk?, child?_insert_of_ne hname]

/-- Of leaves that are put in one after the other each is found at the end of its path, if none of
them is in the way of another. -/
theorem walk?_insertAll {leaves : List (Path × Json)} (tree : Record Json)
    (hpaths : ∀ leaf ∈ leaves, leaf.1 ≠ [] ∧ ∀ step ∈ leaf.1, step.isKey = true)
    (hapart : leaves.Pairwise fun a b => a.1.conflicts b.1 = false) :
    ∀ leaf ∈ leaves, (Json.object (insertAll tree leaves)).walk? leaf.1 = some leaf.2 := by
  -- what is put in last is found, and what was found before is not touched
  induction leaves using List.reverseRecOn with
  | nil => exact nofun
  | append_singleton leaves last ih =>
    obtain ⟨hleaves, -, hlast⟩ := List.pairwise_append.1 hapart
    obtain ⟨hpaths, hpath⟩ := List.forall_mem_append.1 hpaths
    obtain ⟨⟨hne, hkeys⟩, -⟩ := List.forall_mem_cons.1 hpath
    rw [insertAll_append]
    refine List.forall_mem_append.2 ⟨fun leaf hleaf => ?_, List.forall_mem_singleton.2 ?_⟩
    · have hparts := hlast leaf hleaf last (.head _)
      rw [Path.conflicts_comm] at hparts
      rw [insertAll_cons, insertAll, List.foldl_nil,
        walk?_insert_of_apart _ _ (hpaths leaf hleaf).2 hparts]
      exact ih hpaths hleaves leaf hleaf
    · exact walk?_insert_self _ _ hne hkeys

/-! ## Leaves after a leaf is put in -/

theorem mem_flatten_of_get? (hget : tree.get? name = some part) {leaf : Path × Json}
    (hleaf : leaf ∈ leavesOf [.key name] part) : leaf ∈ flatten tree := by
  induction tree with
  | nil => cases hget
  | cons m rest ih =>
    obtain ⟨other, value⟩ := m
    rw [Record.get?] at hget
    split at hget
    · next heq =>
      cases hget
      subst heq
      exact mem_flatten_cons.2 (.inl hleaf)
    · exact mem_flatten_cons.2 (.inr (ih hget))

/-- A member that has some leaves more than the one before it adds them to the tree. -/
theorem flatten_recordInsert (added : List (Path × Json))
    (hadded : (leavesOf [.key name] value).Perm
      (added ++ (tree.get? name).elim [] (leavesOf [.key name]))) :
    (flatten (Record.insert tree name value)).Perm (added ++ flatten tree) := by
  induction tree with
  | nil =>
    rw [Record.get?, Option.elim_none, List.append_nil] at hadded
    exact hadded.append_right _
  | cons m rest ih =>
    obtain ⟨other, old⟩ := m
    rw [Record.get?] at hadded
    rw [Record.insert]
    split
    · next heq =>
      subst heq
      rw [if_pos rfl, Option.elim_some] at hadded
      rw [flatten_cons, flatten_cons, ← List.append_assoc]
      exact hadded.append_right _
    · next hne =>
      rw [if_neg hne] at hadded
      rw [flatten_cons, flatten_cons]
      refine ((ih hadded).append_left _).trans ?_
      rw [← List.append_assoc, ← List.append_assoc]
      exact List.perm_append_comm.append_right _

theorem leavesOf_key_object {members : Record Json} (hne : members ≠ []) :
    leavesOf [.key name] (.object members) = (flatten members).map (under (.key name)) := by
  rcases leavesOf_key name (.object members) with ⟨-, hnone⟩ | ⟨members', heq, -, hleaves⟩
  · obtain ⟨⟨first, part⟩, rest, rfl⟩ := List.exists_cons_of_ne_nil hne
    have hfirst := hnone first
    simp [Json.member?, Record.get?] at hfirst
  · cases heq
    exact hleaves

/-- What the leaves below a name are, if none of the tree's leaves is in the way of a path through
the name. -/
theorem leaves_below
    (hapart : ∀ leaf ∈ flatten tree, Path.conflicts (.key name :: path) leaf.1 = false) :
    (tree.get? name).elim [] (leavesOf [.key name]) =
        (flatten (branch tree name)).map (under (.key name)) ∧
      ∀ leaf ∈ flatten (branch tree name), path.conflicts leaf.1 = false := by
  unfold branch
  cases hget : tree.get? name with
  | none => exact ⟨rfl, nofun⟩
  | some part =>
    have hleaf : ∀ leaf ∈ leavesOf [.key name] part,
        Path.conflicts (.key name :: path) leaf.1 = false := fun leaf hleaf =>
      hapart leaf (mem_flatten_of_get? hget hleaf)
    rcases leavesOf_key name part with ⟨hsingle, -⟩ | ⟨members, rfl, -, hleaves⟩
    · -- a leaf under the name itself would be in the way
      rw [hsingle, List.forall_mem_singleton, Path.conflicts_cons, Path.conflicts_comm] at hleaf
      cases hleaf
    · refine ⟨hleaves, fun leaf hmem => ?_⟩
      rw [hleaves] at hleaf
      have hparts := hleaf _ (List.mem_map_of_mem hmem)
      rwa [under, Path.conflicts_cons] at hparts

/-- A leaf comes to those of a tree, if none of these is in its way. -/
theorem flatten_insert (tree : Record Json) (hpath : path ≠ [])
    (hkeys : ∀ step ∈ path, step.isKey = true)
    (hvalue : ∀ members, value = .object members → members = [])
    (hapart : ∀ leaf ∈ flatten tree, path.conflicts leaf.1 = false) :
    (flatten (insert tree path value)).Perm ((path, value) :: flatten tree) := by
  induction path generalizing tree with
  | nil => exact absurd rfl hpath
  | cons step below ih =>
    obtain ⟨hstep, hbelow⟩ := List.forall_mem_cons.1 hkeys
    cases step with
    | position => cases hstep
    | key name =>
      obtain ⟨hold, hparts⟩ := leaves_below hapart
      cases below with
      | nil =>
        -- everything is in the way of what is to stand under the name
        have hempty : flatten (branch tree name) = [] :=
          List.eq_nil_iff_forall_not_mem.2 fun leaf hleaf => nomatch hparts leaf hleaf
        have hleaf : leavesOf [.key name] value = [([.key name], value)] := by
          rcases leavesOf_key name value with ⟨hleaf, -⟩ | ⟨members, hmembers, hne, -⟩
          · exact hleaf
          · exact absurd (hvalue members hmembers) hne
        rw [insert]
        refine flatten_recordInsert [([.key name], value)] ?_
        rw [hold, hempty, hleaf]
        exact .refl _
      | cons next further =>
        have hinner := ih (branch tree name) (List.cons_ne_nil _ _) hbelow hparts
        have hne : insert (branch tree name) (next :: further) value ≠ [] := by
          intro hnil
          rw [hnil] at hinner
          exact List.cons_ne_nil _ _ (List.nil_perm.1 hinner)
        rw [insert]
        refine flatten_recordInsert [(.key name :: next :: further, value)] ?_
        rw [hold, leavesOf_key_object hne]
        exact hinner.map _

/-- Leaves come to those of a tree, if none of all these is in the way of another. -/
theorem flatten_insertAll (tree : Record Json) {leaves : List (Path × Json)}
    (hpaths : ∀ leaf ∈ leaves, leaf.1 ≠ [] ∧ ∀ step ∈ leaf.1, step.isKey = true)
    (hvalues : ∀ leaf ∈ leaves, ∀ members, leaf.2 = .object members → members = [])
    (hapart : leaves.Pairwise fun a b => a.1.conflicts b.1 = false)
    (htree : ∀ leaf ∈ leaves, ∀ old ∈ flatten tree, leaf.1.conflicts old.1 = false) :
    (flatten (insertAll tree leaves)).Perm (leaves ++ flatten tree) := by
  induction leaves generalizing tree with
  | nil => exact .refl _
  | cons leaf leaves ih =>
    obtain ⟨⟨hne, hkeys⟩, hpaths⟩ := List.forall_mem_cons.1 hpaths
    obtain ⟨hvalue, hvalues⟩ := List.forall_mem_cons.1 hvalues
    obtain ⟨hleaf, hapart⟩ := List.pairwise_cons.1 hapart
    obtain ⟨hfirst, htree⟩ := List.forall_mem_cons.1 htree
    have hstep := flatten_insert tree hne hkeys hvalue hfirst
    rw [insertAll_cons]
    refine (ih _ hpaths hvalues hapart fun later hlater old hold => ?_).trans ?_
    · rcases List.mem_cons.1 (hstep.mem_iff.1 hold) with rfl | hold
      · rw [Path.conflicts_comm]
        exact hleaf later hlater
      · exact htree later hlater old hold
    · exact (hstep.append_left leaves).trans List.perm_middle

/-- Building a tree loses nothing of its leaves: if their paths are of names only and none runs
through another, then in whatever order they come each path leads to its value in the tree, and the
tree has these leaves and no others. -/
theorem unflatten_keeps_leaves {leaves : List (Path × Json)}
    (hpaths : ∀ leaf ∈ leaves, leaf.1 ≠ [] ∧ ∀ step ∈ leaf.1, step.isKey = true)
    (hvalues : ∀ leaf ∈ leaves, ∀ members, leaf.2 = .object members → members = [])
    (hapart : leaves.Pairwise fun a b => a.1.conflicts b.1 = false) :
    (∀ leaf ∈ leaves, (Json.object (unflatten leaves)).walk? leaf.1 = some leaf.2) ∧
      (flatten (unflatten leaves)).Perm leaves := by
  refine ⟨walk?_insertAll [] hpaths hapart, ?_⟩
  have hleaves : (flatten (unflatten leaves)).Perm (leaves ++ []) :=
    flatten_insertAll [] hpaths hvalues hapart fun _ _ => nofun
  rwa [List.append_nil] at hleaves

/-- The leaves of a profile, those of one map apart from each other. -/
def scattered : List (Path × Json) :=
  [(.ofKeys ["name", "last"], .string "B"), (.ofKeys ["id"], .string "1"),
    (.ofKeys ["name", "first"], .object []), (.ofKeys ["tags"], .array [.object [("a", .null)]]),
    (.ofKeys ["name", "a.b", "c"], .null)]

theorem scattered_unflatten_keeps_leaves :
    ((∀ leaf ∈ scattered, leaf.1 ≠ [] ∧ ∀ step ∈ leaf.1, step.isKey = true) ∧
      (∀ leaf ∈ scattered, ∀ members, leaf.2 = .object members → members = []) ∧
      scattered.Pairwise fun a b => a.1.conflicts b.1 = false) ∧
    (∀ leaf ∈ scattered, (Json.object (unflatten scattered)).walk? leaf.1 = some leaf.2) ∧
      (flatten (unflatten scattered)).Perm scattered := by
  have hpaths : ∀ leaf ∈ scattered, leaf.1 ≠ [] ∧ ∀ step ∈ leaf.1, step.isKey = true := by decide
  have hvalues : ∀ leaf ∈ scattered, ∀ members, leaf.2 = .object members → members = [] := by
    simp [scattered]
  have hapart : scattered.Pairwise fun a b => a.1.conflicts b.1 = false := by decide
  exact ⟨⟨hpaths, hvalues, hapart⟩, unflatten_keeps_leaves hpaths hvalues hapart⟩

end Tree

end ItemTable
