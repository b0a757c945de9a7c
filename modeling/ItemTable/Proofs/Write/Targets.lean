import ItemTable.Proofs.Update.ReadBack
import ItemTable.Proofs.Write.Retry
import Mathlib.Data.List.Pairwise

set_option autoImplicit false

/-! # Where a retry writes

The item has everything above the place where a path breaks off, and nothing at that place. So of
two wanted paths that part, neither is cut where the other one, cut or whole, leads through
(`Leaf.cutPath_eq_of_begins`): the cut leaves lie apart, their parents are in the item, and each
wanted path leads through one of them. Read back, the retry writes each wanted path once
(`Write.retry_targets`). -/

namespace ItemTable

open Traversal (exists_of_mem_right)

namespace Path

theorem conflicts_of_begins {p q path : Path} (hp : p <+: path) (hq : q <+: path) :
    p.conflicts q = true :=
  conflicts_iff.2 (List.prefix_or_prefix_of_prefix hp hq)

end Path

namespace Leaf

variable {item data : Json} {path other : Path}

/-! ## Above the place where a path breaks off -/

theorem walk?_above_firstMissing? {broken start : Path} (h : firstMissing? item path = some broken)
    (hstart : start <+: broken) (hne : start ≠ broken) : (item.walk? start).isSome := by
  induction path generalizing item broken start with
  | nil => cases h
  | cons step rest ih =>
    cases start with
    | nil => rfl
    | cons first start =>
      cases hchild : item.child? step with
      | none =>
        simp only [firstMissing?, hchild, Option.some.injEq] at h
        subst h
        obtain ⟨rfl, hnil⟩ := List.cons_prefix_cons.1 hstart
        exact absurd (by rw [List.prefix_nil.1 hnil]) hne
      | some part =>
        simp only [firstMissing?, hchild, Option.map_eq_some_iff] at h
        obtain ⟨below, hbelow, rfl⟩ := h
        obtain ⟨rfl, hbelow'⟩ := List.cons_prefix_cons.1 hstart
        have hne' : start ≠ below := fun heq => hne (heq ▸ rfl)
        simpa [Json.walk?, hchild] using ih hbelow hbelow' hne'

theorem cutPath_begins (item : Json) (path : Path) : cutPath item path <+: path := by
  unfold cutPath
  cases h : firstMissing? item path with
  | none => exact List.prefix_refl _
  | some broken => exact (walk?_of_firstMissing? h).1

/-- A path is written whole, or the item has nothing where it is cut. -/
theorem cutPath_whole_or_missing (item : Json) (path : Path) :
    cutPath item path = path ∨ item.walk? (cutPath item path) = none := by
  unfold cutPath
  cases h : firstMissing? item path with
  | none => exact .inl rfl
  | some broken => exact .inr (walk?_of_firstMissing? h).2

/-- The item has everything above the place where a path is cut. -/
theorem walk?_above_cutPath {start : Path} (hstart : start <+: cutPath item path)
    (hne : start ≠ cutPath item path) : (item.walk? start).isSome := by
  unfold cutPath at hstart hne
  cases h : firstMissing? item path with
  | none =>
    -- the whole path is there, and so is each of its beginnings
    rw [h] at hstart
    obtain ⟨below, rfl⟩ := hstart
    have hwhole := firstMissing?_eq_none.1 h
    rw [Json.walk?_append] at hwhole
    exact Option.isSome_of_isSome_bind hwhole
  | some broken =>
    rw [h] at hstart hne
    exact walk?_above_firstMissing? h hstart hne

/-- Paths that part are cut apart, or at one place. -/
theorem cutPath_eq_of_begins (hapart : path.conflicts other = true → path = other)
    (h : cutPath item path <+: cutPath item other) : cutPath item path = cutPath item other := by
  refine Decidable.byContradiction fun hne => ?_
  have hthere : (item.walk? (cutPath item path)).isSome := walk?_above_cutPath h hne
  rcases cutPath_whole_or_missing item path with hwhole | hmissing
  · have hprefix : path <+: other := hwhole ▸ h.trans (cutPath_begins item other)
    exact hne (congrArg _ (hapart (Path.conflicts_iff.2 (.inl hprefix))))
  · rw [hmissing] at hthere
    cases hthere

/-! ## The cut leaves -/

section Wanted

variable {wanted : List Leaf} {new leaf : Leaf}

/-- Wanted paths are one or part. -/
def Apart (wanted : List Leaf) : Prop :=
  ∀ leaf ∈ wanted, ∀ other ∈ wanted, leaf.path.conflicts other.path = true → leaf.path = other.path

theorem apart_of_flatten {tree : Record Json} (htree : (Json.object tree).isProper = true)
    (h : wanted.map entry = Tree.flatten tree) : Apart wanted := by
  have hpairwise : wanted.Pairwise fun a b => a.path.conflicts b.path = true → a.path = b.path := by
    have hleaves : (wanted.map entry).Pairwise fun a b => a.1.conflicts b.1 = false :=
      h ▸ Tree.pairwise_flatten htree
    refine (List.pairwise_map.1 hleaves).imp fun hapart hconflict => ?_
    exact Bool.noConfusion (hapart.symm.trans hconflict)
  have : Std.Symm fun a b : Leaf => a.path.conflicts b.path = true → a.path = b.path :=
    ⟨fun a b hab hba => (hab (a.path.conflicts_comm b.path ▸ hba)).symm⟩
  exact hpairwise.forall_of_forall fun _ _ _ => rfl

theorem nodup_paths_foldl_addCut {acc : List Leaf} (h : (acc.map (·.path)).Nodup) :
    ((wanted.foldl (addCut item data) acc).map (·.path)).Nodup := by
  induction wanted generalizing acc with
  | nil => exact h
  | cons leaf wanted ih =>
    by_cases hold : cutPath item leaf.path ∈ acc.map (·.path)
    · exact ih (by rwa [addCut_of_mem data hold])
    · refine ih ?_
      rw [addCut_of_not_mem data hold, List.map_append, List.map_singleton, path_cutOne]
      refine List.nodup_append.2 ⟨h, List.pairwise_singleton _ _, ?_⟩
      rintro path hpath _ hlast rfl
      exact hold (List.mem_singleton.1 hlast ▸ hpath)

/-- The cut leaves lie apart. -/
theorem pairwise_cut (item data : Json) (h : Apart wanted) :
    (cut item data wanted).Pairwise fun a b => a.path.conflicts b.path = false := by
  have hpaths : ((cut item data wanted).map (·.path)).Nodup :=
    nodup_paths_foldl_addCut List.nodup_nil
  refine (List.pairwise_map.1 hpaths).imp_of_mem ?_
  intro a b ha hb hne
  obtain ⟨leaf, hleaf, rfl⟩ := exists_of_mem_cut ha
  obtain ⟨other, hother, rfl⟩ := exists_of_mem_cut hb
  rw [path_cutOne, path_cutOne] at hne ⊢
  refine Bool.eq_false_iff.2 fun hconflict => ?_
  rcases Path.conflicts_iff.1 hconflict with hle | hle
  · exact hne (cutPath_eq_of_begins (h leaf hleaf other hother) hle)
  · exact hne (cutPath_eq_of_begins (h other hother leaf hleaf) hle).symm

/-- Of leaves that lie apart, a path leads through one at most. -/
theorem filter_through_eq {leaves : List Leaf}
    (h : leaves.Pairwise fun a b => a.path.conflicts b.path = false) (hleaf : leaf ∈ leaves)
    (hthrough : leaf.path <+: path) :
    leaves.filter (fun l => l.path.isPrefixOf path) = [leaf] := by
  obtain ⟨before, after, rfl⟩ := List.append_of_mem hleaf
  obtain ⟨-, hafter, hbefore⟩ := List.pairwise_append.1 h
  refine List.filter_eq_cons_iff.2 ⟨before, after, rfl, ?_, by simpa using hthrough, ?_⟩
  · intro other hother hpath
    have hconflict : other.path.conflicts leaf.path = true :=
      Path.conflicts_of_begins (List.isPrefixOf_iff_prefix.1 hpath) hthrough
    exact Bool.noConfusion ((hbefore other hother leaf (.head _)).symm.trans hconflict)
  · refine List.filter_eq_nil_iff.2 fun other hother hpath => ?_
    have hconflict : leaf.path.conflicts other.path = true :=
      Path.conflicts_of_begins hthrough (List.isPrefixOf_iff_prefix.1 hpath)
    exact Bool.noConfusion (((List.pairwise_cons.1 hafter).1 other hother).symm.trans hconflict)

/-- Each wanted path leads through one cut leaf. -/
theorem exists_filter_cut_eq (item data : Json) (h : Apart wanted) (hleaf : leaf ∈ wanted) :
    ∃ new, (cut item data wanted).filter (fun l => l.path.isPrefixOf leaf.path) = [new] := by
  have hmem : cutPath item leaf.path ∈ (cut item data wanted).map (·.path) := by
    rw [paths_cut, List.mem_eraseDups]
    exact List.mem_map_of_mem hleaf
  obtain ⟨new, hnew, hpath⟩ := List.mem_map.1 hmem
  have hthrough : new.path <+: leaf.path := hpath ▸ cutPath_begins item leaf.path
  exact ⟨new, filter_through_eq (pairwise_cut item data h) hnew hthrough⟩

/-- A cut leaf has the data at its path, if all wanted paths lead to data. -/
theorem walk?_of_mem_cut (hdata : ∀ leaf ∈ wanted, (data.walk? leaf.path).isSome)
    (hnew : new ∈ cut item data wanted) : data.walk? new.path = some new.value := by
  obtain ⟨leaf, hleaf, rfl⟩ := exists_of_mem_cut hnew
  have hentry := entry_cutOne item data leaf
  obtain ⟨below, hbelow⟩ := cutPath_begins item leaf.path
  have hsome := hdata leaf hleaf
  rw [← hbelow, Json.walk?_append] at hsome
  obtain ⟨value, hvalue⟩ := Option.isSome_iff_exists.1 (Option.isSome_of_isSome_bind hsome)
  rw [path_cutOne, hvalue]
  rw [entryAt, hvalue] at hentry
  exact congrArg some (congrArg Prod.snd hentry).symm

end Wanted

end Leaf

/-! ## Where clauses write -/

/-- Where an action writes. -/
def Instruction.target {α : Type} : Instruction α → Path
  | .assign target _ => target
  | .append target _ _ => target
  | .add target _ => target
  | .remove target => target
  | .delete target _ => target

/-- Where clauses write, each place with the mode of its clause. -/
def UpdateGrammar.targets {α : Type} (clauses : List (UpdateGrammar.Clause α)) :
    List (UpdateMode × Path) :=
  clauses.flatMap fun clause => clause.2.map fun action => (clause.1, action.target)

/-- Where groups of leaves ask to write. -/
def Leaf.targets (groups : List (UpdateMode × List Leaf)) : List (UpdateMode × Path) :=
  groups.flatMap fun group => group.2.map fun leaf => (group.1, leaf.path)

section Clauses

variable {store : Path → Json → Except ConversionError StoreValue}
  {groups : List (UpdateMode × List Leaf)}

theorem Leaf.Asks.target_eq {leaf : Leaf} {mode : UpdateMode} {meant : Instruction StoreValue}
    (h : leaf.Asks store mode meant) : meant.target = leaf.path := by
  cases h <;> rfl

theorem Leaf.targets_filter (groups : List (UpdateMode × List Leaf)) :
    targets (groups.filter fun group => !group.2.isEmpty) = targets groups := by
  induction groups with
  | nil => rfl
  | cons group rest ih =>
    obtain ⟨mode, leaves⟩ := group
    cases leaves with
    | nil => exact ih
    | cons leaf leaves => exact congrArg (_ ++ ·) ih

namespace UpdatePlan

theorem targets_of_means {meant : List (UpdateGrammar.Clause StoreValue)}
    (h : List.Forall₂ (Means store) groups meant) :
    UpdateGrammar.targets meant = Leaf.targets groups := by
  induction h with
  | nil => rfl
  | @cons group clause groups meant hmeans _ ih =>
    obtain ⟨mode, leaves⟩ := group
    obtain ⟨clauseMode, actions⟩ := clause
    obtain ⟨hmode, hactions⟩ := hmeans
    dsimp only at hmode hactions
    subst hmode
    have hclause : actions.map (fun action => (clauseMode, action.target)) =
        leaves.map fun leaf => (clauseMode, leaf.path) := by
      clear ih
      induction hactions with
      | nil => rfl
      | cons hasks _ ih => rw [List.map_cons, List.map_cons, hasks.target_eq, ih]
    exact congrArg₂ (· ++ ·) hclause ih

theorem modes_of_means {meant : List (UpdateGrammar.Clause StoreValue)}
    (h : List.Forall₂ (Means store) groups meant) : meant.map (·.1) = groups.map (·.1) := by
  induction h with
  | nil => rfl
  | cons hmeans _ ih => rw [List.map_cons, List.map_cons, hmeans.1, ih]

/-- The clauses of a compiled plan are not empty, and their actions can be written. -/
theorem writable_of_compile {plan : UpdatePlan} (h : compile store groups = .ok plan)
    (hpaths : ∀ group ∈ groups, ∀ leaf ∈ group.2, ∃ name rest, leaf.path = .key name :: rest) :
    ∀ clause ∈ plan.clauses, clause.2 ≠ [] ∧ ∀ action ∈ clause.2, IsWritable clause.1 action := by
  intro clause hclause
  obtain ⟨group, hgroup, hmode, hactions⟩ :=
    exists_of_mem_right (compiles_of_compile h) clause hclause
  obtain ⟨hgroup, hsome⟩ := List.mem_filter.1 hgroup
  constructor
  · intro hnil
    rw [hnil, List.forall₂_nil_right_iff] at hactions
    rw [hactions] at hsome
    cases hsome
  · intro action haction
    obtain ⟨leaf, hleaf, hof⟩ := exists_of_mem_right hactions action haction
    obtain ⟨haction, hpath⟩ := Action.of_ofLeaf hof
    obtain ⟨name, rest, hname⟩ := hpaths group hgroup leaf hleaf
    exact ⟨haction.trans hmode.symm, name, rest, hpath.trans hname⟩

/-- The text of a compiled plan, read back, does what the groups ask for. -/
theorem means_of_compile {plan : UpdatePlan} (h : compile store groups = .ok plan)
    (hpaths : ∀ group ∈ groups, ∀ leaf ∈ group.2, ∃ name rest, leaf.path = .key name :: rest) :
    ∃ clauses meant, UpdateGrammar.read plan.text = some clauses ∧
      UpdateGrammar.meaning? plan.names.table plan.values clauses = some meant ∧
      List.Forall₂ (Means store) (groups.filter fun group => !group.2.isEmpty) meant := by
  have hcovers : ∀ action ∈ plan.clauses.flatMap (·.2), plan.names.Covers action.path :=
    fun action haction => Names.covers_seePaths Names.empty _ (List.mem_map_of_mem haction)
  have hvalues : Lists plan.values 0 (plan.clauses.flatMap (·.2)) := fun i v hv => by
    rw [Nat.zero_add]
    exact Record.get?_numbered (fun _ _ => Placeholder.value_inj) hv
  obtain ⟨meant, hmeant, hmeans⟩ := means_of_clauses (compiles_of_compile h) hcovers hvalues
  exact ⟨_, meant, plan.read_text (writable_of_compile h hpaths), hmeant, hmeans⟩

end UpdatePlan

end Clauses

/-! ## The retry -/

namespace Write

variable {write : Write} {item : Record Json}

/-- The two clauses write the leaves, each in the clause that is its own. -/
theorem targets_recoveryGroups (write : Write) (item : Record Json) :
    (Leaf.targets (write.recoveryGroups item)).Perm
      ((write.retryLeaves item).map fun leaf => (write.retryMode leaf.path, leaf.path)) := by
  let kept (leaf : Leaf) : Bool := write.mode != .set && write.paths.contains leaf.path
  have hcut : ((write.retryLeaves item).filter fun leaf => !kept leaf).map
        (fun leaf => (UpdateMode.set, leaf.path)) =
      ((write.retryLeaves item).filter fun leaf => !kept leaf).map
        fun leaf => (write.retryMode leaf.path, leaf.path) := by
    refine List.map_congr_left fun leaf hleaf => ?_
    have hnot : kept leaf = false := by simpa using (List.mem_filter.1 hleaf).2
    rw [retryMode, if_neg fun hkept => Bool.noConfusion (hnot.symm.trans hkept)]
  have hkept : ((write.retryLeaves item).filter kept).map
        (fun leaf => (write.mode, leaf.path)) =
      ((write.retryLeaves item).filter kept).map
        fun leaf => (write.retryMode leaf.path, leaf.path) := by
    refine List.map_congr_left fun leaf hleaf => ?_
    rw [retryMode, if_pos (List.mem_filter.1 hleaf).2]
  have htargets : Leaf.targets (write.recoveryGroups item) =
      ((write.retryLeaves item).filter fun leaf => !kept leaf).map
          (fun leaf => (UpdateMode.set, leaf.path)) ++
        (((write.retryLeaves item).filter kept).map (fun leaf => (write.mode, leaf.path)) ++ []) :=
    rfl
  rw [htargets, hcut, hkept, List.append_nil, ← List.map_append]
  exact (List.perm_append_comm.trans (List.filter_append_perm kept _)).map _

theorem mem_retryLeaves_of_group {group : UpdateMode × List Leaf}
    (hgroup : group ∈ write.recoveryGroups item) {leaf : Leaf} (hleaf : leaf ∈ group.2) :
    leaf ∈ write.retryLeaves item := by
  rcases List.mem_cons.1 hgroup with rfl | hgroup
  · exact (List.mem_filter.1 hleaf).1
  · obtain rfl := List.mem_singleton.1 hgroup
    exact (List.mem_filter.1 hleaf).1

/-- A target on the way to a wanted path is written in the write's own clause if it is that path,
and else set. -/
theorem retryMode_of_begins (hapart : Leaf.Apart write.leaves) {target path : Path}
    (hpath : path ∈ write.paths) (h : target <+: path) :
    write.retryMode target = if target = path then write.mode else .set := by
  unfold retryMode
  by_cases heq : target = path
  · subst heq
    rw [if_pos rfl, List.contains_iff_mem.2 hpath, Bool.and_true]
    by_cases hmode : write.mode = .set
    · simp [hmode]
    · rw [if_pos (by simpa using hmode)]
  · rw [if_neg heq, if_neg]
    intro hkept
    have htarget : target ∈ write.paths := List.contains_iff_mem.1 (Bool.and_eq_true_iff.1 hkept).2
    obtain ⟨leaf, hleaf, rfl⟩ := List.mem_map.1 htarget
    obtain ⟨other, hother, rfl⟩ := List.mem_map.1 hpath
    exact heq (hapart leaf hleaf other hother (Path.conflicts_iff.2 (.inl h)))

section

variable {leaf : Leaf} {path : Path}

/-- The path that a retry writes to starts with the name of an attribute. -/
theorem name_of_mem_retryLeaves (hleaves : write.leaves.map Leaf.entry = Tree.flatten write.data)
    (hleaf : leaf ∈ write.retryLeaves item) : ∃ name rest, leaf.path = .key name :: rest := by
  obtain ⟨wanted, hwanted, rfl⟩ := Leaf.exists_of_mem_cut hleaf
  have hflat : (wanted.path, wanted.value) ∈ Tree.flatten write.data :=
    hleaves ▸ List.mem_map_of_mem hwanted
  obtain ⟨name, -, rest, hrest⟩ := Tree.name_of_mem_flatten hflat
  obtain ⟨below, hbelow⟩ := Leaf.cutPath_cons (.object item) (.key name) rest
  exact ⟨name, below, by rw [Leaf.path_cutOne, ← hbelow, ← hrest]⟩

/-- A retry writes the data that stand at its paths. -/
theorem walk?_of_mem_retryLeaves (hdata : (Json.object write.data).isProper = true)
    (hleaves : write.leaves.map Leaf.entry = Tree.flatten write.data)
    (hleaf : leaf ∈ write.retryLeaves item) :
    (Json.object write.data).walk? leaf.path = some leaf.value := by
  refine Leaf.walk?_of_mem_cut (fun wanted hwanted => ?_) hleaf
  have hflat : (wanted.path, wanted.value) ∈ Tree.flatten write.data :=
    hleaves ▸ List.mem_map_of_mem hwanted
  rw [Tree.walk?_of_mem_flatten hdata hflat]
  rfl

/-- A retry writes on the way to wanted paths, where the item has all that is above, and only at
whole ones where it has something already. -/
theorem place_of_mem_retryLeaves (hleaf : leaf ∈ write.retryLeaves item) :
    (∃ path ∈ write.paths, leaf.path <+: path) ∧
      (∀ start, start <+: leaf.path → start ≠ leaf.path →
        ((Json.object item).walk? start).isSome) ∧
      ((Json.object item).walk? leaf.path = none ∨ leaf.path ∈ write.paths) := by
  obtain ⟨wanted, hwanted, rfl⟩ := Leaf.exists_of_mem_cut hleaf
  have hpath : wanted.path ∈ write.paths := List.mem_map_of_mem hwanted
  rw [Leaf.path_cutOne]
  refine ⟨⟨wanted.path, hpath, Leaf.cutPath_begins _ _⟩,
    fun start => Leaf.walk?_above_cutPath, ?_⟩
  rcases Leaf.cutPath_whole_or_missing (.object item) wanted.path with hwhole | hmissing
  · exact .inr (hwhole.symm ▸ hpath)
  · exact .inl hmissing

theorem exists_filter_retryLeaves (item : Record Json) (hapart : Leaf.Apart write.leaves)
    (hpath : path ∈ write.paths) :
    ∃ leaf, (write.retryLeaves item).filter (fun leaf => leaf.path.isPrefixOf path) = [leaf] := by
  obtain ⟨wanted, hwanted, rfl⟩ := List.mem_map.1 hpath
  exact Leaf.exists_filter_cut_eq _ _ hapart hwanted

/-- Clauses with the targets of a retry write each wanted path once. -/
theorem exists_filter_targets (hapart : Leaf.Apart write.leaves) (hpath : path ∈ write.paths)
    {targets : List (UpdateMode × Path)} (htargets : targets.Perm
      ((write.retryLeaves item).map fun leaf => (write.retryMode leaf.path, leaf.path))) :
    ∃ target, targets.filter (fun t => t.2.isPrefixOf path) =
      [(if target = path then write.mode else .set, target)] := by
  obtain ⟨leaf, hleaf⟩ := exists_filter_retryLeaves item hapart hpath
  have hthrough : leaf.path <+: path := by
    have hmem := (List.mem_filter.1 (hleaf ▸ List.mem_singleton_self leaf)).2
    exact List.isPrefixOf_iff_prefix.1 hmem
  refine ⟨leaf.path, List.perm_singleton.1 ?_⟩
  refine (htargets.filter _).trans (.of_eq ?_)
  rw [List.filter_map, ← retryMode_of_begins hapart hpath hthrough]
  exact congrArg (List.map _) hleaf

end

/-- Where a retry writes. Its targets lie apart; each lies on the way to a path that is wanted, has
all above it in the item that was read, is missing there unless it is wanted whole, and gets the
data that stand at it. Each wanted path leads through one of them; and the expression, read back,
has at most a setting clause and the write's own one, and writes each wanted path once: in the
setting clause where it was cut above its end, else in the write's own. -/
theorem retry_targets (write : Write) (item : Record Json)
    (hdata : (Json.object write.data).isProper = true)
    (hleaves : write.leaves.map Leaf.entry = Tree.flatten write.data) :
    (write.retryLeaves item).Pairwise (fun a b => a.path.conflicts b.path = false) ∧
      (∀ leaf ∈ write.retryLeaves item,
        leaf.path ≠ [] ∧ (∃ path ∈ write.paths, leaf.path <+: path) ∧
        (∀ start, start <+: leaf.path → start ≠ leaf.path →
          ((Json.object item).walk? start).isSome) ∧
        ((Json.object item).walk? leaf.path = none ∨ leaf.path ∈ write.paths) ∧
        (Json.object write.data).walk? leaf.path = some leaf.value) ∧
      (∀ path ∈ write.paths, ∃ leaf,
        (write.retryLeaves item).filter (fun leaf => leaf.path.isPrefixOf path) = [leaf]) ∧
      ∀ plan, write.plan (write.recoveryGroups item) = .ok plan →
        ∃ clauses meant, UpdateGrammar.read plan.text = some clauses ∧
          UpdateGrammar.meaning? plan.names.table plan.values clauses = some meant ∧
          (meant.map (·.1)).Sublist [.set, write.mode] ∧
          ∀ path ∈ write.paths, ∃ target,
            (UpdateGrammar.targets meant).filter (fun t => t.2.isPrefixOf path) =
              [(if target = path then write.mode else .set, target)] := by
  have hapart : Leaf.Apart write.leaves := Leaf.apart_of_flatten hdata hleaves
  have hname : ∀ leaf ∈ write.retryLeaves item, ∃ name rest, leaf.path = .key name :: rest :=
    fun leaf => name_of_mem_retryLeaves hleaves
  refine ⟨Leaf.pairwise_cut _ _ hapart, ?_, fun path => exists_filter_retryLeaves item hapart, ?_⟩
  · intro leaf hleaf
    obtain ⟨name, rest, hrest⟩ := hname leaf hleaf
    obtain ⟨hway, habove, hend⟩ := place_of_mem_retryLeaves hleaf
    exact ⟨hrest ▸ List.cons_ne_nil _ _, hway, habove, hend,
      walk?_of_mem_retryLeaves hdata hleaves hleaf⟩
  · intro plan hplan
    obtain ⟨clauses, meant, hread, hmeant, hmeans⟩ := UpdatePlan.means_of_compile hplan
      fun group hgroup leaf hleaf => hname leaf (mem_retryLeaves_of_group hgroup hleaf)
    have htargets : (UpdateGrammar.targets meant).Perm
        ((write.retryLeaves item).map fun leaf => (write.retryMode leaf.path, leaf.path)) := by
      rw [UpdatePlan.targets_of_means hmeans, Leaf.targets_filter]
      exact write.targets_recoveryGroups item
    refine ⟨clauses, meant, hread, hmeant, ?_,
      fun path hpath => exists_filter_targets hapart hpath htargets⟩
    rw [UpdatePlan.modes_of_means hmeans]
    exact List.filter_sublist.map _

/-- An addition to four sets. -/
def addition : Write where
  table := ⟨"T", "P-T", .simple "id", .free ["id"]⟩
  key := ⟨⟨"id", .string "a"⟩, none⟩
  mode := .add
  data :=
    [("m", .object [("s", .strings ["x"]), ("t", .strings ["y"])]),
      ("n", .object [("p", .strings ["z"]), ("q", .strings ["w"])])]
  leaves :=
    [⟨[.key "m", .key "s"], .strings ["x"], false⟩, ⟨[.key "m", .key "t"], .strings ["y"], false⟩,
      ⟨[.key "n", .key "p"], .strings ["z"], false⟩, ⟨[.key "n", .key "q"], .strings ["w"], false⟩]
  guards := .free
  condition := none
  returns := .none

/-- An item with one of the sets, and with one of the two maps that hold them. -/
def halfItem : Record Json := [("id", .string "a"), ("m", .object [("s", .strings ["v"])])]

/-- Two sets are added to again, the missing one too; the map of the other two is set whole. -/
theorem retry_targets_addition :
    (Json.object addition.data).isProper = true ∧
      addition.leaves.map Leaf.entry = Tree.flatten addition.data ∧
      (addition.retryLeaves halfItem).map (fun leaf => (addition.retryMode leaf.path, leaf.path)) =
        [(.add, [.key "m", .key "s"]), (.add, [.key "m", .key "t"]), (.set, [.key "n"])] ∧
      ∃ plan, addition.plan (addition.recoveryGroups halfItem) = .ok plan ∧
        ∃ clauses meant, UpdateGrammar.read plan.text = some clauses ∧
          UpdateGrammar.meaning? plan.names.table plan.values clauses = some meant ∧
          (meant.map (·.1)).Sublist [.set, addition.mode] ∧
          ∀ path ∈ addition.paths, ∃ target,
            (UpdateGrammar.targets meant).filter (fun t => t.2.isPrefixOf path) =
              [(if target = path then addition.mode else .set, target)] := by
  have hproper : (Json.object addition.data).isProper = true := by decide
  have hleaves : addition.leaves.map Leaf.entry = Tree.flatten addition.data := rfl
  obtain ⟨-, -, -, htext⟩ := retry_targets addition halfItem hproper hleaves
  exact ⟨hproper, hleaves, by decide +kernel, _, rfl, htext _ rfl⟩

end Write

end ItemTable
