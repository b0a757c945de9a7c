import ItemTable.Proofs.Schema.Parts
import ItemTable.Proofs.StoreValue.ReadBack
import ItemTable.Proofs.Table.Changes
import ItemTable.Proofs.Write.Retry

set_option autoImplicit false

/-! # Sets that are added to

An update that adds to sets sends a set for every leaf of its data, and if it is made again, the
same set for every leaf that the item has a place for. A leaf below a map that the item lacks is
part of the map that is set, and stands there as the rules store it: as the same set where they
store it as a set, and as something else where only the update made it one
(`Table.addToSets_retry`). -/

namespace ItemTable

open Traversal (map_eq_ok)

/-! ## Sets of elements -/

/-- The elements of a leaf are sent as a set, and as the stored form of the leaf if that is one. -/
theorem Action.setValue_eq_ok {store : Path → Json → Except ConversionError StoreValue}
    {leaf : Leaf} {set : StoreValue} (h : setValue store leaf = .ok set) :
    set.isSet = true ∧ ∃ stored, store leaf.path leaf.value = .ok stored ∧
      (stored = set ↔ stored.isSet = true) := by
  unfold setValue at h
  cases hstored : store leaf.path leaf.value with
  | error e =>
    rw [hstored] at h
    cases h
  | ok stored =>
    rw [hstored] at h
    simp only [bind, Except.bind] at h
    by_cases hset : stored.isSet = true
    · rw [if_pos hset] at h
      cases h
      exact ⟨hset, _, rfl, ⟨fun _ => hset, fun _ => rfl⟩⟩
    · rw [if_neg hset] at h
      have hisSet := StoreValue.isSet_of_setOfJson h
      refine ⟨hisSet, stored, rfl, ?_, fun h => absurd h hset⟩
      rintro rfl
      exact hisSet

/-! ## Adding again -/

namespace Table

variable {table : Table} {key : Key} {data : Record Json} {options : UpdateOptions}

/-- The write of an update that adds to sets. -/
abbrev addWrite (table : Table) (key : Key) (data : Record Json) (options : UpdateOptions) :
    Write :=
  table.updateWrite key .add data false .free options

/-- A leaf has no leaves below: what leads further down from its end leads to no leaf. -/
theorem not_mem_paths_of_below (hdata : (Json.object data).isProper = true) {path below : Path}
    {value : Json} (h : (path ++ below, value) ∈ Tree.flatten data) (hbelow : below ≠ []) :
    path ∉ (Tree.flatten data).map (·.1) := by
  intro hmem
  obtain ⟨leaf, hleaf, rfl⟩ := List.mem_map.1 hmem
  obtain ⟨step, rest, rfl⟩ := List.exists_cons_of_ne_nil hbelow
  have hkey : step.isKey = true := (Tree.keys_of_mem_flatten h).1 step (by simp)
  have hwalk := Tree.walk?_of_mem_flatten hdata h
  rw [Json.walk?_append, Tree.walk?_of_mem_flatten hdata hleaf, Option.bind_some] at hwalk
  cases step with
  | position index => cases hkey
  | key name =>
    rw [Json.walk?, Json.child?, (Tree.keys_of_mem_flatten hleaf).2 name] at hwalk
    cases hwalk

/-- The first request adds a set for every leaf. -/
theorem add_of_attempt {plan : UpdatePlan}
    (hplan : (table.addWrite key data options).plan
      [(.add, (table.addWrite key data options).leaves)] = .ok plan)
    {path : Path} {value : Json} (h : (path, value) ∈ Tree.flatten data) :
    ∃ set, Action.setValue table.rules.storeValue ⟨path, value, false⟩ = .ok set ∧
      ⟨.add, path, false, some set⟩ ∈ plan.actions := by
  have hleaf : (⟨path, value, false⟩ : Leaf) ∈ (table.addWrite key data options).leaves :=
    List.mem_map.2 ⟨_, h, rfl⟩
  obtain ⟨action, haction, hof⟩ :=
    UpdatePlan.exists_action hplan (List.mem_singleton.2 rfl) hleaf
  obtain ⟨set, hset, rfl⟩ := map_eq_ok hof
  exact ⟨set, hset, haction⟩

section

variable {item : Record Json} {plan : UpdatePlan}
  (hplan : (table.addWrite key data options).plan
    ((table.addWrite key data options).recoveryGroups item) = .ok plan)
  (hdata : (Json.object data).isProper = true)

include hplan hdata

/-- A leaf that the item has a place for is added again. -/
theorem add_of_retry {path : Path} {value : Json} (h : (path, value) ∈ Tree.flatten data)
    (hkept : Leaf.cutPath (.object item) path = path) {set : StoreValue}
    (hset : Action.setValue table.rules.storeValue ⟨path, value, false⟩ = .ok set) :
    ⟨.add, path, false, some set⟩ ∈ plan.actions := by
  have hleaf : (⟨path, value, false⟩ : Leaf) ∈ (table.addWrite key data options).leaves :=
    List.mem_map.2 ⟨_, h, rfl⟩
  have hpaths : ((table.addWrite key data options).leaves.map (·.path)).Nodup := by
    have hmap : (table.addWrite key data options).leaves.map (·.path) =
        (Tree.flatten data).map (·.1) := List.map_map
    exact hmap ▸ Tree.nodup_paths_flatten hdata
  have hcut : Leaf.cutOne (.object item) (.object data) ⟨path, value, false⟩ =
      ⟨path, value, false⟩ := Leaf.cutOne_of_kept hkept (Tree.walk?_of_mem_flatten hdata h)
  have hmem : (⟨path, value, false⟩ : Leaf) ∈
      (table.addWrite key data options).retryLeaves item :=
    hcut ▸ Leaf.cutOne_mem_cut_of_nodup hleaf hpaths
  obtain ⟨action, haction, hof⟩ := Write.exists_retry_action hplan hmem
  have hmode : (table.addWrite key data options).retryMode path = .add := by
    have hpath : path ∈ (table.addWrite key data options).paths := List.mem_map.2 ⟨_, hleaf, rfl⟩
    have hmode : (table.addWrite key data options).mode = .add := rfl
    simp [Write.retryMode, hmode, hpath]
  rw [hmode] at hof
  obtain ⟨set', hset', rfl⟩ := map_eq_ok hof
  obtain rfl : set = set' := Except.ok.inj (hset.symm.trans hset')
  exact haction

/-- Of a leaf below a map that the item lacks, the retry sets the stored form within the map. -/
theorem set_of_retry (hparts : StoresByParts table.rules.storeValue) {path : Path} {value : Json}
    (h : (path, value) ∈ Tree.flatten data)
    (hcut : Leaf.cutPath (.object item) path ≠ path) :
    ∃ broken below whole part, path = broken ++ below ∧ below ≠ [] ∧
      Leaf.firstMissing? (.object item) path = some broken ∧
      ⟨.set, broken, false, some whole⟩ ∈ plan.actions ∧
      whole.walk? below = some part ∧ table.rules.storeValue path value = .ok part := by
  cases hbroken : Leaf.firstMissing? (.object item) path with
  | none => exact absurd (by rw [Leaf.cutPath, hbroken]; rfl) hcut
  | some broken =>
    obtain ⟨⟨below, rfl⟩, -⟩ := Leaf.walk?_of_firstMissing? hbroken
    have hbelow : below ≠ [] := by
      rintro rfl
      rw [Leaf.cutPath, hbroken] at hcut
      simp at hcut
    have hleaf : (⟨broken ++ below, value, false⟩ : Leaf) ∈
        (table.addWrite key data options).leaves := List.mem_map.2 ⟨_, h, rfl⟩
    obtain ⟨whole, ⟨hset, hwhole⟩ | ⟨-, hpath, -⟩⟩ :=
      Write.retry_action_of_missing (.inr rfl) hplan hleaf hbroken
    · have hwalk := Tree.walk?_of_mem_flatten hdata h
      rw [Json.walk?_append] at hwalk
      obtain ⟨subtree, hsubtree, hbelowwalk⟩ := Option.bind_eq_some_iff.1 hwalk
      have hstored : table.rules.storeValue broken subtree = .ok whole := by
        rw [← hwhole]
        exact congrArg _ (congrArg (Option.getD · Json.null) hsubtree).symm
      have hkeys : ∀ step ∈ below, step.isKey = true := fun step hstep =>
        (Tree.keys_of_mem_flatten h).1 step (List.mem_append_right _ hstep)
      obtain ⟨part, hpart, hvalue⟩ := hparts.walk? hkeys hstored hbelowwalk
      exact ⟨broken, below, whole, part, rfl, hbelow, rfl, hset, hpart, hvalue⟩
    · -- a leaf of the data has no leaf below, so the caller has no path where this one breaks off
      refine absurd ?_ (not_mem_paths_of_below hdata h hbelow)
      obtain ⟨leaf, hleaf, hpath⟩ := List.mem_map.1 hpath
      obtain ⟨entry, hentry, rfl⟩ := List.mem_map.1 hleaf
      exact List.mem_map.2 ⟨entry, hentry, hpath⟩

end

/-- Rules that a table can have store objects by their parts. -/
theorem storesByParts_rules
    (hrules : (∃ schema, table.rules = .ofSchema schema) ∨
      ∃ primaryKey, table.rules = .free primaryKey) :
    StoresByParts table.rules.storeValue := by
  rcases hrules with ⟨schema, hrules⟩ | ⟨primaryKey, hrules⟩
  · rw [hrules]
    exact schema.storesByParts_storeValue
  · rw [hrules]
    exact Rules.storesByParts_free primaryKey

/-- An update that adds to sets sends a set for every leaf. Made again, it adds the same set where
the item has a place for the leaf. Where a map is missing, it sets the map, and at the leaf's place
in it stands what the rules store for the leaf: the same set exactly if the rules make it a set. -/
theorem addToSets_retry {σ : Type} (store : Store σ) (state : σ) (table : Table)
    (hrules : (∃ schema, table.rules = .ofSchema schema) ∨
      ∃ primaryKey, table.rules = .free primaryKey)
    (input : KeyInput) (data : Record Json) (options : UpdateOptions)
    (hdata : (Json.object data).isProper = true)
    {before after : List Round} {round : Round} {request : UpdateRequest}
    (hrounds : (table.addToSets input data options).rounds store state = before ++ round :: after)
    (hbefore : before ≠ []) (hrequest : round.request = .update request) :
    ∃ key plan item plan', table.key input = .ok key ∧
      (table.addWrite key data options).Again before request plan item plan' ∧
      request.update = plan'.text ∧
      ∀ path value, (path, value) ∈ Tree.flatten data →
        ∃ set, set.isSet = true ∧ ⟨.add, path, false, some set⟩ ∈ plan.actions ∧
          (Leaf.cutPath (.object item) path = path ∧
              ⟨.add, path, false, some set⟩ ∈ plan'.actions ∨
            ∃ broken below whole part, path = broken ++ below ∧ below ≠ [] ∧
              Leaf.firstMissing? (.object item) path = some broken ∧
              ⟨.set, broken, false, some whole⟩ ∈ plan'.actions ∧
              whole.walk? below = some part ∧ table.rules.storeValue path value = .ok part ∧
              (part = set ↔ part.isSet = true)) := by
  have hyields : (table.update input .add data false .free options).Yields
      ((table.addToSets input data options).rounds store state) _ :=
    (table.addToSets input data options).yields_rounds store state
  rw [hrounds] at hyields
  rcases yields_update hyields with hnil | ⟨key, hkey, hruns⟩
  · simp at hnil
  · obtain ⟨plan, item, plan', hagain⟩ := Write.again_of_yields hruns.run rfl hbefore hrequest
    refine ⟨key, plan, item, plan', hkey, hagain, by rw [hagain.request]; rfl, ?_⟩
    intro path value hleaf
    obtain ⟨set, hset, hattempt⟩ := add_of_attempt hagain.compiled hleaf
    obtain ⟨hisSet, stored, hstored, hsame⟩ := Action.setValue_eq_ok hset
    refine ⟨set, hisSet, hattempt, ?_⟩
    by_cases hkept : Leaf.cutPath (.object item) path = path
    · exact .inl ⟨hkept, add_of_retry hagain.recompiled hdata hleaf hkept hset⟩
    · obtain ⟨broken, below, whole, part, hpath, hbelow, hbroken, haction, hwalk, hpart⟩ :=
        set_of_retry hagain.recompiled hdata (storesByParts_rules hrules) hleaf hkept
      obtain rfl : stored = part := Except.ok.inj (hstored.symm.trans hpart)
      exact .inr ⟨broken, below, whole, stored, hpath, hbelow, hbroken, haction, hwalk, hpart,
        hsame⟩

/-- A table without a schema. -/
def freeTable : Table := ⟨"T", "P-T", .simple "id", .free ["id"]⟩

/-- A set within a map. -/
def nestedSet : Record Json := [("a", .object [("s", .strings ["x"])])]

/-- The rounds of adding the set to an item without the map. -/
def nestedSetRounds : List Round :=
  (freeTable.addToSets (.scalar (.string "a")) nestedSet ⟨false, false, false, none, .none⟩).rounds
    scripted Write.mapless

theorem addToSets_retry_nestedSet :
    (∃ primaryKey, freeTable.rules = .free primaryKey) ∧
      (Json.object nestedSet).isProper = true ∧
      ∃ before round after request, nestedSetRounds = before ++ round :: after ∧ before ≠ [] ∧
        round.request = .update request ∧
        ∃ key plan item plan', freeTable.key (.scalar (.string "a")) = .ok key ∧
          (freeTable.addWrite key nestedSet ⟨false, false, false, none, .none⟩).Again
            before request plan item plan' := by
  have hrules : ∃ primaryKey, freeTable.rules = .free primaryKey := ⟨_, rfl⟩
  have hdata : (Json.object nestedSet).isProper = true := by decide
  obtain ⟨before, round, after, request, hrounds, hbefore, hrequest⟩ := Round.exists_update_at
    (show (nestedSetRounds[2]?.bind Round.update?).isSome = true by decide +kernel)
  have hne : before ≠ [] := by
    rintro rfl
    cases hbefore
  obtain ⟨key, plan, item, plan', hkey, hagain, -⟩ := addToSets_retry scripted Write.mapless
    freeTable (.inr hrules) (.scalar (.string "a")) nestedSet ⟨false, false, false, none, .none⟩
    hdata hrounds hne hrequest
  exact ⟨hrules, hdata, before, round, after, request, hrounds, hne, hrequest, key, plan, item,
    plan', hkey, hagain⟩

/-- The set that the first update adds is a list in the map that the second one sets. -/
theorem nestedSet_becomes_list : (nestedSetRounds.filterMap Round.update?).map
      (fun request => (request.update, request.terms.values)) =
    [("add #AA.#AB :aa", [(":aa", StoreValue.stringSet ["x"])]),
      ("set #AA = :aa",
        [(":aa", StoreValue.map [("s", StoreValue.list [StoreValue.string "x"])])])] := rfl

end Table

end ItemTable
