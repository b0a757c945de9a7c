import ItemTable.Proofs.Traversal
import ItemTable.Proofs.Tree.Cut
import ItemTable.Proofs.Write.Guards

set_option autoImplicit false

/-! # What a write makes anew

After a missing path the item is read, and the update is made again for what the item lacks. A path
that breaks off in the item that was read is written where it breaks off: whole, or by its own
clause if it is one of the caller's and the write adds. Another client may have written there in
between. `Write.run_retry_guards` says which writes notice it: the ones that ask for missing paths,
and no others. -/

namespace ItemTable

open Traversal (forall₂_of_mapM exists_of_mem_left map_eq_ok)

/-! ## The actions of a plan -/

/-- A plan has an action for every leaf of every group. -/
theorem UpdatePlan.exists_action {store : Path → Json → Except ConversionError StoreValue}
    {groups : List (UpdateMode × List Leaf)} {plan : UpdatePlan}
    (h : compile store groups = .ok plan) {mode : UpdateMode} {leaves : List Leaf} {leaf : Leaf}
    (hgroup : (mode, leaves) ∈ groups) (hleaf : leaf ∈ leaves) :
    ∃ action ∈ plan.actions, Action.ofLeaf store mode leaf = .ok action := by
  obtain ⟨clauses, hclauses, rfl⟩ := map_eq_ok h
  have hused : (mode, leaves) ∈ groups.filter fun g => !g.2.isEmpty := by
    refine List.mem_filter.2 ⟨hgroup, ?_⟩
    cases leaves with
    | nil => cases hleaf
    | cons first rest => rfl
  obtain ⟨clause, hclause, hcompile⟩ :=
    exists_of_mem_left (forall₂_of_mapM hclauses) _ hused
  obtain ⟨actions, hactions, rfl⟩ := map_eq_ok hcompile
  obtain ⟨action, haction, hof⟩ := exists_of_mem_left (forall₂_of_mapM hactions) leaf hleaf
  exact ⟨action, List.mem_flatMap.2 ⟨_, hclause, haction⟩, hof⟩

namespace Write

variable {write : Write}

/-! ## The clauses for an item that was read -/

/-- The clause in which a leaf is written again: the write's own one if the leaf is where the caller
put one and the write does not set, else a setting one. -/
def retryMode (write : Write) (path : Path) : UpdateMode :=
  if write.mode != .set && write.paths.contains path then write.mode else .set

/-- The leaves that are written again, for an item that was read. -/
def retryLeaves (write : Write) (item : Record Json) : List Leaf :=
  Leaf.cut (.object item) (.object write.data) write.leaves

theorem mem_recoveryGroups {item : Record Json} {leaf : Leaf}
    (h : leaf ∈ write.retryLeaves item) :
    ∃ leaves, (write.retryMode leaf.path, leaves) ∈ write.recoveryGroups item ∧ leaf ∈ leaves := by
  unfold retryMode recoveryGroups
  cases hkept : write.mode != .set && write.paths.contains leaf.path with
  | true => exact ⟨_, .tail _ (.head _), List.mem_filter.2 ⟨h, hkept⟩⟩
  | false => exact ⟨_, .head _, List.mem_filter.2 ⟨h, congrArg not hkept⟩⟩

theorem exists_retry_action {item : Record Json} {plan : UpdatePlan} {leaf : Leaf}
    (hplan : write.plan (write.recoveryGroups item) = .ok plan)
    (hleaf : leaf ∈ write.retryLeaves item) : ∃ action ∈ plan.actions,
      Action.ofLeaf write.table.rules.storeValue (write.retryMode leaf.path) leaf = .ok action := by
  obtain ⟨leaves, hgroup, hmem⟩ := mem_recoveryGroups hleaf
  exact UpdatePlan.exists_action hplan hgroup hmem

/-- What is written where a wanted path breaks off: a setting clause writes all the data below; but
a clause that adds stays one, if the path lacks no more than its last step. -/
theorem retry_action_of_missing {item : Record Json} {plan : UpdatePlan} {leaf : Leaf}
    (hmode : write.mode = .set ∨ write.mode = .add)
    (hplan : write.plan (write.recoveryGroups item) = .ok plan) (hleaf : leaf ∈ write.leaves)
    {broken : Path} (h : Leaf.firstMissing? (.object item) leaf.path = some broken) :
    ∃ value, (⟨.set, broken, false, some value⟩ ∈ plan.actions ∧
        write.table.rules.storeValue broken
          (((Json.object write.data).walk? broken).getD .null) = .ok value) ∨
      (write.mode = .add ∧ broken ∈ write.paths ∧
        ⟨.add, broken, false, some value⟩ ∈ plan.actions) := by
  obtain ⟨action, haction, hof⟩ :=
    exists_retry_action hplan (Leaf.mem_cut_of_firstMissing? (.object write.data) hleaf h)
  unfold retryMode at hof
  split at hof
  · rename_i hkept
    obtain ⟨hset, hpath⟩ := Bool.and_eq_true_iff.1 hkept
    have hadd : write.mode = .add := hmode.resolve_left (by simpa using hset)
    rw [hadd] at hof
    obtain ⟨value, -, rfl⟩ := map_eq_ok hof
    exact ⟨value, .inr ⟨hadd, by simpa using hpath, haction⟩⟩
  · obtain ⟨value, hvalue, rfl⟩ := map_eq_ok hof
    exact ⟨value, .inl ⟨haction, hvalue⟩⟩

/-! ## An update that is made again -/

/-- An update is made again after these rounds: the caller's plan met a missing path, the item was
read, and the new plan is the one for what the item lacks. -/
structure Again (write : Write) (before : List Round) (request : UpdateRequest)
    (plan : UpdatePlan) (item : Record Json) (plan' : UpdatePlan) : Prop where
  compiled : write.plan [(write.mode, write.leaves)] = .ok plan
  before : ∃ fault stored,
    before = [⟨.update (write.request plan), .error fault⟩,
      ⟨write.readRequest, .ok (some stored)⟩] ∧
    fault.isMissingPath = true ∧ StoreValue.membersOfItem stored = .ok item
  present : write.guards.requirePresent = false
  mode : write.mode = .set ∨ write.mode = .add
  recompiled : write.plan (write.recoveryGroups item) = .ok plan'
  request : request = write.request plan'

/-- Any update but the first round is one that is made again. -/
theorem again_of_yields {rounds before after : List Round} {result : Except Error (Option Json)}
    {round : Round} {request : UpdateRequest} (h : write.run.Yields rounds result)
    (hrounds : rounds = before ++ round :: after) (hbefore : before ≠ [])
    (hrequest : round.request = .update request) :
    ∃ plan item plan', write.Again before request plan item plan' := by
  rcases course_of_yields h with ⟨e, -, rfl, -⟩ | ⟨plan, hplan, hcourse⟩
  · simp at hrounds
  · rcases hcourse.update_at hrounds hrequest with ⟨hnil, -⟩ |
      ⟨fault, stored, item, plan', hread, hfault, hmay, hitem, hplan', rfl⟩
    · exact absurd hnil hbefore
    · simp only [mayRecover, Bool.and_eq_true, Bool.or_eq_true, Bool.not_eq_true',
        beq_iff_eq] at hmay
      exact ⟨plan, item, plan', hplan, ⟨fault, stored, hread, hfault, hitem⟩, hmay.1, hmay.2,
        hplan', rfl⟩

/-! ## The guards of a retry -/

theorem attribute_exists_ne (s s' : String) :
    "attribute_exists(" ++ s ++ ")" ≠ "attribute_not_exists(" ++ s' ++ ")" := by
  intro heq
  have hchars := congrArg String.toList heq
  simp [String.toList_append] at hchars

/-- A path of a plan is guarded against being there exactly if the write asks for missing paths. -/
theorem notExists_mem_guardTexts {plan : UpdatePlan} {path : Path} (hpath : path ∈ plan.paths) :
    "attribute_not_exists(" ++ (write.names plan).reference path ++ ")" ∈ write.guardTexts plan ↔
      write.guards.requireMissing = true := by
  rw [guardTexts, Condition.guardTexts, List.mem_append]
  constructor
  · rintro (hpresent | hmissing)
    · obtain ⟨other, -, heq⟩ := List.mem_map.1 hpresent
      exact absurd heq (attribute_exists_ne _ _)
    · by_cases hguard : write.guards.requireMissing = true
      · exact hguard
      · simp [hguard] at hmissing
  · intro hguard
    exact .inr (List.mem_map.2 ⟨path, by rwa [if_pos hguard], rfl⟩)

/-- An update that is made again writes every path that broke off in the item that was read, where
it breaks off. It asks that nothing is there yet exactly if the write asks for missing paths; no
other write is stopped by what another client has put there since the read. -/
theorem run_retry_guards {σ : Type} (store : Store σ) (state : σ) (write : Write)
    {before after : List Round} {round : Round} {request : UpdateRequest}
    (hrounds : write.run.rounds store state = before ++ round :: after) (hbefore : before ≠ [])
    (hrequest : round.request = .update request) :
    ∃ plan item plan', write.Again before request plan item plan' ∧
      request.update = plan'.text ∧
      request.terms.condition = some (" and ".intercalate
        (write.guardTexts plan' ++ (write.direct.map (·.text)).toList)) ∧
      ∀ leaf ∈ write.leaves, ∀ broken,
        Leaf.firstMissing? (.object item) leaf.path = some broken →
          (∃ value, (⟨.set, broken, false, some value⟩ ∈ plan'.actions ∧
              write.table.rules.storeValue broken
                (((Json.object write.data).walk? broken).getD .null) = .ok value) ∨
            (write.mode = .add ∧ broken ∈ write.paths ∧
              ⟨.add, broken, false, some value⟩ ∈ plan'.actions)) ∧
          ("attribute_not_exists(" ++ (write.names plan').reference broken ++ ")" ∈
            write.guardTexts plan' ↔ write.guards.requireMissing = true) := by
  obtain ⟨plan, item, plan', hagain⟩ :=
    again_of_yields (write.run.yields_rounds store state) hrounds hbefore hrequest
  refine ⟨plan, item, plan', hagain, by rw [hagain.request]; rfl,
    by rw [hagain.request, request_terms]; rfl, ?_⟩
  intro leaf hleaf broken hbroken
  obtain ⟨value, haction⟩ :=
    retry_action_of_missing hagain.mode hagain.recompiled hleaf hbroken
  refine ⟨⟨value, haction⟩, notExists_mem_guardTexts ?_⟩
  rcases haction with ⟨hset, -⟩ | ⟨-, -, hadd⟩
  · exact List.mem_map.2 ⟨_, hset, rfl⟩
  · exact List.mem_map.2 ⟨_, hadd, rfl⟩

/-- A write below a map, under these guards. -/
def nested (guards : Guards) : Write where
  table := ⟨"T", "P-T", .simple "id", .free ["id"]⟩
  key := ⟨⟨"id", .string "a"⟩, none⟩
  mode := .set
  data := [("a", .object [("b", .ofInt 1)])]
  leaves := [⟨[.key "a", .key "b"], .ofInt 1, false⟩]
  guards := guards
  condition := none
  returns := .none

/-- A store with an item that has no map, which lets the second update pass. -/
def mapless : Script :=
  ⟨[.failed (.validation ("The " ++ StoreError.invalidDocumentPath)),
    .item (some [("id", .string "a")]), .item none], []⟩

theorem run_retry_guards_nested : ∃ before round after request,
    (nested ⟨false, true, false⟩).run.rounds scripted mapless = before ++ round :: after ∧
      before ≠ [] ∧ round.request = .update request ∧
      ∃ plan item plan', (nested ⟨false, true, false⟩).Again before request plan item plan' := by
  obtain ⟨before, round, after, request, hrounds, hbefore, hrequest⟩ :=
    Round.exists_update_at
      (show ((((nested ⟨false, true, false⟩).run.rounds scripted mapless)[2]?).bind
        Round.update?).isSome = true by decide +kernel)
  have hne : before ≠ [] := by
    rintro rfl
    cases hbefore
  obtain ⟨plan, item, plan', hagain, -⟩ :=
    run_retry_guards scripted mapless (nested ⟨false, true, false⟩) hrounds hne hrequest
  exact ⟨before, round, after, request, hrounds, hne, hrequest, plan, item, plan', hagain⟩

/-- A write that does not ask for missing paths sets the whole map `a`, which the item that it read
did not have, and does not ask that the map is still missing. -/
theorem nested_retry_unguarded :
    Leaf.firstMissing? (.object [("id", .string "a")]) [.key "a", .key "b"] = some [.key "a"] ∧
      (((nested .free).run.rounds scripted mapless).filterMap Round.update?).map
          (fun request =>
            (request.update, request.terms.condition, request.terms.names.get? "#AA")) =
        [("set #AA.#AB = :aa", some "attribute_exists(#AC)", some "a"),
          ("set #AA = :aa", some "attribute_exists(#AB)", some "a")] := by
  decide +kernel

end Write

end ItemTable
