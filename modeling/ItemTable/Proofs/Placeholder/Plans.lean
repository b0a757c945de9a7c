import ItemTable.Proofs.Placeholder.Expressions
import ItemTable.Proofs.Traversal

set_option autoImplicit false

/-! # Placeholders of update plans

A compiled action carries a value unless it removes. So the text of a plan has the placeholders of
the names on its paths and those that its values are listed under. -/

namespace ItemTable

open Placeholder
open Traversal (exists_of_mem_mapM)

variable {token : String} {store : Path → Json → Except ConversionError StoreValue}

namespace Action

/-- Removals carry no value, all other actions carry one. -/
def IsComplete (action : Action) : Prop := action.value.isSome = (action.mode != .remove)

theorem isComplete_of_ofLeaf {mode : UpdateMode} {leaf : Leaf} {action : Action}
    (h : ofLeaf store mode leaf = .ok action) : action.IsComplete := by
  cases mode with
  | remove =>
    cases h
    rfl
  | set =>
    cases hvalue : store leaf.path leaf.value with
    | error e => simp [ofLeaf, hvalue, Except.map] at h
    | ok value =>
      rw [ofLeaf, hvalue] at h
      cases h
      rfl
  | add =>
    cases hvalue : setValue store leaf with
    | error e => simp [ofLeaf, hvalue, Except.map] at h
    | ok value =>
      rw [ofLeaf, hvalue] at h
      cases h
      rfl
  | delete =>
    cases hvalue : setValue store leaf with
    | error e => simp [ofLeaf, hvalue, Except.map] at h
    | ok value =>
      rw [ofLeaf, hvalue] at h
      cases h
      rfl

/-- An action has the placeholders of the names on its path, and that of its value. -/
theorem mem_placeholdersIn_text (names : Names) {value : String} (hvalue : IsPlaceholder value)
    {action : Action} (h : action.IsComplete) :
    token ∈ placeholdersIn (action.text names value) ↔
      (∃ name ∈ action.path.keys, token = names.placeholder name) ∨
        action.value.isSome = true ∧ token = value := by
  have hopens := names.opens_reference action.path
  have hreference : token ∈ placeholdersIn (names.reference action.path) ↔
      ∃ name ∈ action.path.keys, token = names.placeholder name := by
    rw [names.placeholdersIn_reference, List.mem_map]
    simp only [eq_comm]
  have hvalue' : token ∈ placeholdersIn value ↔ token = value := by
    rw [hvalue.placeholdersIn, List.mem_singleton]
  obtain ⟨mode, path, append, stored⟩ := action
  rw [IsComplete] at h
  cases mode with
  | set =>
    cases append with
    | true =>
      have htext : text names value ⟨.set, path, true, stored⟩ = names.reference path
          ++ " = list_append(" ++ names.reference path ++ ", " ++ value ++ ")" := rfl
      rw [htext, h, placeholdersIn_append rfl, placeholdersIn_append hvalue.opens,
        placeholdersIn_append rfl, placeholdersIn_append hopens, placeholdersIn_append rfl,
        placeholdersIn_of_plain " = list_append(" rfl, placeholdersIn_of_plain ", " rfl,
        placeholdersIn_of_plain ")" rfl]
      simp only [List.append_nil, List.mem_append, hreference, hvalue']
      simp
    | false =>
      have htext : text names value ⟨.set, path, false, stored⟩
          = names.reference path ++ " = " ++ value := rfl
      rw [htext, h, placeholdersIn_append hvalue.opens, placeholdersIn_append rfl,
        placeholdersIn_of_plain " = " rfl, List.append_nil, List.mem_append, hreference, hvalue']
      simp
  | add =>
    have htext : text names value ⟨.add, path, append, stored⟩
        = names.reference path ++ " " ++ value := rfl
    rw [htext, h, placeholdersIn_append hvalue.opens, placeholdersIn_append rfl,
      placeholdersIn_of_plain " " rfl, List.append_nil, List.mem_append, hreference, hvalue']
    simp
  | delete =>
    have htext : text names value ⟨.delete, path, append, stored⟩
        = names.reference path ++ " " ++ value := rfl
    rw [htext, h, placeholdersIn_append hvalue.opens, placeholdersIn_append rfl,
      placeholdersIn_of_plain " " rfl, List.append_nil, List.mem_append, hreference, hvalue']
    simp
  | remove =>
    have htext : text names value ⟨.remove, path, append, stored⟩ = names.reference path := rfl
    rw [htext, h, hreference]
    simp

end Action

namespace UpdatePlan

theorem isComplete_of_compile {groups : List (UpdateMode × List Leaf)} {plan : UpdatePlan}
    (h : compile store groups = .ok plan) : ∀ action ∈ plan.actions, action.IsComplete := by
  unfold compile at h
  dsimp only at h
  cases hclauses : (groups.filter fun g => !g.2.isEmpty).mapM (compileClause store) with
  | error e => simp [hclauses, Except.map] at h
  | ok clauses =>
    rw [hclauses] at h
    cases h
    intro action haction
    obtain ⟨clause, hclause, haction⟩ := List.mem_flatMap.1 haction
    obtain ⟨group, -, hgroup⟩ := exists_of_mem_mapM hclauses clause hclause
    unfold compileClause at hgroup
    cases hactions : group.2.mapM (Action.ofLeaf store group.1) with
    | error e => simp [hactions, Except.map] at hgroup
    | ok actions =>
      rw [hactions] at hgroup
      cases hgroup
      obtain ⟨leaf, -, hleaf⟩ := exists_of_mem_mapM hactions action haction
      exact Action.isComplete_of_ofLeaf hleaf

/-- Numbered actions have the placeholders of the names on their paths and of their values. -/
theorem mem_placeholdersIn_actions (names : Names) (first : Nat) {actions : List Action}
    (h : ∀ action ∈ actions, action.IsComplete) :
    token ∈ ((numberActions first actions).map fun (n, a) =>
        a.text names (Placeholder.value n)).flatMap placeholdersIn ↔
      (∃ name ∈ Names.onPaths (actions.map (·.path)), token = names.placeholder name) ∨
        ∃ i, i < countValues actions ∧ token = Placeholder.value (first + i) := by
  induction actions generalizing first with
  | nil => simp [numberActions, Names.onPaths, countValues]
  | cons action rest ih =>
    obtain ⟨haction, hrest⟩ := List.forall_mem_cons.1 h
    rw [numberActions, List.map_cons, List.flatMap_cons, List.mem_append, ih _ hrest,
      Action.mem_placeholdersIn_text names (isPlaceholder_value first) haction]
    cases hvalue : action.value with
    | none =>
      have hcount : countValues (action :: rest) = countValues rest := by
        simp [countValues, hvalue]
      rw [hcount]
      simp [Names.onPaths]
      grind
    | some value =>
      have hcount : countValues (action :: rest) = 1 + countValues rest := by
        simp [countValues, hvalue, Nat.add_comm]
      rw [hcount, exists_lt_add]
      simp [Names.onPaths]
      grind

theorem mem_placeholdersIn_clauses (names : Names) (first : Nat)
    {clauses : List (UpdateMode × List Action)}
    (h : ∀ action ∈ clauses.flatMap (·.2), action.IsComplete) :
    token ∈ (clauseTexts names first clauses).flatMap placeholdersIn ↔
      (∃ name ∈ Names.onPaths ((clauses.flatMap (·.2)).map (·.path)),
          token = names.placeholder name) ∨
        ∃ i, i < countValues (clauses.flatMap (·.2)) ∧ token = Placeholder.value (first + i) := by
  induction clauses generalizing first with
  | nil => simp [clauseTexts, Names.onPaths, countValues]
  | cons clause rest ih =>
    obtain ⟨mode, actions⟩ := clause
    rw [List.flatMap_cons, List.forall_mem_append] at h
    have hplain : isPlain mode.keyword = true := by cases mode <;> rfl
    have hcount : countValues (actions ++ rest.flatMap (·.2))
        = countValues actions + countValues (rest.flatMap (·.2)) := by
      simp [countValues]
    rw [clauseTexts, List.flatMap_cons, List.mem_append, ih _ h.2, clauseText,
      placeholdersIn_append_of_plain hplain, placeholdersIn_intercalate (by decide) rfl rfl,
      mem_placeholdersIn_actions names first h.1, List.flatMap_cons, hcount, exists_lt_add]
    simp only [Names.onPaths, List.map_append, List.flatMap_append, List.mem_append, Nat.add_assoc]
    grind

/-- A plan has the placeholders of the names on its paths, and those of its values. -/
theorem mem_placeholdersIn_text (plan : UpdatePlan)
    (h : ∀ action ∈ plan.actions, action.IsComplete) :
    token ∈ placeholdersIn plan.text ↔
      (∃ name ∈ Names.onPaths plan.paths, token = plan.names.placeholder name) ∨
        token ∈ plan.values.names := by
  have htext : placeholdersIn plan.text
      = (clauseTexts plan.names 0 plan.clauses).flatMap placeholdersIn :=
    placeholdersIn_intercalate (by decide) rfl rfl _
  have hvalues : token ∈ plan.values.names ↔
      ∃ i, i < countValues plan.actions ∧ token = Placeholder.value (0 + i) := by
    rw [values, Record.names_numbered, ← countValues]
    simp [eq_comm]
  rw [htext, mem_placeholdersIn_clauses plan.names 0 h, hvalues]
  rfl

end UpdatePlan

end ItemTable
