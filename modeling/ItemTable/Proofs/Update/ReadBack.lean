import ItemTable.Proofs.Placeholder.Plans
import ItemTable.Proofs.Update.Grammar

set_option autoImplicit false

/-! # Update expressions read back

A plan's text, read by the grammar of update expressions, has the plan's clauses in order, each with
its actions in order (`UpdatePlan.read_text`), and the plan's names and values give its placeholders
their meaning. So a compiled expression means what the leaves ask for, no two actions share the
placeholder of a value, and no two placeholders stand for one name
(`UpdatePlan.text_means_leaves`). -/

namespace ItemTable

open Placeholder (opens opens_append opens_intercalate)
open Traversal (map_eq_ok forall₂_of_mapM)
open UpdateGrammar (Clause EndsReference)

variable {store : Path → Json → Except ConversionError StoreValue}

/-! ## Actions -/

namespace Action

/-- The action as it is written, with the placeholder of its value. -/
def spelled (names : Names) (placeholder : String) (action : Action) : Instruction String :=
  let target := names.spell action.path
  match action.mode with
  | .set =>
    if action.append then .append target target placeholder else .assign target placeholder
  | .add => .add target placeholder
  | .remove => .remove target
  | .delete => .delete target placeholder

theorem opens_text (names : Names) (rank : Nat) (action : Action) :
    opens (action.text names (Placeholder.value rank)) = true := by
  have hreference := names.opens_reference action.path
  have hvalue := (Placeholder.isPlaceholder_value rank).opens
  unfold text
  dsimp only
  split
  · split
    · exact opens_append (opens_append (opens_append (opens_append (opens_append hreference rfl)
        hreference) rfl) hvalue) rfl
    · exact opens_append (opens_append hreference rfl) hvalue
  · exact opens_append (opens_append hreference rfl) hvalue
  · exact opens_append (opens_append hreference rfl) hvalue
  · exact hreference

/-- Where an action's text stands before other tokens, the action is read and they are left. -/
theorem action?_read (names : Names) (rank : Nat) (action : Action) {name : String} {path : Path}
    (hpath : action.path = .key name :: path) {rest : List Token} (h : EndsReference rest) :
    UpdateGrammar.action? action.mode
        (Token.read (action.text names (Placeholder.value rank)) ++ rest)
      = some (action.spelled names (Placeholder.value rank), rest) := by
  have hopens := names.opens_reference action.path
  have hvalueOpens := (Placeholder.isPlaceholder_value rank).opens
  have hvalue := Token.read_value rank
  -- the reference is read up to a token that ends it
  have hreference : ∀ {rest : List Token}, EndsReference rest →
      UpdateGrammar.reference? (Token.read (names.reference action.path) ++ rest)
        = some (names.spell action.path, rest) := by
    intro rest h
    rw [names.read_reference, hpath]
    exact UpdateGrammar.reference?_append h _ _
  have hblank : Token.read " " = [] := by decide +kernel
  obtain ⟨mode, target, append, stored⟩ := action
  dsimp only at hpath hopens hreference ⊢
  -- what `add` and `delete` have in common
  have hoperand : Token.read (names.reference target ++ " " ++ Placeholder.value rank) ++ rest
      = Token.read (names.reference target) ++ .value (Placeholder.value rank) :: rest := by
    rw [Token.read_append hvalueOpens, Token.read_append rfl, hblank, hvalue, List.append_nil,
      List.append_assoc, List.singleton_append]
  cases mode with
  | set =>
    cases append with
    | true =>
      have htext : text names (Placeholder.value rank) ⟨.set, target, true, stored⟩
          = names.reference target ++ " = list_append(" ++ names.reference target ++ ", "
            ++ Placeholder.value rank ++ ")" := rfl
      have happend : Token.read " = list_append(" =
          [.sign '=', .word "list_append", .sign '('] := by decide +kernel
      have hcomma : Token.read ", " = [.sign ','] := by decide +kernel
      rw [htext, Token.read_append rfl, Token.read_append hvalueOpens, Token.read_append rfl,
        Token.read_append hopens, Token.read_append rfl, happend, hcomma, Token.read_close, hvalue]
      simp only [List.append_assoc, List.cons_append, List.nil_append]
      rw [UpdateGrammar.action?, hreference (by simp [EndsReference])]
      simp only [UpdateGrammar.assignment?]
      rw [hreference (by simp [EndsReference])]
      rfl
    | false =>
      have htext : text names (Placeholder.value rank) ⟨.set, target, false, stored⟩
          = names.reference target ++ " = " ++ Placeholder.value rank := rfl
      have hassign : Token.read " = " = [.sign '='] := by decide +kernel
      rw [htext, Token.read_append hvalueOpens, Token.read_append rfl, hassign, hvalue]
      simp only [List.append_assoc, List.cons_append, List.nil_append]
      rw [UpdateGrammar.action?, hreference (by simp [EndsReference])]
      rfl
  | add =>
    have htext : text names (Placeholder.value rank) ⟨.add, target, append, stored⟩
        = names.reference target ++ " " ++ Placeholder.value rank := rfl
    rw [htext, hoperand, UpdateGrammar.action?, hreference (by simp [EndsReference])]
    rfl
  | delete =>
    have htext : text names (Placeholder.value rank) ⟨.delete, target, append, stored⟩
        = names.reference target ++ " " ++ Placeholder.value rank := rfl
    rw [htext, hoperand, UpdateGrammar.action?, hreference (by simp [EndsReference])]
    rfl
  | remove =>
    have htext : text names (Placeholder.value rank) ⟨.remove, target, append, stored⟩
        = names.reference target := rfl
    rw [htext, UpdateGrammar.action?, hreference h]
    rfl

end Action

/-! ## Clauses -/

namespace UpdateGrammar

theorem actions?_last {mode : UpdateMode} {fuel : Nat} {tokens rest : List Token}
    {action : Instruction String} (h : action? mode tokens = some (action, rest))
    (hrest : rest.head? ≠ some (.sign ',')) :
    actions? mode (fuel + 1) tokens = some ([action], rest) := by
  rw [actions?, h]
  split
  · rename_i heq
    cases heq
  · rename_i heq
    cases heq
    exact absurd rfl hrest
  · rename_i heq
    cases heq
    rfl

theorem actions?_more {mode : UpdateMode} {fuel : Nat} {tokens rest : List Token}
    {action : Instruction String} (h : action? mode tokens = some (action, .sign ',' :: rest)) :
    actions? mode (fuel + 1) tokens
      = (actions? mode fuel rest).map fun (actions, rest) => (action :: actions, rest) := by
  rw [actions?, h]
  rfl

end UpdateGrammar

namespace UpdatePlan

/-- Numbered actions as they are written. -/
def spelledActions (names : Names) (actions : List (Nat × Action)) : List (Instruction String) :=
  actions.map fun (n, action) => action.spelled names (Placeholder.value n)

/-- The texts of numbered actions. -/
def actionTexts (names : Names) (actions : List (Nat × Action)) : List String :=
  actions.map fun (n, action) => action.text names (Placeholder.value n)

/-- The clauses as they are written, their values numbered from `first`. -/
def spelledClauses (names : Names) : Nat → List (UpdateMode × List Action) → List (Clause String)
  | _, [] => []
  | first, (mode, actions) :: rest =>
    (mode, spelledActions names (numberActions first actions))
      :: spelledClauses names (first + countValues actions) rest

theorem map_snd_numberActions (first : Nat) (actions : List Action) :
    (numberActions first actions).map (·.2) = actions := by
  induction actions generalizing first with
  | nil => rfl
  | cons action rest ih => rw [numberActions, List.map_cons, ih]

/-- An action of a clause, on a path that starts with a name. -/
def IsWritable (mode : UpdateMode) (action : Action) : Prop :=
  action.mode = mode ∧ ∃ name path, action.path = .key name :: path

theorem opens_actionTexts (names : Names) (actions : List (Nat × Action)) :
    opens (", ".intercalate (actionTexts names actions)) = true := by
  refine opens_intercalate rfl fun text htext => ?_
  obtain ⟨⟨n, action⟩, -, rfl⟩ := List.mem_map.1 htext
  exact action.opens_text names n

theorem actions?_read (names : Names) {mode : UpdateMode} {actions : List (Nat × Action)}
    (hne : actions ≠ []) (hactions : ∀ entry ∈ actions, IsWritable mode entry.2)
    {rest : List Token} (hends : EndsReference rest) (hcomma : rest.head? ≠ some (.sign ','))
    {fuel : Nat}
    (hfuel : (Token.read (", ".intercalate (actionTexts names actions)) ++ rest).length ≤ fuel) :
    UpdateGrammar.actions? mode fuel
        (Token.read (", ".intercalate (actionTexts names actions)) ++ rest)
      = some (spelledActions names actions, rest) := by
  induction actions generalizing fuel with
  | nil => exact absurd rfl hne
  | cons entry more ih =>
    obtain ⟨n, action⟩ := entry
    obtain ⟨⟨rfl, name, path, hpath⟩, hmore⟩ := List.forall_mem_cons.1 hactions
    have hread {rest : List Token} (hends : EndsReference rest) :=
      action.action?_read names n hpath hends
    cases more with
    | nil =>
      have htext : ", ".intercalate (actionTexts names [(n, action)])
          = action.text names (Placeholder.value n) := String.intercalate_singleton
      rw [htext] at hfuel ⊢
      cases fuel with
      | zero =>
        -- an action has at least one token
        have hnil := hread hends
        rw [List.length_eq_zero_iff.1 (Nat.le_zero.1 hfuel)] at hnil
        cases hnil
      | succ fuel => exact UpdateGrammar.actions?_last (hread hends) hcomma
    | cons second more =>
      have htokens : Token.read
            (", ".intercalate (actionTexts names ((n, action) :: second :: more))) ++ rest
          = Token.read (action.text names (Placeholder.value n)) ++ .sign ','
            :: (Token.read (", ".intercalate (actionTexts names (second :: more))) ++ rest) := by
        have htexts : ", ".intercalate (actionTexts names ((n, action) :: second :: more))
            = action.text names (Placeholder.value n)
              ++ (", " ++ ", ".intercalate (actionTexts names (second :: more))) := by
          rw [← String.append_assoc]
          exact String.intercalate_cons_cons
        rw [htexts, Token.read_append (Placeholder.opens_separator_append (by decide) rfl),
          Token.read_comma, List.append_assoc, List.cons_append]
      rw [htokens] at hfuel ⊢
      cases fuel with
      | zero => simp at hfuel
      | succ fuel =>
        have hlength : (Token.read (", ".intercalate (actionTexts names (second :: more)))
            ++ rest).length ≤ fuel := by
          simp only [List.length_append, List.length_cons] at hfuel ⊢
          omega
        rw [UpdateGrammar.actions?_more (hread (by simp [EndsReference])),
          ih (List.cons_ne_nil _ _) hmore hlength]
        rfl

/-- A keyword is read as the mode of its clause. -/
theorem read_keyword (mode : UpdateMode) :
    ∃ word, Token.read mode.keyword = [.word word] ∧ UpdateGrammar.mode? word = some mode := by
  cases mode with
  | set => exact ⟨"set", by decide +kernel, by decide +kernel⟩
  | add => exact ⟨"add", by decide +kernel, by decide +kernel⟩
  | remove => exact ⟨"remove", by decide +kernel, by decide +kernel⟩
  | delete => exact ⟨"delete", by decide +kernel, by decide +kernel⟩

/-- A clause is read as its keyword and then its actions. -/
theorem read_clauseText (names : Names) (first : Nat) (mode : UpdateMode) (actions : List Action) :
    ∃ word, Token.read (clauseText names first mode actions)
        = .word word
          :: Token.read (", ".intercalate (actionTexts names (numberActions first actions))) ∧
      UpdateGrammar.mode? word = some mode := by
  obtain ⟨word, hword, hmode⟩ := read_keyword mode
  have htext : clauseText names first mode actions
      = mode.keyword ++ ", ".intercalate (actionTexts names (numberActions first actions)) := rfl
  exact ⟨word, by rw [htext, Token.read_append (opens_actionTexts _ _), hword]; rfl, hmode⟩

theorem read_clauseTexts_nil (names : Names) (first : Nat) :
    Token.read (" ".intercalate (clauseTexts names first [])) = [] := by
  rw [clauseTexts, String.intercalate_nil, Token.read_empty]

theorem read_clauseTexts_cons (names : Names) (first : Nat) (mode : UpdateMode)
    (actions : List Action) (clauses : List (UpdateMode × List Action)) :
    Token.read (" ".intercalate (clauseTexts names first ((mode, actions) :: clauses)))
      = Token.read (clauseText names first mode actions)
        ++ Token.read (" ".intercalate
          (clauseTexts names (first + countValues actions) clauses)) := by
  cases clauses with
  | nil =>
    rw [read_clauseTexts_nil, List.append_nil]
    exact congrArg Token.read String.intercalate_singleton
  | cons second more =>
    have htext : " ".intercalate (clauseTexts names first ((mode, actions) :: second :: more))
        = clauseText names first mode actions ++ (" " ++ " ".intercalate
          (clauseTexts names (first + countValues actions) (second :: more))) := by
      rw [← String.append_assoc]
      exact String.intercalate_cons_cons
    rw [htext, Token.read_append (Placeholder.opens_separator_append (by decide) rfl),
      Token.read_blank]

/-- Clauses start with a word, so what stands before them ends there. -/
theorem ends_clauseTexts (names : Names) (first : Nat)
    (clauses : List (UpdateMode × List Action)) :
    EndsReference (Token.read (" ".intercalate (clauseTexts names first clauses))) ∧
      (Token.read (" ".intercalate (clauseTexts names first clauses))).head?
        ≠ some (.sign ',') := by
  cases clauses with
  | nil =>
    simp [read_clauseTexts_nil, EndsReference]
  | cons clause more =>
    obtain ⟨word, hread, -⟩ := read_clauseText names first clause.1 clause.2
    rw [read_clauseTexts_cons, hread]
    simp [EndsReference]

/-- The texts of clauses are read as the clauses. -/
theorem clauses?_read (names : Names) (first : Nat) {clauses : List (UpdateMode × List Action)}
    (hclauses : ∀ clause ∈ clauses,
      clause.2 ≠ [] ∧ ∀ action ∈ clause.2, IsWritable clause.1 action) {fuel : Nat}
    (hfuel : (Token.read (" ".intercalate (clauseTexts names first clauses))).length ≤ fuel) :
    UpdateGrammar.clauses? fuel (Token.read (" ".intercalate (clauseTexts names first clauses)))
      = some (spelledClauses names first clauses) := by
  induction clauses generalizing first fuel with
  | nil =>
    rw [read_clauseTexts_nil, UpdateGrammar.clauses?]
    rfl
  | cons clause more ih =>
    obtain ⟨mode, actions⟩ := clause
    obtain ⟨⟨hne, hactions⟩, hmore⟩ := List.forall_mem_cons.1 hclauses
    obtain ⟨word, hread, hmode⟩ := read_clauseText names first mode actions
    obtain ⟨hends, hcomma⟩ := ends_clauseTexts names (first + countValues actions) more
    rw [read_clauseTexts_cons, hread, List.cons_append] at hfuel ⊢
    cases fuel with
    | zero => simp at hfuel
    | succ fuel =>
      replace hfuel := Nat.le_of_succ_le_succ hfuel
      have hlength := Nat.le_trans (List.sublist_append_right _ _).length_le hfuel
      have hnumbered := map_snd_numberActions first actions
      have hwritable : ∀ entry ∈ numberActions first actions, IsWritable mode entry.2 :=
        fun entry hentry => hactions entry.2 (hnumbered ▸ List.mem_map_of_mem hentry)
      have hsome : numberActions first actions ≠ [] := fun hnil => by
        rw [hnil] at hnumbered
        exact hne hnumbered.symm
      simp only [UpdateGrammar.clauses?, hmode,
        actions?_read names hsome hwritable hends hcomma hfuel, ih _ hmore hlength]
      rfl

/-- A plan's text is read as the plan's clauses. -/
theorem read_text (plan : UpdatePlan)
    (h : ∀ clause ∈ plan.clauses,
      clause.2 ≠ [] ∧ ∀ action ∈ clause.2, IsWritable clause.1 action) :
    UpdateGrammar.read plan.text = some (spelledClauses plan.names 0 plan.clauses) :=
  clauses?_read plan.names 0 h (Nat.le_refl _)

example : UpdateGrammar.read "set #AA.#AB = :aa, #AC[10] = list_append(#AC[10], :ab) remove #AA" =
    some
      [(.set,
          [.assign [.key "#AA", .key "#AB"] ":aa",
            .append [.key "#AC", .position 10] [.key "#AC", .position 10] ":ab"]),
        (.remove, [.remove [.key "#AA"]])] := by decide +kernel

end UpdatePlan

/-! ## Leaves and their instructions -/

namespace UpdateGrammar

theorem path?_spell {names : Names} {path : Path} (h : names.Covers path) :
    path? names.table (names.spell path) = some path := by
  induction path with
  | nil => rfl
  | cons step path ih =>
    have hpath : names.Covers path := fun name hname => h name (by
      cases step <;> simp [Path.keys, Step.key?] at hname ⊢ <;> simp [hname])
    have hrest : path? names.table (names.spell path) = some path := ih hpath
    unfold path? Names.spell at hrest ⊢
    rw [List.map_cons, List.mapM_cons, hrest]
    cases step with
    | key name =>
      have hname : names.table.get? (names.placeholder name) = some name :=
        Names.get?_table (h name (by simp [Path.keys, Step.key?]))
      simp [Names.spellStep, hname]
    | position index => simp [Names.spellStep]

end UpdateGrammar

/-- What a leaf asks for in a clause of a mode: on its own path, and with the stored form of its
value unless it is taken away. -/
inductive Leaf.Asks (store : Path → Json → Except ConversionError StoreValue) (leaf : Leaf) :
    UpdateMode → Instruction StoreValue → Prop
  | assign {value : StoreValue} (happend : leaf.append = false)
    (hvalue : store leaf.path leaf.value = .ok value) :
    Asks store leaf .set (.assign leaf.path value)
  | append {value : StoreValue} (happend : leaf.append = true)
    (hvalue : store leaf.path leaf.value = .ok value) :
    Asks store leaf .set (.append leaf.path leaf.path value)
  | add {value : StoreValue} (hvalue : Action.setValue store leaf = .ok value) :
    Asks store leaf .add (.add leaf.path value)
  | remove : Asks store leaf .remove (.remove leaf.path)
  | delete {value : StoreValue} (hvalue : Action.setValue store leaf = .ok value) :
    Asks store leaf .delete (.delete leaf.path value)

namespace Action

/-- A compiled action has the clause's mode and the leaf's path. -/
theorem of_ofLeaf {mode : UpdateMode} {leaf : Leaf} {action : Action}
    (h : ofLeaf store mode leaf = .ok action) : action.mode = mode ∧ action.path = leaf.path := by
  cases mode with
  | remove =>
    cases h
    exact ⟨rfl, rfl⟩
  | _ =>
    obtain ⟨v, -, rfl⟩ := map_eq_ok h
    exact ⟨rfl, rfl⟩

/-- A compiled action, read back, is what its leaf asks for. -/
theorem asks_of_ofLeaf {names : Names} {values : Item} {placeholder : String} {mode : UpdateMode}
    {leaf : Leaf} {action : Action} (h : ofLeaf store mode leaf = .ok action)
    (hcovers : names.Covers leaf.path)
    (hvalues : ∀ v, action.value = some v → values.get? placeholder = some v) :
    ∃ meant, UpdateGrammar.instruction? names.table values (action.spelled names placeholder)
        = some meant ∧ leaf.Asks store mode meant := by
  have hpath := UpdateGrammar.path?_spell hcovers
  cases mode with
  | set =>
    obtain ⟨v, hv, rfl⟩ := map_eq_ok h
    have hvalue := hvalues v rfl
    cases happend : leaf.append with
    | true =>
      exact ⟨.append leaf.path leaf.path v,
        by simp [spelled, UpdateGrammar.instruction?, hpath, hvalue], .append happend hv⟩
    | false =>
      exact ⟨.assign leaf.path v,
        by simp [spelled, UpdateGrammar.instruction?, hpath, hvalue], .assign happend hv⟩
  | add =>
    obtain ⟨v, hv, rfl⟩ := map_eq_ok h
    have hvalue := hvalues v rfl
    exact ⟨.add leaf.path v, by simp [spelled, UpdateGrammar.instruction?, hpath, hvalue], .add hv⟩
  | remove =>
    cases h
    exact ⟨.remove leaf.path, by simp [spelled, UpdateGrammar.instruction?, hpath], .remove⟩
  | delete =>
    obtain ⟨v, hv, rfl⟩ := map_eq_ok h
    have hvalue := hvalues v rfl
    exact ⟨.delete leaf.path v, by simp [spelled, UpdateGrammar.instruction?, hpath, hvalue],
      .delete hv⟩

end Action

namespace UpdatePlan

/-- The values of actions, numbered from `first`, are listed under their placeholders. -/
def Lists (values : Item) (first : Nat) (actions : List Action) : Prop :=
  ∀ i v, (actions.filterMap (·.value))[i]? = some v →
    values.get? (Placeholder.value (first + i)) = some v

/-- The actions of a clause, read back, are what its leaves ask for, in order. -/
theorem asks_of_actions {names : Names} {values : Item} {mode : UpdateMode} {leaves : List Leaf}
    {actions : List Action}
    (h : List.Forall₂ (fun leaf action => Action.ofLeaf store mode leaf = .ok action)
      leaves actions)
    (hcovers : ∀ action ∈ actions, names.Covers action.path) {first : Nat}
    (hvalues : Lists values first actions) :
    ∃ meant, (spelledActions names (numberActions first actions)).mapM
        (UpdateGrammar.instruction? names.table values) = some meant ∧
      List.Forall₂ (fun leaf => leaf.Asks store mode) leaves meant := by
  induction h generalizing first with
  | nil => exact ⟨[], rfl, .nil⟩
  | @cons leaf action leaves actions hleaf _ ih =>
    obtain ⟨hcover, hcovers⟩ := List.forall_mem_cons.1 hcovers
    have hvalue : ∀ v, action.value = some v →
        values.get? (Placeholder.value first) = some v := fun v hv =>
      hvalues 0 v (by simp [hv])
    have hrest : Lists values (if action.value.isSome then first + 1 else first) actions := by
      intro i v hv
      cases haction : action.value with
      | none => exact hvalues i v (by simp [haction, hv])
      | some w =>
        have hnext := hvalues (i + 1) v (by simp [haction, hv])
        rwa [Nat.add_comm i, ← Nat.add_assoc] at hnext
    rw [(Action.of_ofLeaf hleaf).2] at hcover
    obtain ⟨instruction, hinstruction, hasks⟩ := Action.asks_of_ofLeaf hleaf hcover hvalue
    obtain ⟨meant, hmeant, hall⟩ := ih hcovers hrest
    refine ⟨instruction :: meant, ?_, .cons hasks hall⟩
    unfold spelledActions at hmeant ⊢
    rw [numberActions, List.map_cons, List.mapM_cons, hinstruction, hmeant]
    rfl

/-- A clause is compiled of a group: it has the group's mode, and an action for each leaf. -/
def Compiles (store : Path → Json → Except ConversionError StoreValue)
    (group : UpdateMode × List Leaf) (clause : UpdateMode × List Action) : Prop :=
  clause.1 = group.1 ∧
    List.Forall₂ (fun leaf action => Action.ofLeaf store group.1 leaf = .ok action) group.2 clause.2

/-- A clause does what a group asks for: it has the group's mode, and an action for each leaf. -/
def Means (store : Path → Json → Except ConversionError StoreValue)
    (group : UpdateMode × List Leaf) (clause : Clause StoreValue) : Prop :=
  clause.1 = group.1 ∧ List.Forall₂ (fun leaf => leaf.Asks store group.1) group.2 clause.2

theorem means_of_clauses {names : Names} {values : Item} {groups : List (UpdateMode × List Leaf)}
    {clauses : List (UpdateMode × List Action)}
    (h : List.Forall₂ (Compiles store) groups clauses)
    (hcovers : ∀ action ∈ clauses.flatMap (·.2), names.Covers action.path) {first : Nat}
    (hvalues : Lists values first (clauses.flatMap (·.2))) :
    ∃ meant, UpdateGrammar.meaning? names.table values (spelledClauses names first clauses)
        = some meant ∧
      List.Forall₂ (Means store) groups meant := by
  induction h generalizing first with
  | nil => exact ⟨[], rfl, .nil⟩
  | @cons group clause groups clauses hclause _ ih =>
    obtain ⟨mode, actions⟩ := clause
    obtain ⟨rfl, hactions⟩ := hclause
    rw [List.flatMap_cons] at hcovers hvalues
    dsimp only at hactions hcovers hvalues
    obtain ⟨hcover, hcovers⟩ := List.forall_mem_append.1 hcovers
    have hvalue : Lists values first actions := fun i v hv => hvalues i v (by
      rw [List.filterMap_append, List.getElem?_append_left, hv]
      exact (List.getElem?_eq_some_iff.1 hv).1)
    have hrest : Lists values (first + countValues actions) (clauses.flatMap (·.2)) := by
      intro i v hv
      have hnext := hvalues (countValues actions + i) v (by
        rw [List.filterMap_append, countValues, List.getElem?_append_right (Nat.le_add_right _ _),
          Nat.add_sub_cancel_left, hv])
      rwa [← Nat.add_assoc] at hnext
    obtain ⟨instructions, hinstructions, hasks⟩ := asks_of_actions hactions hcover hvalue
    obtain ⟨meant, hmeant, hall⟩ := ih hcovers hrest
    refine ⟨(group.1, instructions) :: meant, ?_, .cons ⟨rfl, hasks⟩ hall⟩
    unfold UpdateGrammar.meaning? at hmeant ⊢
    rw [spelledClauses, List.mapM_cons, hmeant]
    simp only [hinstructions]
    rfl

/-- The clauses of a compiled plan are those of the groups that have leaves, in order. -/
theorem compiles_of_compile {groups : List (UpdateMode × List Leaf)} {plan : UpdatePlan}
    (h : compile store groups = .ok plan) :
    List.Forall₂ (Compiles store) (groups.filter fun g => !g.2.isEmpty) plan.clauses := by
  obtain ⟨clauses, hclauses, rfl⟩ := map_eq_ok h
  refine (forall₂_of_mapM hclauses).imp fun group clause hclause => ?_
  obtain ⟨actions, hactions, rfl⟩ := map_eq_ok hclause
  exact ⟨rfl, forall₂_of_mapM hactions⟩

/-! ## Placeholders -/

theorem operand?_spelled (names : Names) (placeholder : String) {action : Action}
    (h : action.IsComplete) :
    (action.spelled names placeholder).operand?
      = if action.value.isSome then some placeholder else none := by
  rw [h]
  obtain ⟨mode, path, append, value⟩ := action
  cases mode with
  | set => cases append <;> rfl
  | _ => rfl

theorem operands_spelledActions (names : Names) (first : Nat) {actions : List Action}
    (h : ∀ action ∈ actions, action.IsComplete) :
    (spelledActions names (numberActions first actions)).filterMap (·.operand?)
      = (List.range' first (countValues actions)).map Placeholder.value := by
  induction actions generalizing first with
  | nil => rfl
  | cons action rest ih =>
    obtain ⟨haction, hrest⟩ := List.forall_mem_cons.1 h
    unfold spelledActions at ih ⊢
    rw [numberActions, List.map_cons]
    cases hvalue : action.value with
    | none =>
      have hcount : countValues (action :: rest) = countValues rest := by
        simp [countValues, hvalue]
      have hoperand : (action.spelled names (Placeholder.value first)).operand? = none := by
        rw [operand?_spelled names _ haction, hvalue]
        rfl
      rw [hcount, List.filterMap_cons_none hoperand]
      exact ih first hrest
    | some value =>
      have hcount : countValues (action :: rest) = countValues rest + 1 := by
        simp [countValues, hvalue]
      have hoperand : (action.spelled names (Placeholder.value first)).operand?
          = some (Placeholder.value first) := by
        rw [operand?_spelled names _ haction, hvalue]
        rfl
      rw [hcount, List.filterMap_cons_some hoperand, List.range'_succ, List.map_cons]
      exact congrArg _ (ih (first + 1) hrest)

/-- The operands of clauses are the placeholders of their values, each number once. -/
theorem operands_spelledClauses (names : Names) (first : Nat)
    {clauses : List (UpdateMode × List Action)}
    (h : ∀ action ∈ clauses.flatMap (·.2), action.IsComplete) :
    UpdateGrammar.operands (spelledClauses names first clauses)
      = (List.range' first (countValues (clauses.flatMap (·.2)))).map Placeholder.value := by
  induction clauses generalizing first with
  | nil => rfl
  | cons clause rest ih =>
    obtain ⟨mode, actions⟩ := clause
    rw [List.flatMap_cons, List.forall_mem_append] at h
    have hcount : countValues (actions ++ rest.flatMap (·.2))
        = countValues actions + countValues (rest.flatMap (·.2)) := by
      simp [countValues]
    have hrest := ih (first + countValues actions) h.2
    unfold UpdateGrammar.operands at hrest ⊢
    rw [spelledClauses, List.flatMap_cons, List.flatMap_cons, hrest,
      operands_spelledActions names first h.1, hcount, ← List.range'_append_1, List.map_append]

theorem keys_spell (names : Names) (path : Path) :
    (names.spell path).keys = path.keys.map names.placeholder := by
  induction path with
  | nil => rfl
  | cons step path ih =>
    have hcons : (names.spell (step :: path)).keys
        = (names.spellStep step).key?.toList ++ (names.spell path).keys := by
      cases step <;> rfl
    have hkeys : Path.keys (step :: path) = step.key?.toList ++ Path.keys path := by
      cases step <;> rfl
    rw [hcons, hkeys, ih, List.map_append]
    cases step <;> rfl

theorem mem_onPaths_references_spelled {names : Names} {placeholder name : String}
    {action : Action} (h : name ∈ Names.onPaths (action.spelled names placeholder).references) :
    ∃ seen ∈ action.path.keys, name = names.placeholder seen := by
  have hreferences : ∀ reference ∈ (action.spelled names placeholder).references,
      reference = names.spell action.path := by
    obtain ⟨mode, path, append, value⟩ := action
    cases mode with
    | set => cases append <;> simp [Action.spelled, Instruction.references]
    | _ => simp [Action.spelled, Instruction.references]
  obtain ⟨reference, hreference, hname⟩ := List.mem_flatMap.1 h
  rw [hreferences reference hreference, keys_spell] at hname
  obtain ⟨seen, hseen, rfl⟩ := List.mem_map.1 hname
  exact ⟨seen, hseen, rfl⟩

/-- Clauses refer to the placeholders of the names on the paths of their actions. -/
theorem mem_referenced_spelledClauses {names : Names} {first : Nat}
    {clauses : List (UpdateMode × List Action)} {placeholder : String}
    (h : placeholder ∈ UpdateGrammar.referenced (spelledClauses names first clauses)) :
    ∃ name ∈ Names.onPaths ((clauses.flatMap (·.2)).map (·.path)),
      placeholder = names.placeholder name := by
  induction clauses generalizing first with
  | nil => cases h
  | cons clause rest ih =>
    obtain ⟨mode, actions⟩ := clause
    rw [List.flatMap_cons, List.map_append, Names.onPaths, List.flatMap_append]
    unfold UpdateGrammar.referenced at h ih
    rw [spelledClauses, List.flatMap_cons, List.mem_append] at h
    rcases h with h | h
    · obtain ⟨instruction, hinstruction, hname⟩ := List.mem_flatMap.1 h
      obtain ⟨⟨n, action⟩, haction, rfl⟩ := List.mem_map.1 hinstruction
      obtain ⟨name, hkeys, rfl⟩ := mem_onPaths_references_spelled hname
      have hmem : action ∈ actions := by
        rw [← map_snd_numberActions first actions]
        exact List.mem_map_of_mem haction
      refine ⟨name, List.mem_append_left _ ?_, rfl⟩
      exact List.mem_flatMap.2 ⟨action.path, List.mem_map_of_mem hmem, hkeys⟩
    · obtain ⟨name, hname, rfl⟩ := ih h
      exact ⟨name, List.mem_append_right _ hname, rfl⟩

/-! ## Compiled expressions -/

/-- What a compiled expression says is what the groups of leaves ask for: read by the grammar, with
its placeholders looked up, it has a clause for each group that has leaves, in order, and in it an
action for each leaf, in order. Each operand has a placeholder of its own, and no name has two. -/
theorem text_means_leaves {groups : List (UpdateMode × List Leaf)} {plan : UpdatePlan}
    (h : compile store groups = .ok plan)
    (hpaths : ∀ group ∈ groups, ∀ leaf ∈ group.2, ∃ name rest, leaf.path = .key name :: rest) :
    ∃ clauses meant, UpdateGrammar.read plan.text = some clauses ∧
      UpdateGrammar.meaning? plan.names.table plan.values clauses = some meant ∧
      List.Forall₂ (Means store) (groups.filter fun group => !group.2.isEmpty) meant ∧
      (UpdateGrammar.operands clauses).Nodup ∧
      ∀ first ∈ UpdateGrammar.referenced clauses, ∀ second ∈ UpdateGrammar.referenced clauses,
        plan.names.table.get? first = plan.names.table.get? second → first = second := by
  have hcompiles := compiles_of_compile h
  have hwritable : ∀ clause ∈ plan.clauses,
      clause.2 ≠ [] ∧ ∀ action ∈ clause.2, IsWritable clause.1 action := by
    intro clause hclause
    obtain ⟨group, hgroup, hmode, hactions⟩ :=
      Traversal.exists_of_mem_right hcompiles clause hclause
    obtain ⟨hgroup, hsome⟩ := List.mem_filter.1 hgroup
    refine ⟨?_, fun action haction => ?_⟩
    · intro hnil
      rw [hnil, List.forall₂_nil_right_iff] at hactions
      simp [hactions] at hsome
    · obtain ⟨leaf, hleaf, hofLeaf⟩ := Traversal.exists_of_mem_right hactions action haction
      obtain ⟨haction, hpath⟩ := Action.of_ofLeaf hofLeaf
      obtain ⟨name, rest, hname⟩ := hpaths group hgroup leaf hleaf
      exact ⟨haction.trans hmode.symm, name, rest, hpath.trans hname⟩
  have hcovers : ∀ action ∈ plan.clauses.flatMap (·.2), plan.names.Covers action.path :=
    fun action haction => Names.covers_seePaths Names.empty _ (List.mem_map_of_mem haction)
  have hvalues : Lists plan.values 0 (plan.clauses.flatMap (·.2)) := fun i v hv => by
    rw [Nat.zero_add]
    exact Record.get?_numbered (fun _ _ => Placeholder.value_inj) hv
  obtain ⟨meant, hmeant, hmeans⟩ := means_of_clauses hcompiles hcovers hvalues
  refine ⟨_, meant, plan.read_text hwritable, hmeant, hmeans, ?_, ?_⟩
  · rw [operands_spelledClauses _ _ (isComplete_of_compile h)]
    exact List.Pairwise.map _ (fun i j hij heq => hij (Placeholder.value_inj heq))
      (List.nodup_range' ..)
  · intro first hfirst second hsecond heq
    obtain ⟨name, hname, rfl⟩ := mem_referenced_spelledClauses hfirst
    obtain ⟨other, hother, rfl⟩ := mem_referenced_spelledClauses hsecond
    have hseen : ∀ name ∈ Names.onPaths plan.paths,
        plan.names.table.get? (plan.names.placeholder name) = some name := fun name hname =>
      Names.get?_table (Names.mem_seePaths.2 (.inr hname))
    rw [hseen name hname, hseen other hother] at heq
    rw [Option.some.inj heq]

/-- Clauses of all forms: names that come again, a position, a list to append and two sets. -/
def mixedGroups : List (UpdateMode × List Leaf) :=
  [(.set,
      [⟨[.key "a.b", .key "c"], .string "x", false⟩,
        ⟨[.key "c", .position 10, .key "a.b"], .array [.bool true], true⟩]),
    (.add, []),
    (.remove, [⟨[.key "d", .position 0], .null, false⟩]),
    (.delete, [⟨[.key "c"], .strings ["p", "q"], false⟩])]

theorem text_means_leaves_mixedGroups :
    let store : Path → Json → Except ConversionError StoreValue :=
      fun _ value => .ok (.ofJson value)
    (∀ group ∈ mixedGroups, ∀ leaf ∈ group.2, ∃ name rest, leaf.path = .key name :: rest) ∧
      ∃ plan, compile store mixedGroups = .ok plan ∧
        ∃ clauses meant, UpdateGrammar.read plan.text = some clauses ∧
          UpdateGrammar.meaning? plan.names.table plan.values clauses = some meant ∧
          List.Forall₂ (Means store) (mixedGroups.filter fun group => !group.2.isEmpty) meant ∧
          (UpdateGrammar.operands clauses).Nodup ∧
          ∀ first ∈ UpdateGrammar.referenced clauses, ∀ second ∈ UpdateGrammar.referenced clauses,
            plan.names.table.get? first = plan.names.table.get? second → first = second := by
  intro store
  have hpaths : ∀ group ∈ mixedGroups, ∀ leaf ∈ group.2,
      ∃ name rest, leaf.path = .key name :: rest := by
    simp [mixedGroups]
  exact ⟨hpaths, _, rfl, text_means_leaves rfl hpaths⟩

end UpdatePlan

end ItemTable
