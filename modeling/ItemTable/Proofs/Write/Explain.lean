import ItemTable.Proofs.Condition.Holds
import ItemTable.Proofs.Write.Targets

set_option autoImplicit false

/-! # Failed guards

A write without a caller's condition reads the item after a failed condition, and reports of its
last request what the item violates (`Write.Course.reported`). The report is made of the paths of
the plan and of the item's document; it is right about the condition and the update that the request
had, as the store reads them, and about the item that the store holds. -/

namespace ItemTable

/-! ## More placeholders -/

namespace UpdateGrammar

variable {names names' : Record String} {values values' : Item}

theorem path?_mono
    (hnames : ∀ token name, names.get? token = some name → names'.get? token = some name)
    {reference path : Path} (h : path? names reference = some path) :
    path? names' reference = some path := by
  refine Traversal.mapM_mono (fun step step' hstep => ?_) h
  cases step with
  | key token =>
    obtain ⟨name, hname, rfl⟩ := Option.map_eq_some_iff.1 hstep
    exact Option.map_eq_some_iff.2 ⟨name, hnames token name hname, rfl⟩
  | position index => exact hstep

theorem instruction?_mono
    (hnames : ∀ token name, names.get? token = some name → names'.get? token = some name)
    (hvalues : ∀ token v, values.get? token = some v → values'.get? token = some v)
    {written : Instruction String} {meant : Instruction StoreValue}
    (h : instruction? names values written = some meant) :
    instruction? names' values' written = some meant := by
  have hpath : ∀ {reference path : Path}, path? names reference = some path →
      path? names' reference = some path := path?_mono hnames
  cases written with
  | remove target =>
    obtain ⟨path, htarget, hmeant⟩ := Option.bind_eq_some_iff.1 h
    simp only [instruction?, hpath htarget]
    exact hmeant
  | append target list operand =>
    obtain ⟨path, htarget, h⟩ := Option.bind_eq_some_iff.1 h
    obtain ⟨path', hlist, h⟩ := Option.bind_eq_some_iff.1 h
    obtain ⟨v, hv, hmeant⟩ := Option.bind_eq_some_iff.1 h
    simp only [instruction?, hpath htarget, hpath hlist, hvalues operand v hv]
    exact hmeant
  | _ target operand =>
    obtain ⟨path, htarget, h⟩ := Option.bind_eq_some_iff.1 h
    obtain ⟨v, hv, hmeant⟩ := Option.bind_eq_some_iff.1 h
    simp only [instruction?, hpath htarget, hvalues operand v hv]
    exact hmeant

/-- Clauses mean the same where more placeholders have a meaning. -/
theorem meaning?_mono
    (hnames : ∀ token name, names.get? token = some name → names'.get? token = some name)
    (hvalues : ∀ token v, values.get? token = some v → values'.get? token = some v)
    {clauses : List (Clause String)} {meant : List (Clause StoreValue)}
    (h : meaning? names values clauses = some meant) :
    meaning? names' values' clauses = some meant := by
  refine Traversal.mapM_mono (fun clause clause' hclause => ?_) h
  obtain ⟨actions, hactions, rfl⟩ := Option.map_eq_some_iff.1 hclause
  exact Option.map_eq_some_iff.2
    ⟨actions, Traversal.mapM_mono (fun _ _ => instruction?_mono hnames hvalues) hactions, rfl⟩

end UpdateGrammar

/-- Names that were seen keep their entry when others are seen. -/
theorem Names.get?_table_seePaths (names : Names) (paths : List Path) {token name : String}
    (h : names.table.get? token = some name) :
    (names.seePaths paths).table.get? token = some name := by
  obtain ⟨rest, hrest⟩ := names.seen_seePaths paths
  have htable : (names.seePaths paths).table = names.table
      ++ rest.mapIdx fun i name => (Placeholder.name (i + names.seen.length), name) := by
    rw [table, hrest, List.mapIdx_append]
    rfl
  rw [htable, Record.get?_append, h, Option.some_or]

/-! ## Plans -/

section

variable {store : Path → Json → Except ConversionError StoreValue}

theorem Action.paths_of_ofLeaf {mode : UpdateMode} {leaves : List Leaf} {actions : List Action}
    (h : List.Forall₂ (fun leaf action => ofLeaf store mode leaf = .ok action) leaves actions) :
    actions.map (·.path) = leaves.map (·.path) := by
  induction h with
  | nil => rfl
  | cons hleaf _ ih => rw [List.map_cons, List.map_cons, ih, (of_ofLeaf hleaf).2]

/-- A plan touches the paths that its groups ask to write, in their order. -/
theorem UpdatePlan.paths_of_compile {groups : List (UpdateMode × List Leaf)} {plan : UpdatePlan}
    (h : compile store groups = .ok plan) : plan.paths = (Leaf.targets groups).map (·.2) := by
  have hcompiles := compiles_of_compile h
  have hpaths : plan.paths = (plan.clauses.flatMap (·.2)).map (·.path) := rfl
  rw [← Leaf.targets_filter, hpaths]
  generalize (groups.filter fun group => !group.2.isEmpty) = filtered at hcompiles
  generalize plan.clauses = clauses at hcompiles
  induction hcompiles with
  | nil => rfl
  | cons hclause _ ih =>
    rw [List.flatMap_cons, List.map_append, Action.paths_of_ofLeaf hclause.2, ih]
    simp [Leaf.targets]

end

namespace Write

variable {write : Write} {plan : UpdatePlan} {rounds after : List Round}
  {result : Except Error (Option Json)}

/-! ## After a failed condition -/

/-- A plan of a write: of the caller's leaves, or of the leaves for an item that was read. -/
def Plans (write : Write) (plan : UpdatePlan) : Prop :=
  write.plan [(write.mode, write.leaves)] = .ok plan ∨
    ∃ item, write.plan (write.recoveryGroups item) = .ok plan

/-- The plan of a stage that is to make a request. -/
def Stage.plan? : Stage → Option UpdatePlan
  | .attempt plan => some plan
  | .retry _ plan => some plan
  | _ => none

/-- The round of an update whose condition failed. -/
def unmet (request : UpdateRequest) (message : String) : Round :=
  ⟨.update request, .error (.conditionFailed message)⟩

variable {stage : Stage} {request : UpdateRequest} {message : String}

/-- No step that ends a write met a failed condition. -/
theorem Step.unmet_not_mem (h : write.Step stage rounds (.inr result)) :
    unmet request message ∉ rounds := by
  intro hmem
  cases h with
  | attempted => cases List.mem_singleton.1 hmem
  | attemptLost _ _ hfault =>
    cases List.mem_singleton.1 hmem
    cases hfault
  | attemptFailed _ _ _ hunmet =>
    cases List.mem_singleton.1 hmem
    exact hunmet message rfl
  | retried => cases List.mem_singleton.1 hmem
  | retryFailed _ _ _ hunmet =>
    cases List.mem_singleton.1 hmem
    exact hunmet message rfl
  | _ => simp [unmet, readRequest] at hmem

/-- A step to another stage makes one round; if its condition failed, the paths of the stage's plan
are to be explained. -/
theorem Step.unmet_of_inl {stage' : Stage} (h : write.Step stage rounds (.inl stage')) :
    ∃ round, rounds = [round] ∧ ∀ request message, round = unmet request message →
      ∃ plan, stage.plan? = some plan ∧ request = write.request plan ∧
        stage' = .explain plan.paths := by
  cases h with
  | attemptUnmet plan =>
    refine ⟨_, rfl, fun request message hround => ?_⟩
    cases hround
    exact ⟨plan, rfl, rfl, rfl⟩
  | attemptCut _ _ hfault =>
    refine ⟨_, rfl, fun request message hround => ?_⟩
    cases hround
    cases hfault
  | retryUnmet _ plan =>
    refine ⟨_, rfl, fun request message hround => ?_⟩
    cases hround
    exact ⟨plan, rfl, rfl, rfl⟩
  | _ => exact ⟨_, rfl, fun request message hround => by simp [unmet, readRequest] at hround⟩

/-- A stage's plan is one of the write's. -/
def Stage.IsPlanned (write : Write) (stage : Stage) : Prop :=
  ∀ plan, stage.plan? = some plan → write.Plans plan

theorem Step.isPlanned {stage' : Stage} (h : write.Step stage rounds (.inl stage')) :
    stage'.IsPlanned write := by
  cases h with
  | recovered stored item plan hitem hplan =>
    rintro _ ⟨⟩
    exact .inr ⟨item, hplan⟩
  | attemptUnmet => exact nofun
  | attemptCut => exact nofun
  | recoverAbsent _ habsence =>
    obtain ⟨rfl, -⟩ := absence_inl habsence
    exact nofun
  | retryUnmet => exact nofun
  | explainAbsent _ _ _ habsence =>
    obtain ⟨rfl, -⟩ := absence_inl habsence
    exact nofun

/-- After a failed condition, the paths of the plan of its request are explained. -/
theorem Course.explain_of_unmet (h : write.Course stage rounds result)
    (hstage : stage.IsPlanned write) {before : List Round}
    (hrounds : rounds = before ++ unmet request message :: after) :
    ∃ plan, write.Plans plan ∧ request = write.request plan ∧
      write.Course (.explain plan.paths) after result := by
  induction h generalizing before with
  | last h =>
    have hmem := hrounds ▸ List.mem_append_right before (List.mem_cons_self)
    exact absurd hmem h.unmet_not_mem
  | next h hrest ih =>
    obtain ⟨round, rfl, hround⟩ := h.unmet_of_inl
    cases before with
    | nil =>
      -- the failed condition is that of this step
      obtain ⟨rfl, rfl⟩ := List.cons.inj hrounds
      obtain ⟨plan, hplan, rfl, rfl⟩ := hround request message rfl
      exact ⟨plan, hstage plan hplan, rfl, hrest⟩
    | cons first before => exact ih h.isPlanned (List.cons.inj hrounds).2

/-! ## The report -/

/-- What a write reports from the answer to a read after a failed condition, and the rounds after
it. The condition of the last request was `demand`, and its update touched `touched`. -/
structure Reported (write : Write) (demand : Formula StoreValue) (touched : List Path)
    (answer : Except StoreError (Option Item)) (rest : List Round)
    (result : Except Error (Option Json)) : Prop where
  unread : ∀ fault, answer = .error fault → rest = [] ∧ result = .error (.store fault)
  /-- A missing item is created if the caller asks for it and the write sets. -/
  created : answer = .ok none → write.guards.createIfMissing = true → write.mode = .set →
    write.Course .create rest result
  notFound : answer = .ok none → (write.guards.createIfMissing = true → write.mode ≠ .set) →
    rest = [] ∧ result = .error write.notFound
  /-- An item with a value that has no document cannot be told about. -/
  unreadable : ∀ stored e, answer = .ok (some stored) →
    StoreValue.membersOfItem stored = .error e → rest = [] ∧ result = .error (.conversion e)
  /-- The item changed in between, and the condition holds of it now. -/
  holds : ∀ stored item, answer = .ok (some stored) → StoreValue.membersOfItem stored = .ok item →
    ∀ judge, demand.holds judge stored = true → rest = [] ∧ result = .error write.conditionFailed
  /-- The touched paths that had to be missing and are there, if the condition does not hold. -/
  present : ∀ stored item, answer = .ok (some stored) →
    StoreValue.membersOfItem stored = .ok item → write.guards.requireMissing = true →
    (∀ name ∈ write.table.shape.names, stored.contains name = true) →
    ∀ judge, demand.holds judge stored = false →
      rest = [] ∧ (StoreValue.map stored).presentAt touched ≠ [] ∧
      result = .error (.attributeExists write.table.name write.key.text
        (((StoreValue.map stored).presentAt touched).map Path.text))
  /-- The touched paths that had to be there and are missing, if the condition does not hold. -/
  absent : ∀ stored item, answer = .ok (some stored) →
    StoreValue.membersOfItem stored = .ok item → write.guards.requirePresent = true →
    (∀ name ∈ write.table.shape.names, stored.contains name = true) →
    ∀ judge, demand.holds judge stored = false →
      rest = [] ∧ (StoreValue.map stored).absentAt touched ≠ [] ∧
      result = .error (.attributeMissing write.table.name write.key.text
        (((StoreValue.map stored).absentAt touched).map Path.text))
  /-- Without guards on paths, the condition holds of every item with key attributes. -/
  free : write.guards.requireMissing = false → write.guards.requirePresent = false →
    ∀ stored : Item, (∀ name ∈ write.table.shape.names, stored.contains name = true) →
      ∀ judge, demand.holds judge stored = true

/-- What the store reads in a request: a condition, and in an update with guards on its paths the
paths that it touches. -/
structure Asked (write : Write) (request : UpdateRequest) (demand : Formula StoreValue)
    (touched : List Path) : Prop where
  condition : ∃ text written, request.terms.condition = some text ∧
    ConditionGrammar.read text = some written ∧
    written.meaning? request.terms.names request.terms.values = some demand
  update : write.guards.requirePresent = true ∨ write.guards.requireMissing = true →
    ∃ clauses meant, UpdateGrammar.read request.update = some clauses ∧
      UpdateGrammar.meaning? request.terms.names request.terms.values clauses = some meant ∧
      touched = (UpdateGrammar.targets meant).map (·.2)

/-- What the guards of a write ask of an item. -/
structure Meets (write : Write) (touched : List Path) (item : Item) : Prop where
  keys : ∀ name ∈ write.table.shape.names, item.contains name = true
  present : write.guards.requirePresent = true → (StoreValue.map item).absentAt touched = []
  missing : write.guards.requireMissing = true → (StoreValue.map item).presentAt touched = []

/-! ## What the request asks -/

/-- The leaves of a write are those of its data. -/
def WritesTree (write : Write) : Prop := write.leaves.map Leaf.entry = Tree.flatten write.data

/-- The leaves of a plan lie below attributes, under names. -/
theorem Plans.exists_groups (hplan : write.Plans plan) (hleaves : write.WritesTree) :
    ∃ groups, write.plan groups = .ok plan ∧ ∀ group ∈ groups, ∀ leaf ∈ group.2,
      (∃ name rest, leaf.path = .key name :: rest) ∧ ∀ step ∈ leaf.path, step.isKey = true := by
  have hwanted : ∀ leaf ∈ write.leaves, (leaf.path, leaf.value) ∈ Tree.flatten write.data :=
    fun leaf hleaf => hleaves ▸ List.mem_map_of_mem hleaf
  rcases hplan with hplan | ⟨item, hplan⟩
  · refine ⟨_, hplan, fun group hgroup leaf hleaf => ?_⟩
    obtain rfl := List.mem_singleton.1 hgroup
    obtain ⟨name, -, rest, hname⟩ := Tree.name_of_mem_flatten (hwanted leaf hleaf)
    exact ⟨⟨name, rest, hname⟩, (Tree.keys_of_mem_flatten (hwanted leaf hleaf)).1⟩
  · refine ⟨_, hplan, fun group hgroup leaf hleaf => ?_⟩
    have hretry := mem_retryLeaves_of_group hgroup hleaf
    refine ⟨name_of_mem_retryLeaves hleaves hretry, fun step hstep => ?_⟩
    -- a path that was cut leads through the names of a wanted one
    obtain ⟨⟨whole, hwhole, hbegins⟩, -⟩ := place_of_mem_retryLeaves hretry
    obtain ⟨wanted, hmem, rfl⟩ := List.mem_map.1 hwhole
    exact (Tree.keys_of_mem_flatten (hwanted wanted hmem)).1 step (hbegins.subset hstep)

/-- A plan touches attributes and what is below them under names. -/
theorem Plans.names_of_mem (hplan : write.Plans plan) (hleaves : write.WritesTree) {path : Path}
    (hpath : path ∈ plan.paths) :
    (∃ name rest, path = .key name :: rest) ∧ ∀ step ∈ path, step.isKey = true := by
  obtain ⟨groups, hgroups, hnames⟩ := hplan.exists_groups hleaves
  rw [UpdatePlan.paths_of_compile hgroups] at hpath
  obtain ⟨⟨mode, path⟩, htarget, rfl⟩ := List.mem_map.1 hpath
  obtain ⟨group, hgroup, htarget⟩ := List.mem_flatMap.1 htarget
  obtain ⟨leaf, hleaf, heq⟩ := List.mem_map.1 htarget
  cases heq
  exact hnames group hgroup leaf hleaf

/-- Without a caller's condition, a request has its own guards and placeholders only. -/
theorem request_terms_of_direct (hdirect : write.direct = none) (plan : UpdatePlan) :
    (write.request plan).terms =
      { table := write.table.physicalName
        condition := some (Condition.conjunction.intercalate (write.guardTexts plan))
        names := (write.names plan).table
        values := plan.values
        returns := some write.returns.requested } := by
  simp [request_terms, directNames, directValues, hdirect]

/-- The store reads in a request that what its plan touches is written. -/
theorem Plans.exists_update (hplan : write.Plans plan) (hdirect : write.direct = none)
    (hleaves : write.WritesTree) :
    ∃ clauses meant, UpdateGrammar.read (write.request plan).update = some clauses ∧
      UpdateGrammar.meaning? (write.request plan).terms.names (write.request plan).terms.values
        clauses = some meant ∧
      plan.paths = (UpdateGrammar.targets meant).map (·.2) := by
  obtain ⟨groups, hgroups, hnames⟩ := hplan.exists_groups hleaves
  obtain ⟨clauses, meant, hread, hmeant, hmeans⟩ := UpdatePlan.means_of_compile hgroups
    fun group hgroup leaf hleaf => (hnames group hgroup leaf hleaf).1
  refine ⟨clauses, meant, hread, ?_, ?_⟩
  · rw [request_terms_of_direct hdirect]
    exact UpdateGrammar.meaning?_mono
      (fun _ _ => Names.get?_table_seePaths plan.names write.table.keyPaths) (fun _ _ => id) hmeant
  · rw [UpdatePlan.paths_of_compile hgroups, UpdatePlan.targets_of_means hmeans,
      Leaf.targets_filter]

theorem meets_iff {touched : List Path} {item : Item} : write.Meets touched item ↔
    (∀ name ∈ write.table.shape.names, item.contains name = true) ∧
    (write.guards.requirePresent = true → ∀ path ∈ touched,
      ((StoreValue.map item).locate? path).isSome = true) ∧
    (write.guards.requireMissing = true → ∀ path ∈ touched,
      ((StoreValue.map item).locate? path).isNone = true) := by
  simp only [← StoreValue.absentAt_eq_nil, ← StoreValue.presentAt_eq_nil]
  exact ⟨fun ⟨keys, present, missing⟩ => ⟨keys, present, missing⟩,
    fun ⟨keys, present, missing⟩ => ⟨keys, present, missing⟩⟩

theorem locate?_keyPath (item : Item) (name : String) :
    ((StoreValue.map item).locate? [.key name]).isSome = item.contains name := by
  unfold Record.contains
  simp [StoreValue.locate?, StoreValue.child?]

/-- The store reads in a request that the key attributes have to exist, and the guards on the paths
that the update touches. -/
theorem Plans.exists_asked (hplan : write.Plans plan) (hdirect : write.direct = none)
    (hleaves : write.guards.requirePresent = true ∨ write.guards.requireMissing = true →
      write.WritesTree) :
    ∃ demand, write.Asked (write.request plan) demand plan.paths ∧
      ∀ judge item, demand.holds judge item = true ↔ write.Meets plan.paths item := by
  have hmem : ∀ path ∈ (write.table.keyPaths
        ++ if write.guards.requirePresent then plan.paths else [])
        ++ (if write.guards.requireMissing then plan.paths else []),
      path ∈ write.table.keyPaths ∨ path ∈ plan.paths ∧
        (write.guards.requirePresent = true ∨ write.guards.requireMissing = true) := by
    intro path hpath
    simp only [List.mem_append, List.mem_ite_nil_right] at hpath
    rcases hpath with (hkey | ⟨hguard, hpath⟩) | ⟨hguard, hpath⟩
    · exact .inl hkey
    · exact .inr ⟨hpath, .inl hguard⟩
    · exact .inr ⟨hpath, .inr hguard⟩
  have hguards : write.guardTexts plan ≠ [] := by
    simp [guardTexts, Condition.guardTexts, keyPaths_ne_nil]
  obtain ⟨written, demand, hread, hmeaning, hholds⟩ := Condition.holds_guards hguards
    (fun path hpath => by
      rcases hmem path hpath with hkey | ⟨hpath, hguard⟩
      · obtain ⟨name, -, rfl⟩ := List.mem_map.1 hkey
        exact ⟨name, [], rfl⟩
      · exact (hplan.names_of_mem (hleaves hguard) hpath).1)
    (fun path hpath name hname => by
      rcases hmem path hpath with hkey | ⟨hpath, -⟩
      · exact (write.mem_names plan).2 (.inr (List.mem_flatMap.2 ⟨path, hkey, hname⟩))
      · exact (write.mem_names plan).2 (.inl (List.mem_flatMap.2 ⟨path, hpath, hname⟩)))
    plan.values
  refine ⟨demand, ⟨⟨_, written, ?_, hread, ?_⟩, fun hguard =>
    hplan.exists_update hdirect (hleaves hguard)⟩, fun judge item => ?_⟩
  · rw [request_terms_of_direct hdirect]
    rfl
  · rw [request_terms_of_direct hdirect]
    exact hmeaning
  · rw [hholds, meets_iff, List.forall_mem_append, and_assoc]
    refine and_congr ?_ (and_congr ?_ ?_)
    · simp [Table.keyPaths, locate?_keyPath]
    · cases write.guards.requirePresent <;> simp
    · cases write.guards.requireMissing <;> simp

/-! ## What is reported -/

section

variable {touched : List Path} {stored : Item} {item : Record Json}

/-- The document of an item has something at the touched paths where the item does. -/
theorem presentAt_eq (hitem : StoreValue.membersOfItem stored = .ok item)
    (hkeys : ∀ path ∈ touched, ∀ step ∈ path, step.isKey = true) :
    (touched.filter fun path => ((Json.object item).walk? path).isSome)
      = (StoreValue.map stored).presentAt touched ∧
    (touched.filter fun path => ((Json.object item).walk? path).isNone)
      = (StoreValue.map stored).absentAt touched := by
  have hjson : StoreValue.toJson (.map stored) = .ok (.object item) :=
    congrArg (Except.map Json.object) hitem
  have hwalk : ∀ path ∈ touched, ((Json.object item).walk? path).isSome
      = ((StoreValue.map stored).locate? path).isSome := fun path hpath =>
    StoreValue.isSome_walk?_iff hjson (hkeys path hpath)
  refine ⟨List.filter_congr hwalk, List.filter_congr fun path hpath => ?_⟩
  rw [← Option.not_isSome, ← Option.not_isSome, hwalk path hpath]

/-- The report about an item that was read. -/
theorem violation_eq (hitem : StoreValue.membersOfItem stored = .ok item)
    (hkeys : write.guards.requirePresent = true ∨ write.guards.requireMissing = true →
      ∀ path ∈ touched, ∀ step ∈ path, step.isKey = true) :
    write.violation (.object item) touched =
      if write.guards.requireMissing && !((StoreValue.map stored).presentAt touched).isEmpty then
        .attributeExists write.table.name write.key.text
          (((StoreValue.map stored).presentAt touched).map Path.text)
      else if write.guards.requirePresent
          && !((StoreValue.map stored).absentAt touched).isEmpty then
        .attributeMissing write.table.name write.key.text
          (((StoreValue.map stored).absentAt touched).map Path.text)
      else write.conditionFailed := by
  unfold violation
  by_cases hguard : write.guards.requirePresent = true ∨ write.guards.requireMissing = true
  · obtain ⟨hpresent, habsent⟩ := presentAt_eq hitem (hkeys hguard)
    simp only [hpresent, habsent, pathsMissing]
  · obtain ⟨hpresent, hmissing⟩ := not_or.1 hguard
    simp [hpresent, hmissing]

/-- An item that meets the guards now violates none. -/
theorem violation_of_meets (hitem : StoreValue.membersOfItem stored = .ok item)
    (hkeys : write.guards.requirePresent = true ∨ write.guards.requireMissing = true →
      ∀ path ∈ touched, ∀ step ∈ path, step.isKey = true)
    (h : write.Meets touched stored) :
    write.violation (.object item) touched = write.conditionFailed := by
  rw [violation_eq hitem hkeys, if_neg, if_neg]
  · intro hviolated
    obtain ⟨hguard, hsome⟩ := Bool.and_eq_true_iff.1 hviolated
    rw [h.present hguard] at hsome
    cases hsome
  · intro hviolated
    obtain ⟨hguard, hsome⟩ := Bool.and_eq_true_iff.1 hviolated
    rw [h.missing hguard] at hsome
    cases hsome

/-- Paths that had to be missing are there in an item with key attributes that does not meet the
guards. -/
theorem violation_of_requireMissing (hitem : StoreValue.membersOfItem stored = .ok item)
    (hpaths : ∀ path ∈ touched, ∀ step ∈ path, step.isKey = true)
    (hmissing : write.guards.requireMissing = true) (hfree : write.guards.requirePresent = false)
    (hkeys : ∀ name ∈ write.table.shape.names, stored.contains name = true)
    (h : ¬ write.Meets touched stored) :
    (StoreValue.map stored).presentAt touched ≠ [] ∧
      write.violation (.object item) touched = .attributeExists write.table.name write.key.text
        (((StoreValue.map stored).presentAt touched).map Path.text) := by
  have hsome : (StoreValue.map stored).presentAt touched ≠ [] := fun hnone =>
    h ⟨hkeys, by simp [hfree], fun _ => hnone⟩
  exact ⟨hsome, by
    rw [violation_eq hitem fun _ => hpaths,
      if_pos (by simp [hmissing, List.isEmpty_eq_false_iff.2 hsome])]⟩

/-- Paths that had to be there are missing in such an item. -/
theorem violation_of_requirePresent (hitem : StoreValue.membersOfItem stored = .ok item)
    (hpaths : ∀ path ∈ touched, ∀ step ∈ path, step.isKey = true)
    (hpresent : write.guards.requirePresent = true) (hfree : write.guards.requireMissing = false)
    (hkeys : ∀ name ∈ write.table.shape.names, stored.contains name = true)
    (h : ¬ write.Meets touched stored) :
    (StoreValue.map stored).absentAt touched ≠ [] ∧
      write.violation (.object item) touched = .attributeMissing write.table.name write.key.text
        (((StoreValue.map stored).absentAt touched).map Path.text) := by
  have hsome : (StoreValue.map stored).absentAt touched ≠ [] := fun hnone =>
    h ⟨hkeys, fun _ => hnone, by simp [hfree]⟩
  exact ⟨hsome, by
    rw [violation_eq hitem fun _ => hpaths, if_neg (by simp [hfree]),
      if_pos (by simp [hpresent, List.isEmpty_eq_false_iff.2 hsome])]⟩

end

/-- A failed condition without one of the caller's is explained by what a read finds. -/
theorem Course.of_explain {guarded : List Path} (hdirect : write.direct = none)
    (h : write.Course (.explain guarded) rounds result) :
    ∃ answer rest, rounds = ⟨write.readRequest, answer⟩ :: rest ∧
      ((∃ error, seen answer = .error error ∧ rest = [] ∧ result = .error error) ∨
        (answer = .ok none ∧ write.guards.createIfMissing = true ∧ write.mode = .set ∧
          write.Course .create rest result) ∨
        (answer = .ok none ∧ write.absence = .inr result ∧ rest = []) ∨
        ∃ stored item, answer = .ok (some stored) ∧
          StoreValue.membersOfItem stored = .ok item ∧ rest = [] ∧
          result = .error (write.violation (.object item) guarded)) := by
  cases h with
  | last h =>
    cases h with
    | explainedByCaller _ hsome => simp [hdirect] at hsome
    | explainFailed _ _ answer error hseen =>
      exact ⟨answer, [], rfl, .inl ⟨error, hseen, rfl, rfl⟩⟩
    | explainAbsent _ _ _ habsence =>
      exact ⟨_, [], rfl, .inr (.inr (.inl ⟨rfl, habsence, rfl⟩))⟩
    | explained _ _ stored item hitem =>
      exact ⟨_, [], rfl, .inr (.inr (.inr ⟨stored, item, rfl, hitem, rfl, rfl⟩))⟩
  | next h hrest =>
    cases h with
    | explainAbsent _ _ _ habsence =>
      obtain ⟨rfl, hcreate, hmode⟩ := absence_inl habsence
      exact ⟨_, _, rfl, .inr (.inl ⟨rfl, hcreate, hmode, hrest⟩)⟩

section

variable {demand : Formula StoreValue} {touched : List Path} {answer : Except StoreError (Option Item)}
  {rest : List Round}
  (hholds : ∀ judge item, demand.holds judge item = true ↔ write.Meets touched item)

include hholds

/-- Without guards on paths, items with key attributes are all that a condition asks for. -/
theorem holds_of_free (hmissing : write.guards.requireMissing = false)
    (hpresent : write.guards.requirePresent = false) (stored : Item)
    (hkeys : ∀ name ∈ write.table.shape.names, stored.contains name = true)
    (judge : Formula StoreValue → Bool) : demand.holds judge stored = true :=
  (hholds judge stored).2 ⟨hkeys, by simp [hpresent], by simp [hmissing]⟩

/-- A read that fails, or finds an item that has no document, is reported as such. -/
theorem Reported.of_error {error : Error} (hseen : seen answer = .error error) :
    write.Reported demand touched answer [] (.error error) := by
  refine ⟨?_, ?_, ?_, ?_, ?_, ?_, ?_, holds_of_free hholds⟩
  · rintro fault rfl
    cases hseen
    exact ⟨rfl, rfl⟩
  · rintro rfl
    cases hseen
  · rintro rfl
    cases hseen
  · rintro stored e rfl hitem
    rw [seen, hitem] at hseen
    cases hseen
    exact ⟨rfl, rfl⟩
  all_goals
    rintro stored item rfl hitem
    rw [seen, hitem] at hseen
    cases hseen

theorem Reported.of_created (hcreate : write.guards.createIfMissing = true)
    (hmode : write.mode = .set) (hcourse : write.Course .create rest result) :
    write.Reported demand touched (.ok none) rest result := by
  refine ⟨?_, fun _ _ _ => hcourse, fun _ hnot => absurd hmode (hnot hcreate), ?_, ?_, ?_, ?_,
    holds_of_free hholds⟩
  · rintro _ ⟨⟩
  all_goals rintro _ _ ⟨⟩

theorem Reported.of_absence (habsence : write.absence = .inr result) :
    write.Reported demand touched (.ok none) [] result := by
  refine ⟨?_, fun _ hcreate hmode => ?_, fun _ _ => ⟨rfl, absence_inr habsence⟩, ?_, ?_, ?_, ?_,
    holds_of_free hholds⟩
  · rintro _ ⟨⟩
  · simp [absence, hcreate, hmode] at habsence
  all_goals rintro _ _ ⟨⟩

/-- What an item violates is reported if the condition does not hold of it. -/
theorem Reported.of_item {stored : Item} {item : Record Json}
    (hitem : StoreValue.membersOfItem stored = .ok item)
    (hpaths : write.guards.requirePresent = true ∨ write.guards.requireMissing = true →
      ∀ path ∈ touched, ∀ step ∈ path, step.isKey = true)
    (hone : write.guards.requirePresent = true → write.guards.requireMissing = false) :
    write.Reported demand touched (.ok (some stored)) []
      (.error (write.violation (.object item) touched)) := by
  have hfails : ∀ {judge}, demand.holds judge stored = false → ¬ write.Meets touched stored :=
    fun hfalse hmeets => Bool.noConfusion (hfalse.symm.trans ((hholds _ _).2 hmeets))
  refine ⟨?_, ?_, ?_, ?_, ?_, ?_, ?_, holds_of_free hholds⟩
  · rintro _ ⟨⟩
  · rintro ⟨⟩
  · rintro ⟨⟩
  · rintro _ e ⟨⟩ hunread
    rw [hitem] at hunread
    cases hunread
  · rintro _ item' ⟨⟩ - judge hdemand
    have hmeets := (hholds judge stored).1 hdemand
    exact ⟨rfl, congrArg Except.error (violation_of_meets hitem hpaths hmeets)⟩
  · rintro _ item' ⟨⟩ - hmissing hkeys judge hdemand
    have hpresent : write.guards.requirePresent = false :=
      Bool.eq_false_iff.2 fun hpresent => Bool.noConfusion (hmissing.symm.trans (hone hpresent))
    obtain ⟨hsome, hreport⟩ := violation_of_requireMissing hitem (hpaths (.inr hmissing))
      hmissing hpresent hkeys (hfails hdemand)
    exact ⟨rfl, hsome, congrArg Except.error hreport⟩
  · rintro _ item' ⟨⟩ - hpresent hkeys judge hdemand
    obtain ⟨hsome, hreport⟩ := violation_of_requirePresent hitem (hpaths (.inl hpresent))
      hpresent (hone hpresent) hkeys (hfails hdemand)
    exact ⟨rfl, hsome, congrArg Except.error hreport⟩

end

/-- The condition of a plan's request and the report after it go together: both are about the paths
that the plan touches and about what the item has there. -/
theorem Course.reported (hplan : write.Plans plan) (hdirect : write.direct = none)
    (hleaves : write.guards.requirePresent = true ∨ write.guards.requireMissing = true →
      write.WritesTree)
    (hone : write.guards.requirePresent = true → write.guards.requireMissing = false)
    (h : write.Course (.explain plan.paths) after result) :
    ∃ demand answer rest, after = ⟨write.readRequest, answer⟩ :: rest ∧
      write.Asked (write.request plan) demand plan.paths ∧
      write.Reported demand plan.paths answer rest result := by
  obtain ⟨demand, hasked, hholds⟩ := hplan.exists_asked hdirect hleaves
  obtain ⟨answer, rest, rfl, hcases⟩ := h.of_explain hdirect
  refine ⟨demand, answer, rest, rfl, hasked, ?_⟩
  rcases hcases with ⟨error, hseen, rfl, rfl⟩ | ⟨rfl, hcreate, hmode, hcourse⟩ |
    ⟨rfl, habsence, rfl⟩ | ⟨stored, item, rfl, hitem, rfl, rfl⟩
  · exact .of_error hholds hseen
  · exact .of_created hholds hcreate hmode hcourse
  · exact .of_absence hholds habsence
  · have hpaths : write.guards.requirePresent = true ∨ write.guards.requireMissing = true →
        ∀ path ∈ plan.paths, ∀ step ∈ path, step.isKey = true :=
      fun hguard path hpath => (hplan.names_of_mem (hleaves hguard) hpath).2
    exact .of_item hholds hitem hpaths hone

end Write

end ItemTable
