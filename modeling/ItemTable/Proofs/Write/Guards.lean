import ItemTable.Proofs.Condition
import ItemTable.Proofs.Write.Commit

set_option autoImplicit false

/-! # What a write asks of the item

The request of a plan asks that the item exists, what the guards ask of the plan's paths, and the
caller's condition. The request that creates an item asks that it does not exist, and nothing else.
`Write.run_demands` says which requests the caller's condition stands in. -/

namespace ItemTable

/-- The terms ask for a condition: its text is the last part of a conjunction, and its placeholders
have their meaning. -/
structure WriteTerms.Demands (terms : WriteTerms) (condition : Expression) : Prop where
  text : ∃ guards, terms.condition
    = some (Condition.conjunction.intercalate (guards ++ [condition.text]))
  names : ∀ token name, condition.names.get? token = some name →
    terms.names.get? token = some name
  values : ∀ token value, condition.values.get? token = some value →
    terms.values.get? token = some value

namespace Write

variable {write : Write}

/-! ## The request of a plan -/

/-- The guards of a plan: the item has to exist, and the plan's paths have to be there or to be
missing as the caller asks. -/
def guardTexts (write : Write) (plan : UpdatePlan) : List String :=
  Condition.guardTexts
    (write.table.keyPaths ++ if write.guards.requirePresent then plan.paths else [])
    (if write.guards.requireMissing then plan.paths else []) (write.names plan)

/-- The names of the caller's condition. -/
def directNames (write : Write) : Record String := (write.direct.map (·.names)).getD []

/-- The values of the caller's condition. -/
def directValues (write : Write) : Item := (write.direct.map (·.values)).getD []

theorem keyPaths_ne_nil (table : Table) : table.keyPaths ≠ [] := by
  unfold Table.keyPaths
  cases table.shape <;> simp [KeyShape.names]

theorem condition?_eq (write : Write) (plan : UpdatePlan) : write.condition? plan = some
    { text := Condition.conjunction.intercalate
        (write.guardTexts plan ++ (write.direct.map (·.text)).toList)
      names := write.directNames
      values := write.directValues } := by
  refine Condition.guarded_eq _ write.condition ?_
  simp [Condition.guardTexts, keyPaths_ne_nil]

theorem direct_eq_some {condition : Condition} (hcondition : write.condition = some condition)
    (h : condition ≠ []) : write.direct = some condition.compile := by
  simp [direct, hcondition, Condition.compile?, h]

/-- The caller's condition, if there is one, is a compiled one. -/
theorem exists_of_direct_eq_some {direct : Expression} (h : write.direct = some direct) :
    ∃ condition : Condition, direct = condition.compile := by
  unfold Write.direct at h
  obtain ⟨condition, -, hcompile⟩ := Option.bind_eq_some_iff.1 h
  unfold Condition.compile? at hcompile
  split at hcompile
  · cases hcompile
  · exact ⟨condition, (Option.some.inj hcompile).symm⟩

/-- The names and values of the caller's condition stand after those of the plan. -/
theorem request_terms (write : Write) (plan : UpdatePlan) : (write.request plan).terms =
    { table := write.table.physicalName
      condition := some (Condition.conjunction.intercalate
        (write.guardTexts plan ++ (write.direct.map (·.text)).toList))
      names := (write.names plan).table ++ write.directNames
      values := plan.values ++ write.directValues
      returns := some write.returns.requested } := by
  simp only [request, condition?_eq, Option.map_some, Option.getD_some, directNames, directValues]
  cases hdirect : write.direct with
  | none => simp [Record.merge]
  | some direct =>
    obtain ⟨condition, rfl⟩ := exists_of_direct_eq_some hdirect
    simp only [Option.map_some, Option.getD_some]
    rw [Condition.merge_names_compile, Condition.merge_values_compile]

/-- The names of a request are those on its plan's paths and those of the key attributes. -/
theorem mem_names (write : Write) (plan : UpdatePlan) {name : String} :
    name ∈ (write.names plan).seen ↔
      name ∈ Names.onPaths plan.paths ∨ name ∈ Names.onPaths write.table.keyPaths := by
  rw [names, Names.mem_seePaths, UpdatePlan.names, Names.mem_seePaths]
  simp [Names.empty]

theorem demands_request {direct : Expression} (h : write.direct = some direct)
    (plan : UpdatePlan) : (write.request plan).terms.Demands direct := by
  obtain ⟨condition, rfl⟩ := exists_of_direct_eq_some h
  rw [request_terms, directNames, directValues, h]
  exact
    { text := ⟨write.guardTexts plan, rfl⟩
      names := fun _ _ =>
        Record.get?_append_of_disjoint (Condition.disjoint_names_compile _ condition)
      values := fun _ _ =>
        Record.get?_append_of_disjoint (Condition.disjoint_values_compile _ condition) }

end Write

/-! ## The request that creates an item -/

/-- A request that creates an item asks that none has its key. -/
theorem Table.putRequest_terms (table : Table) (item : Item) :
    (table.putRequest item false).terms =
      { table := table.physicalName
        condition := some (Condition.conjunction.intercalate
          (Condition.guardTexts [] table.keyPaths (Names.empty.seePaths table.keyPaths)))
        names := (Names.empty.seePaths table.keyPaths).table
        values := []
        returns := none } := by
  have hguards : Condition.guardTexts [] table.keyPaths (Names.empty.seePaths table.keyPaths)
      ≠ [] := by
    simp [Condition.guardTexts, Write.keyPaths_ne_nil]
  have hguarded := Condition.guarded_eq (Names.empty.seePaths table.keyPaths) none hguards
  simp only [Option.bind_none] at hguarded
  simp [putRequest, hguarded]

/-- It does not ask for a condition of the caller's. -/
theorem Table.not_demands_putRequest (table : Table) (item : Item) {condition : Condition}
    (h : condition ≠ []) : ¬ (table.putRequest item false).terms.Demands condition.compile := by
  intro hdemands
  -- the condition names an attribute under a placeholder that the request does not list
  obtain ⟨name, rest, hattributes⟩ := List.exists_cons_of_ne_nil (Condition.attributes_ne_nil h)
  have hname : condition.compile.names.get? (Condition.attributePlaceholder 0) = some name :=
    Record.get?_numbered (fun _ _ => Condition.attributePlaceholder_inj) (by rw [hattributes]; rfl)
  have hmem : ∀ token : String, token ∉ (table.putRequest item false).terms.names.names →
      (table.putRequest item false).terms.names.get? token = none := fun token =>
    (Record.get?_eq_none_iff _ token).2
  have hput := hdemands.names _ name hname
  rw [hmem] at hput
  · cases hput
  · rw [putRequest_terms]
    refine Condition.disjoint_names_compile _ condition _ ?_
    rw [Condition.names_compile, hattributes]
    exact List.mem_map.2 ⟨0, by simp, rfl⟩

namespace Write

/-! ## Where the caller's condition stands -/

variable {write : Write} {plan : UpdatePlan} {rounds : List Round}
  {result : Except Error (Option Json)}

/-- A failed condition of the caller's is an error, so nothing is created after it. -/
theorem Course.no_put (hdirect : write.direct.isSome = true) {stage : Stage}
    (h : write.Course stage rounds result)
    (hstage : (∃ item plan, stage = .retry item plan) ∨ ∃ guarded, stage = .explain guarded) :
    ∀ round ∈ rounds, ∀ put, round.request ≠ .put put := by
  refine h.forall_rounds
    (fun stage => (∃ item plan, stage = .retry item plan) ∨ ∃ guarded, stage = .explain guarded)
    ?_ ?_ hstage
  · rintro _ rounds outcome (⟨item, plan, rfl⟩ | ⟨guarded, rfl⟩) hstep
    all_goals cases hstep <;> simp [readRequest]
  · rintro _ stage' rounds (⟨item, plan, rfl⟩ | ⟨guarded, rfl⟩) hstep
    · cases hstep with
      | retryUnmet => exact .inr ⟨_, rfl⟩
    · cases hstep with
      | explainAbsent _ hnone => simp [hnone] at hdirect

/-- Under a condition of the caller's, an item is created only after a missing path. -/
theorem Course.put_after_cut (hdirect : write.direct.isSome = true)
    (h : write.Course (.attempt plan) rounds result) :
    (∀ round ∈ rounds, ∀ put, round.request ≠ .put put) ∨
      ∃ fault stored answer, rounds =
          [⟨.update (write.request plan), .error fault⟩, ⟨write.readRequest, .ok none⟩,
            ⟨.put (write.table.putRequest stored false), answer⟩] ∧
        fault.isMissingPath = true ∧ write.mayRecover = true ∧
        write.guards.createIfMissing = true ∧ write.mode = .set := by
  cases h with
  | last h => exact .inl (by cases h <;> simp)
  | next h hrest =>
    cases h with
    | attemptUnmet _ message =>
      have hnone := hrest.no_put hdirect (.inr ⟨_, rfl⟩)
      exact .inl (List.forall_mem_append.2 ⟨by simp, hnone⟩)
    | attemptCut _ fault hfault hmay =>
      cases hrest with
      | last h => exact .inl (by cases h <;> simp [readRequest])
      | next h hrest =>
        cases h with
        | recovered stored item plan' =>
          -- a retry that fails on the condition says so, and creates nothing
          have hnone := hrest.no_put hdirect (.inl ⟨_, _, rfl⟩)
          exact .inl (List.forall_mem_append.2
            ⟨by simp, List.forall_mem_append.2 ⟨by simp [readRequest], hnone⟩⟩)
        | recoverAbsent _ habsence =>
          obtain ⟨rfl, hcreate, hmode⟩ := absence_inl habsence
          rcases hrest.of_create with rfl | ⟨stored, answer, -, rfl⟩
          · exact .inl (by simp [readRequest])
          · exact .inr ⟨fault, stored, answer, rfl, hfault, hmay, hcreate, hmode⟩

/-- The caller's condition stands in every update. It does not stand in the request that creates an
item: that one is made after a missing path and a read that found no item, and it is the only way
in which a write can change the store without the condition. -/
theorem run_demands {σ : Type} (store : Store σ) (state : σ) (write : Write)
    (condition : Condition) (hcondition : write.condition = some condition) (hne : condition ≠ []) :
    (∀ round ∈ write.run.rounds store state, ∀ request, round.request = .update request →
      request.terms.Demands condition.compile) ∧
    (∀ round ∈ write.run.rounds store state, ∀ put, round.request = .put put →
      ¬ put.terms.Demands condition.compile) ∧
    ((∀ round ∈ write.run.rounds store state, ∀ put, round.request ≠ .put put) ∨
      ∃ request fault put answer, write.run.rounds store state =
          [⟨.update request, .error fault⟩, ⟨write.readRequest, .ok none⟩, ⟨.put put, answer⟩] ∧
        fault.isMissingPath = true ∧ write.guards.requirePresent = false ∧
        write.guards.createIfMissing = true ∧ write.mode = .set) := by
  have hdirect := direct_eq_some hcondition hne
  have hput : ∀ round ∈ write.run.rounds store state, ∀ put, round.request = .put put →
      ¬ put.terms.Demands condition.compile := by
    intro round hmem put hput
    obtain ⟨stored, -, rfl⟩ := run_put store state write round hmem put hput
    exact write.table.not_demands_putRequest stored hne
  rcases course_of_yields (write.run.yields_rounds store state) with
    ⟨e, -, hrounds, -⟩ | ⟨plan, -, hcourse⟩
  · simp [hrounds]
  · refine ⟨?_, hput, ?_⟩
    · intro round hmem request hrequest
      obtain ⟨before, after, hrounds⟩ := List.append_of_mem hmem
      rcases hcourse.update_at hrounds hrequest with ⟨-, rfl⟩ | ⟨_, _, _, plan', -, -, -, -, -, rfl⟩
      · exact demands_request hdirect plan
      · exact demands_request hdirect plan'
    · rcases hcourse.put_after_cut (by simp [hdirect]) with
        hnone | ⟨fault, stored, answer, hrounds, hfault, hmay, hcreate, hmode⟩
      · exact .inl hnone
      · have hguards : write.guards.requirePresent = false := by
          simp only [mayRecover, Bool.and_eq_true] at hmay
          simpa using hmay.1
        exact .inr ⟨_, fault, _, answer, hrounds, hfault, hguards, hcreate, hmode⟩

/-- A write of a number into an item in which the number is zero; a missing item is created. -/
def resetToOne : Write where
  table := ⟨"T", "P-T", .simple "id", .free ["id"]⟩
  key := ⟨⟨"id", .string "a"⟩, none⟩
  mode := .set
  data := [("n", .ofInt 1)]
  leaves := [⟨[.key "n"], .ofInt 1, false⟩]
  guards := ⟨false, false, true⟩
  condition := some [⟨"n", .compare .eq (.ofInt 0)⟩]
  returns := .none

/-- A store that knows no path and has no item. -/
def pathless : Script :=
  ⟨[.failed (.validation ("The " ++ StoreError.invalidDocumentPath)), .item none, .accepted], []⟩

theorem run_demands_resetToOne :
    resetToOne.condition = some [⟨"n", .compare .eq (.ofInt 0)⟩] ∧
      ∀ round ∈ resetToOne.run.rounds scripted pathless, ∀ request,
        round.request = .update request →
          request.terms.Demands (Condition.compile [⟨"n", .compare .eq (.ofInt 0)⟩]) :=
  ⟨rfl, (run_demands scripted pathless resetToOne _ rfl (List.cons_ne_nil _ _)).1⟩

/-- The item is created without a look at the number. -/
theorem resetToOne_creates : ∃ round ∈ resetToOne.run.rounds scripted pathless, ∃ put,
    round.request = .put put ∧
      ¬ put.terms.Demands (Condition.compile [⟨"n", .compare .eq (.ofInt 0)⟩]) := by
  have hputs : ((resetToOne.run.rounds scripted pathless).any (·.request.kind == .put)) = true := by
    decide +kernel
  obtain ⟨round, hmem, hkind⟩ := List.any_eq_true.1 hputs
  cases hrequest : round.request with
  | put put =>
    obtain ⟨stored, -, rfl⟩ := run_put scripted pathless resetToOne round hmem put hrequest
    exact ⟨round, hmem, _, hrequest,
      Table.not_demands_putRequest _ stored (List.cons_ne_nil _ _)⟩
  | _ => simp [hrequest, Request.kind] at hkind

end Write

end ItemTable
