import ItemTable.Proofs.Rounds
import ItemTable.Write

set_option autoImplicit false

/-! # The course of a write

A write goes through stages. `Write.Step` lists what a stage can do: the rounds that it makes, at
most one, and the stage or the result that it leads to. `Write.Course` strings steps together, and
`Write.course_of_yields` says that every run of a write is a course. So what a step keeps is kept by
every run, whatever the store answers (`Write.Course.forall_rounds`). -/

namespace ItemTable

/-! ## Items before they are put -/

namespace Table

/-- The stored form of an item that passes all checks. -/
def prepare (table : Table) (item : Record Json) : Except Error Item := do
  table.checkItem item
  let _ ← table.key (.mapping (table.keyMembers item))
  (table.rules.storeItem item).mapError .conversion

/-- What comes of the answer to a put. -/
def insertResult (table : Table) (item : Record Json) (stored : Item) :
    Except StoreError Unit → Except Error Item
  | .ok _ => .ok stored
  | .error (.conditionFailed _) => .error (.alreadyExists table.name (Json.object item).text)
  | .error error => .error (.store error)

/-- All checks come before the one request. -/
theorem insert_eq (table : Table) (item : Record Json) (overwrite : Bool) :
    table.insert item overwrite =
      Program.ofExcept (table.prepare item) >>= fun stored =>
        Program.attempt (.put (table.putRequest stored overwrite)) >>= fun answer =>
          Program.ofExcept (table.insertResult item stored answer) := by
  unfold insert prepare
  cases table.checkItem item with
  | error e => rfl
  | ok _ =>
    cases table.key (.mapping (table.keyMembers item)) with
    | error e => rfl
    | ok _ =>
      cases table.rules.storeItem item with
      | error e => rfl
      | ok stored =>
        refine congrArg (Program.call _) (funext fun answer => ?_)
        rcases answer with (_ | _ | _ | _) | _ <;> rfl

/-- What a prepared item went through. -/
theorem prepare_eq_ok {table : Table} {item : Record Json} {stored : Item} :
    table.prepare item = .ok stored ↔
      table.rules.validate (.object item) = none ∧
      (∃ key, table.key (.mapping (table.keyMembers item)) = .ok key) ∧
      table.rules.storeItem item = .ok stored := by
  unfold prepare checkItem
  cases table.rules.validate (.object item) with
  | some finding => simp [refuse, bind, Except.bind]
  | none =>
    cases table.key (.mapping (table.keyMembers item)) with
    | error e => simp [refuse, bind, Except.bind]
    | ok key =>
      cases table.rules.storeItem item with
      | error e =>
        change Except.error (Error.conversion e) = Except.ok stored ↔ _
        simp
      | ok stored' =>
        change Except.ok stored' = Except.ok stored ↔ _
        simp

end Table

namespace Write

/-! ## Stages and steps -/

/-- Where a write stands. -/
inductive Stage
  /-- The request of the caller's clauses is to be made. -/
  | attempt (plan : UpdatePlan)
  /-- The item is to be read for the maps that it lacks. -/
  | recover
  /-- The request is to be made anew, for an item that was read. -/
  | retry (item : Record Json) (plan : UpdatePlan)
  /-- A failed condition of a request with these guarded paths is to be explained. -/
  | explain (guarded : List Path)
  /-- The missing item is to be created. -/
  | create

/-- What a step leads to: another stage, or the result of the write. -/
abbrev Outcome : Type := Stage ⊕ Except Error (Option Json)

/-- The result after attributes that the store returned. -/
def returned (write : Write) (attributes : Option Item) : Except Error (Option Json) :=
  (write.returns.decode attributes write.paths).mapError .conversion

/-- The result after the item was created. -/
def created (write : Write) (stored : Item) : Except Error (Option Json) :=
  if write.returns.wantsNew then write.returned (some stored) else .ok none

/-- What is known of the item after the answer to a read. -/
def seen : Except StoreError (Option Item) → Except Error (Option (Record Json))
  | .error fault => .error (.store fault)
  | .ok none => .ok none
  | .ok (some item) => ((StoreValue.membersOfItem item).map some).mapError .conversion

/-- A read that is understood found no item, or one that reads back. -/
theorem seen_eq_ok {answer : Except StoreError (Option Item)} {item : Option (Record Json)}
    (h : seen answer = .ok item) : (answer = .ok none ∧ item = none) ∨
      ∃ stored members, answer = .ok (some stored) ∧ item = some members ∧
        StoreValue.membersOfItem stored = .ok members := by
  rcases answer with fault | _ | stored
  · cases h
  · cases h
    exact .inl ⟨rfl, rfl⟩
  · simp only [seen] at h
    cases hitem : StoreValue.membersOfItem stored with
    | error e =>
      rw [hitem] at h
      cases h
    | ok members =>
      rw [hitem] at h
      cases h
      exact .inr ⟨stored, members, rfl, rfl, hitem⟩

/-- The request that reads the item. -/
def readRequest (write : Write) : Request := .get write.table.physicalName write.key.item

/-- What the item's absence leads to. -/
def absence (write : Write) : Outcome :=
  if write.guards.createIfMissing && write.mode == .set then .inl .create
  else .inr (.error write.notFound)

theorem absence_inl {write : Write} {stage : Stage} (h : write.absence = .inl stage) :
    stage = .create ∧ write.guards.createIfMissing = true ∧ write.mode = .set := by
  unfold absence at h
  split at h
  · rename_i hcreate
    cases h
    simpa using hcreate
  · cases h

theorem absence_inr {write : Write} {result : Except Error (Option Json)}
    (h : write.absence = .inr result) : result = .error write.notFound := by
  unfold absence at h
  split at h
  · cases h
  · cases h
    rfl

/-- A stage makes these rounds and leads to this outcome. -/
inductive Step (write : Write) : Stage → List Round → Outcome → Prop
  | attempted (plan : UpdatePlan) (attributes : Option Item) :
    Step write (.attempt plan) [⟨.update (write.request plan), .ok attributes⟩]
      (.inr (write.returned attributes))
  | attemptUnmet (plan : UpdatePlan) (message : String) :
    Step write (.attempt plan)
      [⟨.update (write.request plan), .error (.conditionFailed message)⟩]
      (.inl (.explain plan.paths))
  | attemptCut (plan : UpdatePlan) (fault : StoreError) (hfault : fault.isMissingPath = true)
    (hmay : write.mayRecover = true) :
    Step write (.attempt plan) [⟨.update (write.request plan), .error fault⟩] (.inl .recover)
  | attemptLost (plan : UpdatePlan) (fault : StoreError) (hfault : fault.isMissingPath = true)
    (hmay : write.mayRecover = false) :
    Step write (.attempt plan) [⟨.update (write.request plan), .error fault⟩]
      (.inr (.error (write.pathsMissing plan.paths)))
  | attemptFailed (plan : UpdatePlan) (fault : StoreError) (hfault : fault.isMissingPath = false)
    (hunmet : ∀ message, fault ≠ .conditionFailed message) :
    Step write (.attempt plan) [⟨.update (write.request plan), .error fault⟩]
      (.inr (.error (.store fault)))
  | recoverFailed (answer : Except StoreError (Option Item)) (error : Error)
    (hseen : seen answer = .error error) :
    Step write .recover [⟨write.readRequest, answer⟩] (.inr (.error error))
  | recoverAbsent (outcome : Outcome) (habsence : write.absence = outcome) :
    Step write .recover [⟨write.readRequest, .ok none⟩] outcome
  | recoverUnplanned (stored : Item) (item : Record Json) (error : ConversionError)
    (hitem : StoreValue.membersOfItem stored = .ok item)
    (hplan : write.plan (write.recoveryGroups item) = .error error) :
    Step write .recover [⟨write.readRequest, .ok (some stored)⟩] (.inr (.error (.conversion error)))
  | recovered (stored : Item) (item : Record Json) (plan : UpdatePlan)
    (hitem : StoreValue.membersOfItem stored = .ok item)
    (hplan : write.plan (write.recoveryGroups item) = .ok plan) :
    Step write .recover [⟨write.readRequest, .ok (some stored)⟩] (.inl (.retry item plan))
  | retried (item : Record Json) (plan : UpdatePlan) (attributes : Option Item) :
    Step write (.retry item plan) [⟨.update (write.request plan), .ok attributes⟩]
      (.inr (write.returned attributes))
  | retryUnmet (item : Record Json) (plan : UpdatePlan) (message : String) :
    Step write (.retry item plan)
      [⟨.update (write.request plan), .error (.conditionFailed message)⟩]
      (.inl (.explain plan.paths))
  | retryFailed (item : Record Json) (plan : UpdatePlan) (fault : StoreError)
    (hunmet : ∀ message, fault ≠ .conditionFailed message) :
    Step write (.retry item plan) [⟨.update (write.request plan), .error fault⟩]
      (.inr (.error (.store fault)))
  | explainedByCaller (guarded : List Path) (hdirect : write.direct.isSome = true) :
    Step write (.explain guarded) [] (.inr (.error write.conditionFailed))
  | explainFailed (guarded : List Path) (hdirect : write.direct = none)
    (answer : Except StoreError (Option Item)) (error : Error)
    (hseen : seen answer = .error error) :
    Step write (.explain guarded) [⟨write.readRequest, answer⟩] (.inr (.error error))
  | explainAbsent (guarded : List Path) (hdirect : write.direct = none) (outcome : Outcome)
    (habsence : write.absence = outcome) :
    Step write (.explain guarded) [⟨write.readRequest, .ok none⟩] outcome
  | explained (guarded : List Path) (hdirect : write.direct = none) (stored : Item)
    (item : Record Json) (hitem : StoreValue.membersOfItem stored = .ok item) :
    Step write (.explain guarded) [⟨write.readRequest, .ok (some stored)⟩]
      (.inr (.error (write.violation (.object item) guarded)))
  | createRefused (error : Error) (hprepare : write.table.prepare write.newItem = .error error) :
    Step write .create [] (.inr (.error error))
  | created (stored : Item) (hprepare : write.table.prepare write.newItem = .ok stored) :
    Step write .create [⟨.put (write.table.putRequest stored false), .ok ()⟩]
      (.inr (write.created stored))
  | createFailed (stored : Item) (hprepare : write.table.prepare write.newItem = .ok stored)
    (fault : StoreError) (error : Error)
    (hresult : write.table.insertResult write.newItem stored (.error fault) = .error error) :
    Step write .create [⟨.put (write.table.putRequest stored false), .error fault⟩]
      (.inr (.error error))

/-- From a stage on, a write makes these rounds and ends with this result. -/
inductive Course (write : Write) : Stage → List Round → Except Error (Option Json) → Prop
  | last {stage : Stage} {rounds : List Round} {result : Except Error (Option Json)}
    (h : write.Step stage rounds (.inr result)) : Course write stage rounds result
  | next {stage stage' : Stage} {first rounds : List Round} {result : Except Error (Option Json)}
    (h : write.Step stage first (.inl stage')) (hrest : Course write stage' rounds result) :
    Course write stage (first ++ rounds) result

/-! ## Every run is a course -/

section

variable {write : Write} {rounds : List Round} {result : Except Error (Option Json)}

theorem yields_finish {attributes : Option Item} :
    (write.finish attributes).Yields rounds result ↔
      rounds = [] ∧ result = write.returned attributes := Program.yields_convert

/-- Reading the item is one round, and what is known then is what its answer says. -/
theorem yields_read_bind {f : Option (Record Json) → Program (Option Json)} :
    (write.read >>= f).Yields rounds result ↔
      ∃ answer rest, rounds = ⟨write.readRequest, answer⟩ :: rest ∧
        ((∃ e, seen answer = .error e ∧ rest = [] ∧ result = .error e) ∨
          ∃ item, seen answer = .ok item ∧ (f item).Yields rest result) := by
  have hread : write.read >>= f = Program.attempt write.readRequest >>= fun answer =>
      Program.ofExcept (seen answer) >>= f := by
    refine congrArg (Program.call _) (funext fun answer => ?_)
    rcases answer with fault | _ | stored
    · rfl
    · rfl
    · change (some <$> Program.convert (StoreValue.membersOfItem stored)).bind f
        = (Program.ofExcept (seen (.ok (some stored)))).bind f
      simp only [seen]
      cases StoreValue.membersOfItem stored <;> rfl
  rw [hread]
  simp only [Program.yields_attempt_bind, Program.yields_ofExcept_bind]

theorem course_of_create (hrun : write.create.Yields rounds result) :
    write.Course .create rounds result := by
  unfold create at hrun
  rw [Table.insert_eq, bind_assoc] at hrun
  -- the item is refused before the put, or the put's answer decides
  rcases Program.yields_ofExcept_bind.1 hrun with ⟨e, hprepare, rfl, rfl⟩ | ⟨stored, hprepare, hput⟩
  · exact .last (.createRefused e hprepare)
  · rw [bind_assoc] at hput
    obtain ⟨answer, rest, rfl, hrest⟩ := Program.yields_attempt_bind.1 hput
    rcases Program.yields_ofExcept_bind.1 hrest with ⟨e, hresult, rfl, rfl⟩ | ⟨put, hresult, h⟩
    · cases answer with
      | ok _ => cases hresult
      | error fault => exact .last (.createFailed stored hprepare fault e hresult)
    · rcases answer with (_ | _ | _ | _) | ⟨⟩
      all_goals cases hresult
      have hcreated : rest = [] ∧ result = write.created stored := by
        unfold created
        split at h
        · rename_i hnew
          rw [if_pos hnew]
          exact Program.yields_convert.1 h
        · rename_i hnew
          rw [if_neg hnew]
          exact Program.yields_pure.1 h
      obtain ⟨rfl, rfl⟩ := hcreated
      exact .last (.created stored hprepare)

/-- A step into the item's absence goes on as the write does with a missing item. -/
theorem course_of_missing {stage : Stage} {first : List Round}
    (hstep : write.Step stage first write.absence)
    (h : write.onMissingItem.Yields rounds result) :
    write.Course stage (first ++ rounds) result := by
  unfold onMissingItem at h
  unfold absence at hstep
  split at h
  · rename_i hcreate
    rw [if_pos hcreate] at hstep
    exact .next hstep (course_of_create h)
  · rename_i hcreate
    rw [if_neg hcreate] at hstep
    obtain ⟨rfl, rfl⟩ := Program.yields_fail.1 h
    simpa using Course.last hstep

theorem course_of_explain {guarded : List Path} (h : (write.explain guarded).Yields rounds result) :
    write.Course (.explain guarded) rounds result := by
  unfold explain at h
  split at h
  · rename_i hdirect
    obtain ⟨rfl, rfl⟩ := Program.yields_fail.1 h
    exact .last (.explainedByCaller guarded hdirect)
  · rename_i hdirect
    replace hdirect : write.direct = none := by simpa using hdirect
    obtain ⟨answer, rest, rfl, ⟨e, hseen, rfl, rfl⟩ | ⟨item, hseen, h⟩⟩ := yields_read_bind.1 h
    · exact .last (.explainFailed guarded hdirect answer e hseen)
    · rcases seen_eq_ok hseen with ⟨rfl, rfl⟩ | ⟨stored, members, rfl, rfl, hitem⟩
      · exact course_of_missing (.explainAbsent guarded hdirect _ rfl) h
      · obtain ⟨rfl, rfl⟩ := Program.yields_fail.1 h
        exact .last (.explained guarded hdirect stored members hitem)

theorem course_of_retry {item : Record Json} {plan : UpdatePlan}
    (hrun : (write.retry plan).Yields rounds result) :
    write.Course (.retry item plan) rounds result := by
  obtain ⟨answer, rest, rfl, h⟩ := Program.yields_attempt_bind.1 hrun
  rcases answer with fault | attributes
  · cases fault with
    | conditionFailed message => exact .next (.retryUnmet item plan message) (course_of_explain h)
    | _ =>
      obtain ⟨rfl, rfl⟩ := Program.yields_fail.1 h
      exact .last (.retryFailed item plan _ nofun)
  · obtain ⟨rfl, rfl⟩ := yields_finish.1 h
    exact .last (.retried item plan attributes)

theorem course_of_recover (h : write.recover.Yields rounds result) :
    write.Course .recover rounds result := by
  obtain ⟨answer, rest, rfl, ⟨e, hseen, rfl, rfl⟩ | ⟨item, hseen, h⟩⟩ := yields_read_bind.1 h
  · exact .last (.recoverFailed answer e hseen)
  · rcases seen_eq_ok hseen with ⟨rfl, rfl⟩ | ⟨stored, members, rfl, rfl, hitem⟩
    · exact course_of_missing (.recoverAbsent _ rfl) h
    · rcases Program.yields_convert_bind.1 h with ⟨e, hplan, rfl, rfl⟩ | ⟨plan, hplan, h⟩
      · exact .last (.recoverUnplanned stored members e hitem hplan)
      · exact .next (.recovered stored members plan hitem hplan) (course_of_retry h)

theorem course_of_attempt {plan : UpdatePlan} (hrun : (write.attempt plan).Yields rounds result) :
    write.Course (.attempt plan) rounds result := by
  obtain ⟨answer, rest, rfl, h⟩ := Program.yields_attempt_bind.1 hrun
  rcases answer with fault | attributes
  · by_cases hunmet : ∃ message, fault = .conditionFailed message
    · obtain ⟨message, rfl⟩ := hunmet
      exact .next (.attemptUnmet plan message) (course_of_explain h)
    · replace hunmet : ∀ message, fault ≠ .conditionFailed message := fun message hfault =>
        hunmet ⟨message, hfault⟩
      replace h : (if !fault.isMissingPath then Program.fail (.store fault)
          else if write.mayRecover then write.recover
          else Program.fail (write.pathsMissing plan.paths)).Yields rest result := by
        cases fault with
        | conditionFailed message => exact absurd rfl (hunmet message)
        | validation message => exact h
        | service code message => exact h
        | request cause => exact h
      split at h
      · rename_i hfault
        obtain ⟨rfl, rfl⟩ := Program.yields_fail.1 h
        exact .last (.attemptFailed plan fault (by simpa using hfault) hunmet)
      · rename_i hfault
        replace hfault : fault.isMissingPath = true := by simpa using hfault
        split at h
        · rename_i hmay
          exact .next (.attemptCut plan fault hfault hmay) (course_of_recover h)
        · rename_i hmay
          obtain ⟨rfl, rfl⟩ := Program.yields_fail.1 h
          exact .last (.attemptLost plan fault hfault (by simpa using hmay))
  · obtain ⟨rfl, rfl⟩ := yields_finish.1 h
    exact .last (.attempted plan attributes)

/-- A write whose clauses cannot be compiled asks for nothing; any other one takes a course from its
attempt. -/
theorem course_of_yields (h : write.run.Yields rounds result) :
    (∃ e, write.plan [(write.mode, write.leaves)] = .error e ∧ rounds = [] ∧
        result = .error (.conversion e)) ∨
      ∃ plan, write.plan [(write.mode, write.leaves)] = .ok plan ∧
        write.Course (.attempt plan) rounds result := by
  rcases Program.yields_convert_bind.1 h with ⟨e, hplan, rfl, rfl⟩ | ⟨plan, hplan, h⟩
  · exact .inl ⟨e, hplan, rfl, rfl⟩
  · exact .inr ⟨plan, hplan, course_of_attempt h⟩

end

/-! ## What a course keeps -/

/-- What holds of the rounds of every step that starts where an invariant holds, holds of all rounds
of a course, if steps keep the invariant. -/
theorem Course.forall_rounds {write : Write} (Inv : Stage → Prop) {Holds : Round → Prop}
    (hround : ∀ stage rounds outcome, Inv stage → write.Step stage rounds outcome →
      ∀ round ∈ rounds, Holds round)
    (hinv : ∀ stage stage' rounds, Inv stage → write.Step stage rounds (.inl stage') → Inv stage')
    {stage : Stage} {rounds : List Round} {result : Except Error (Option Json)}
    (h : write.Course stage rounds result) (hstage : Inv stage) :
    ∀ round ∈ rounds, Holds round := by
  induction h with
  | last h => exact hround _ _ _ hstage h
  | next h _ ih =>
    intro round hmem
    rcases List.mem_append.1 hmem with hmem | hmem
    · exact hround _ _ _ hstage h round hmem
    · exact ih (hinv _ _ _ hstage h) round hmem

/-- A step makes the request of its stage's plan, reads the item or puts one. -/
theorem Step.request_eq {write : Write} {stage : Stage} {rounds : List Round} {outcome : Outcome}
    (h : write.Step stage rounds outcome) : ∀ round ∈ rounds,
      (∃ plan, (stage = .attempt plan ∨ ∃ item, stage = .retry item plan) ∧
          round.request = .update (write.request plan)) ∨
        round.request = write.readRequest ∨
        ∃ stored, round.request = .put (write.table.putRequest stored false) := by
  cases h with
  | created stored => simpa using .inr ⟨stored, rfl⟩
  | createFailed stored => simpa using .inr ⟨stored, rfl⟩
  | _ => simp

/-! ## The updates of a course -/

section

variable {write : Write} {stage : Stage} {plan : UpdatePlan} {rounds : List Round}
  {result : Except Error (Option Json)}

/-- A failed condition is explained, and a missing item created, without an update. -/
theorem Course.no_update (h : write.Course stage rounds result)
    (hstage : stage = .create ∨ ∃ guarded, stage = .explain guarded) :
    ∀ round ∈ rounds, ∀ request, round.request ≠ .update request := by
  refine h.forall_rounds (fun stage => stage = .create ∨ ∃ guarded, stage = .explain guarded)
    ?_ ?_ hstage
  · rintro _ rounds outcome (rfl | ⟨guarded, rfl⟩) hstep
    all_goals cases hstep <;> simp [readRequest]
  · rintro _ stage' rounds (rfl | ⟨guarded, rfl⟩) hstep
    · cases hstep
    · cases hstep with
      | explainAbsent _ _ _ habsence => exact .inl (absence_inl habsence).1

/-- The rounds of a retry: its update, and none after it. -/
theorem Course.of_retry {item : Record Json} (h : write.Course (.retry item plan) rounds result) :
    ∃ answer rest, rounds = ⟨.update (write.request plan), answer⟩ :: rest ∧
      ∀ round ∈ rest, ∀ request, round.request ≠ .update request := by
  cases h with
  | last h => cases h <;> exact ⟨_, [], rfl, by simp⟩
  | next h hrest =>
    cases h with
    | retryUnmet _ _ message => exact ⟨_, _, rfl, hrest.no_update (.inr ⟨_, rfl⟩)⟩

/-- The updates of a write: the caller's clauses first; and once more, if those met a missing path,
the clauses for an item that was read in between. -/
theorem Course.updates (h : write.Course (.attempt plan) rounds result) :
    ∃ answer rest, rounds = ⟨.update (write.request plan), answer⟩ :: rest ∧
      ((∀ round ∈ rest, ∀ request, round.request ≠ .update request) ∨
        ∃ fault stored item plan' answer' rest',
          answer = .error fault ∧ fault.isMissingPath = true ∧ write.mayRecover = true ∧
          StoreValue.membersOfItem stored = .ok item ∧
          write.plan (write.recoveryGroups item) = .ok plan' ∧
          rest = ⟨write.readRequest, .ok (some stored)⟩
            :: ⟨.update (write.request plan'), answer'⟩ :: rest' ∧
          ∀ round ∈ rest', ∀ request, round.request ≠ .update request) := by
  cases h with
  | last h => cases h <;> exact ⟨_, [], rfl, .inl (by simp)⟩
  | next h hrest =>
    cases h with
    | attemptUnmet _ message => exact ⟨_, _, rfl, .inl (hrest.no_update (.inr ⟨_, rfl⟩))⟩
    | attemptCut _ fault hfault hmay =>
      refine ⟨_, _, rfl, ?_⟩
      cases hrest with
      | last h => cases h <;> exact .inl (by simp [readRequest])
      | next h hrest =>
        cases h with
        | recoverAbsent _ habsence =>
          obtain ⟨rfl, -, -⟩ := absence_inl habsence
          refine .inl ?_
          simpa [readRequest] using hrest.no_update (.inl rfl)
        | recovered stored item plan' hitem hplan =>
          obtain ⟨answer', rest', rfl, hrest'⟩ := hrest.of_retry
          exact .inr ⟨fault, stored, item, plan', answer', rest', rfl, hfault, hmay, hitem, hplan,
            rfl, hrest'⟩

/-- The plan of an update by its place among the rounds. -/
theorem Course.update_at (h : write.Course (.attempt plan) rounds result)
    {before after : List Round} {round : Round} {request : UpdateRequest}
    (hrounds : rounds = before ++ round :: after) (hrequest : round.request = .update request) :
    (before = [] ∧ request = write.request plan) ∨
      ∃ fault stored item plan', before =
          [⟨.update (write.request plan), .error fault⟩, ⟨write.readRequest, .ok (some stored)⟩] ∧
        fault.isMissingPath = true ∧ write.mayRecover = true ∧
        StoreValue.membersOfItem stored = .ok item ∧
        write.plan (write.recoveryGroups item) = .ok plan' ∧ request = write.request plan' := by
  obtain ⟨answer, rest, hfirst, hrest⟩ := h.updates
  rw [hrounds] at hfirst
  cases before with
  | nil =>
    obtain ⟨rfl, -⟩ := List.cons.inj hfirst
    cases hrequest
    exact .inl ⟨rfl, rfl⟩
  | cons first before =>
    obtain ⟨rfl, rfl⟩ := List.cons.inj hfirst
    rcases hrest with hnone | ⟨fault, stored, item, plan', answer', rest', rfl, hfault, hmay,
      hitem, hplan, hread, hnone⟩
    · exact absurd hrequest (hnone round (by simp) request)
    · refine .inr ⟨fault, stored, item, plan', ?_⟩
      -- the second round is the read and the third the second update; none comes later
      rcases before with _ | ⟨second, _ | ⟨third, before⟩⟩
      · obtain ⟨rfl, -⟩ := List.cons.inj hread
        cases hrequest
      · obtain ⟨rfl, htail⟩ := List.cons.inj hread
        obtain ⟨rfl, -⟩ := List.cons.inj htail
        cases hrequest
        exact ⟨rfl, hfault, hmay, hitem, hplan, rfl⟩
      · obtain ⟨-, htail⟩ := List.cons.inj hread
        obtain ⟨-, rfl⟩ := List.cons.inj htail
        exact absurd hrequest (hnone round (by simp) request)

/-! ## The put of a course -/

/-- The rounds of creating an item: none, or one put of the new item's stored form. -/
theorem Course.of_create (h : write.Course .create rounds result) :
    rounds = [] ∨ ∃ stored answer, write.table.prepare write.newItem = .ok stored ∧
      rounds = [⟨.put (write.table.putRequest stored false), answer⟩] := by
  cases h with
  | last h =>
    cases h with
    | createRefused => exact .inl rfl
    | created stored hprepare => exact .inr ⟨stored, _, hprepare, rfl⟩
    | createFailed stored hprepare fault => exact .inr ⟨stored, _, hprepare, rfl⟩
  | next h => cases h

theorem Step.no_put_of_inl {stage' : Stage} (h : write.Step stage rounds (.inl stage')) :
    ∀ round ∈ rounds, ∀ put, round.request ≠ .put put := by
  cases h <;> simp [readRequest]

theorem Step.put_of_inr (h : write.Step stage rounds (.inr result)) :
    ∀ round ∈ rounds, ∀ put, round.request = .put put → stage = .create ∧
      ∃ stored, write.table.prepare write.newItem = .ok stored ∧
        put = write.table.putRequest stored false ∧ rounds = [round] := by
  intro round hmem put hput
  cases h with
  | created stored hprepare =>
    obtain rfl := List.mem_singleton.1 hmem
    cases hput
    exact ⟨rfl, stored, hprepare, rfl, rfl⟩
  | createFailed stored hprepare =>
    obtain rfl := List.mem_singleton.1 hmem
    cases hput
    exact ⟨rfl, stored, hprepare, rfl, rfl⟩
  | _ => simp_all [readRequest]

/-- An item is put in the last round, as the new item of the write; and, unless the course starts
there, right after a read that found no item. -/
theorem Course.put_at (h : write.Course stage rounds result) {before after : List Round}
    {round : Round} {put : PutRequest} (hrounds : rounds = before ++ round :: after)
    (hput : round.request = .put put) :
    (∃ stored, write.table.prepare write.newItem = .ok stored ∧
        put = write.table.putRequest stored false) ∧ after = [] ∧
      (stage = .create ∧ before = [] ∨
        write.guards.createIfMissing = true ∧ write.mode = .set ∧
          ∃ before', before = before' ++ [⟨write.readRequest, .ok none⟩]) := by
  induction h generalizing before with
  | last h =>
    obtain ⟨rfl, stored, hprepare, rfl, rfl⟩ := h.put_of_inr round (by simp [hrounds]) put hput
    have hsplit : before = [] ∧ after = [] := by
      cases before <;> simp_all
    exact ⟨⟨stored, hprepare, rfl⟩, hsplit.2, .inl ⟨rfl, hsplit.1⟩⟩
  | @next stage stage' first rest result h hrest ih =>
    -- the round is one of the rest, since the first step puts nothing
    have hsplit : ∃ before', before = first ++ before' ∧ rest = before' ++ round :: after := by
      rcases List.append_eq_append_iff.1 hrounds with
        ⟨middle, rfl, hrest⟩ | ⟨middle, hfirst, hround⟩
      · exact ⟨middle, rfl, hrest⟩
      · cases middle with
        | nil => exact ⟨[], by simpa using hfirst.symm, hround.symm⟩
        | cons other middle =>
          obtain ⟨rfl, -⟩ := List.cons.inj hround
          exact absurd hput (h.no_put_of_inl round (by simp [hfirst]) put)
    obtain ⟨before', rfl, hrest'⟩ := hsplit
    obtain ⟨hstored, hafter, hbefore⟩ := ih hrest'
    refine ⟨hstored, hafter, .inr ?_⟩
    rcases hbefore with ⟨rfl, rfl⟩ | ⟨hcreate, hmode, before, rfl⟩
    · cases h with
      | recoverAbsent _ habsence =>
        obtain ⟨-, hcreate, hmode⟩ := absence_inl habsence
        exact ⟨hcreate, hmode, [], rfl⟩
      | explainAbsent _ _ _ habsence =>
        obtain ⟨-, hcreate, hmode⟩ := absence_inl habsence
        exact ⟨hcreate, hmode, [], rfl⟩
    · exact ⟨hcreate, hmode, first ++ before, (List.append_assoc ..).symm⟩

/-- A run puts the stored form of its new item, and only one that passes all checks. -/
theorem run_put {σ : Type} (store : Store σ) (state : σ) (write : Write) :
    ∀ round ∈ write.run.rounds store state, ∀ put, round.request = .put put →
      ∃ stored, write.table.prepare write.newItem = .ok stored ∧
        put = write.table.putRequest stored false := by
  intro round hmem put hput
  rcases course_of_yields (write.run.yields_rounds store state) with
    ⟨e, -, hrounds, -⟩ | ⟨plan, -, hcourse⟩
  · simp [hrounds] at hmem
  · obtain ⟨before, after, hrounds⟩ := List.append_of_mem hmem
    exact (hcourse.put_at hrounds hput).1

end

end Write

end ItemTable
