import ItemTable.Proofs.Key
import ItemTable.Proofs.Write.Course

set_option autoImplicit false

/-! # A write commits at most once

The calls of a write come in one of few orders, and at most one of them changes the item, the last
one. `Write.run_singleCommit` states this for every store, together with what the write's result
says of it, and says when all of the calls are about one key: a created item has the key as the
table's rules store it, all other calls name the key as it is. -/

namespace ItemTable

/-! ## Calls -/

/-- What a request on one item does. -/
inductive RequestKind
  | get
  | put
  | update
  | other
  deriving DecidableEq, Repr

/-- The kind of a request. -/
def Request.kind : Request → RequestKind
  | .get .. => .get
  | .put _ => .put
  | .update _ => .update
  | _ => .other

/-- The table and the primary key of a request on one item. -/
def Request.place? (shape : KeyShape) : Request → Option (String × Item)
  | .get table key => some (table, key)
  | .put request => some (request.terms.table, shape.project request.item)
  | .update request => some (request.terms.table, request.key)
  | .delete table key => some (table, key)
  | _ => none

/-- The attributes that are known after an update or a put that succeeded; `none` after any other
round. -/
def Round.committed? : Round → Option (Option Item)
  | ⟨.update _, .ok attributes⟩ => some attributes
  | ⟨.put request, .ok _⟩ => some (some request.item)
  | _ => none

/-- Whether an update or a put succeeded. -/
def Round.commits (round : Round) : Bool := round.committed?.isSome

/-- Whether a stored value is a byte string. -/
def StoreValue.isBinary : StoreValue → Bool
  | .binary _ => true
  | _ => false

namespace Write

/-! ## The order of calls -/

/-- The orders of calls from a stage on. -/
def Stage.words : Stage → List (List RequestKind)
  | .create => [[], [.put]]
  | .explain _ => [[], [.get], [.get, .put]]
  | .retry _ _ => [[.update], [.update, .get], [.update, .get, .put]]
  | .recover =>
    [[.get], [.get, .put], [.get, .update], [.get, .update, .get], [.get, .update, .get, .put]]
  | .attempt _ =>
    [[.update], [.update, .get], [.update, .get, .put], [.update, .get, .update],
      [.update, .get, .update, .get], [.update, .get, .update, .get, .put]]

section

variable {write : Write} {stage : Stage} {plan : UpdatePlan} {rounds : List Round}
  {result : Except Error (Option Json)}

theorem Course.word_mem (h : write.Course stage rounds result) :
    rounds.map (·.request.kind) ∈ stage.words := by
  induction h with
  | last h => cases h <;> simp [Stage.words, readRequest, Request.kind]
  | @next _ _ first rest _ h _ ih =>
    -- the step's own call stands before an order of calls of the stage that it leads to
    rw [List.map_append]
    generalize rest.map (·.request.kind) = word at ih
    cases h with
    | recoverAbsent _ habsence =>
      obtain ⟨rfl, -, -⟩ := absence_inl habsence
      simp only [Stage.words, List.mem_cons, List.not_mem_nil, or_false] at ih
      rcases ih with rfl | rfl <;> simp [Stage.words, readRequest, Request.kind]
    | explainAbsent _ _ _ habsence =>
      obtain ⟨rfl, -, -⟩ := absence_inl habsence
      simp only [Stage.words, List.mem_cons, List.not_mem_nil, or_false] at ih
      rcases ih with rfl | rfl <;> simp [Stage.words, readRequest, Request.kind]
    | attemptCut =>
      simp only [Stage.words, List.mem_cons, List.not_mem_nil, or_false] at ih
      rcases ih with rfl | rfl | rfl | rfl | rfl <;> simp [Stage.words, Request.kind]
    | _ =>
      simp only [Stage.words, List.mem_cons, List.not_mem_nil, or_false] at ih
      rcases ih with rfl | rfl | rfl <;> simp [Stage.words, readRequest, Request.kind]

/-! ## The commit -/

/-- What a write gives back after a round that commits: by the attributes that the store returned of
an update, or by the item that was put. -/
inductive GivesBack (write : Write) : Round → Except Error (Option Json) → Prop
  | updated (request : UpdateRequest) (attributes : Option Item) :
    GivesBack write ⟨.update request, .ok attributes⟩ (write.returned attributes)
  | created (put : PutRequest) : GivesBack write ⟨.put put, .ok ()⟩ (write.created put.item)

theorem GivesBack.commits {round : Round} (h : write.GivesBack round result) :
    round.commits = true := by
  cases h <;> rfl

/-- Nothing but the attributes that are to be given back can fail after a commit. -/
theorem GivesBack.error {round : Round} {e : Error} {attributes : Option Item}
    (h : write.GivesBack round result) (hresult : result = .error e)
    (hattributes : round.committed? = some attributes) :
    ∃ c, write.returns.decode attributes write.paths = .error c ∧ e = .conversion c := by
  have hreturned : write.returned attributes = .error e := by
    cases h with
    | updated =>
      cases hattributes
      exact hresult
    | created =>
      cases hattributes
      unfold Write.created at hresult
      split at hresult
      · exact hresult
      · cases hresult
  unfold returned at hreturned
  cases hdecode : write.returns.decode attributes write.paths with
  | error c =>
    rw [hdecode] at hreturned
    cases hreturned
    exact ⟨c, rfl, rfl⟩
  | ok value =>
    rw [hdecode] at hreturned
    cases hreturned

/-- A step to another stage commits nothing. -/
theorem Step.commits_of_inl {stage' : Stage} (h : write.Step stage rounds (.inl stage')) :
    ∀ round ∈ rounds, round.commits = false := by
  cases h <;> simp [Round.commits, Round.committed?, readRequest]

/-- A step to a result fails without a commit, or is one commit that makes the result. -/
theorem Step.commits_of_inr (h : write.Step stage rounds (.inr result)) :
    (∀ round ∈ rounds, round.commits = false) ∧ (∃ e, result = .error e) ∨
      ∃ last, rounds = [last] ∧ write.GivesBack last result := by
  cases h with
  | attempted => exact .inr ⟨_, rfl, .updated _ _⟩
  | retried => exact .inr ⟨_, rfl, .updated _ _⟩
  | created stored => exact .inr ⟨_, rfl, .created (write.table.putRequest stored false)⟩
  | recoverAbsent _ habsence =>
    exact .inl ⟨by simp [Round.commits, Round.committed?, readRequest], _, absence_inr habsence⟩
  | explainAbsent _ _ _ habsence =>
    exact .inl ⟨by simp [Round.commits, Round.committed?, readRequest], _, absence_inr habsence⟩
  | _ => exact .inl ⟨by simp [Round.commits, Round.committed?, readRequest], _, rfl⟩

/-- A course fails without a commit, or ends with its only commit. -/
theorem Course.commits (h : write.Course stage rounds result) :
    (∀ round ∈ rounds, round.commits = false) ∧ (∃ e, result = .error e) ∨
      ∃ before last, rounds = before ++ [last] ∧
        (∀ round ∈ before, round.commits = false) ∧ write.GivesBack last result := by
  induction h with
  | last h =>
    rcases h.commits_of_inr with h | ⟨last, rfl, hlast⟩
    · exact .inl h
    · exact .inr ⟨[], last, rfl, by simp, hlast⟩
  | @next _ _ first _ _ h _ ih =>
    have hfirst := h.commits_of_inl
    rcases ih with ⟨hrest, herror⟩ | ⟨before, last, rfl, hbefore, hlast⟩
    · exact .inl ⟨List.forall_mem_append.2 ⟨hfirst, hrest⟩, herror⟩
    · exact .inr ⟨first ++ before, last, (List.append_assoc ..).symm,
        List.forall_mem_append.2 ⟨hfirst, hbefore⟩, hlast⟩

/-- A last round that commits decides what is given back. -/
theorem Course.givesBack (h : write.Course stage rounds result) {before : List Round}
    {round : Round} (hrounds : rounds = before ++ [round]) (hround : round.commits = true) :
    write.GivesBack round result := by
  rcases h.commits with ⟨hnone, -⟩ | ⟨before', last, hrounds', -, hlast⟩
  · simp [hnone round (by simp [hrounds])] at hround
  · obtain ⟨-, heq⟩ := List.append_inj' (hrounds.symm.trans hrounds') rfl
    obtain rfl := List.singleton_inj.1 heq
    exact hlast

/-! ## The place of the calls -/

/-- Every call is about the write's table; all but a put name its key. -/
theorem Course.place (h : write.Course stage rounds result) :
    ∀ round ∈ rounds, (∃ put, round.request = .put put) ∨
      round.request.place? write.table.shape
        = some (write.table.physicalName, write.key.item) := by
  refine h.forall_rounds (fun _ => True) ?_ (fun _ _ _ _ _ => trivial) trivial
  intro stage rounds outcome _ hstep
  cases hstep <;> simp [readRequest, Request.place?, Write.request]

/-- A put writes the stored form of the new item to the write's table. -/
theorem Course.put (h : write.Course stage rounds result) :
    ∀ round ∈ rounds, ∀ put, round.request = .put put →
      put.terms.table = write.table.physicalName ∧
        write.table.rules.storeItem write.newItem = .ok put.item := by
  intro round hmem put hput
  obtain ⟨before, after, hrounds⟩ := List.append_of_mem hmem
  obtain ⟨⟨stored, hprepare, rfl⟩, -⟩ := h.put_at hrounds hput
  exact ⟨rfl, (Table.prepare_eq_ok.1 hprepare).2.2⟩

end

/-! ## Every run -/

/-- What the rounds of a write and its result have in common. -/
structure SingleCommit (write : Write) (rounds : List Round)
    (result : Except Error (Option Json)) : Prop where
  /-- The calls come in one of these orders. -/
  word : rounds.map (·.request.kind) ∈
    [[], [.update], [.update, .get], [.update, .get, .put], [.update, .get, .update],
      [.update, .get, .update, .get], [.update, .get, .update, .get, .put]]
  /-- Nothing is called only if the clauses cannot be compiled. -/
  nothing : rounds = [] ↔ ∃ e, write.plan [(write.mode, write.leaves)] = .error e
  /-- Updates and reads are about the write's table and its key. -/
  place : ∀ round ∈ rounds, round.request.kind ≠ .put →
    round.request.place? write.table.shape = some (write.table.physicalName, write.key.item)
  /-- A put is about the write's table, and writes the new item as the rules store it. -/
  put : ∀ round ∈ rounds, ∀ put, round.request = .put put →
    put.terms.table = write.table.physicalName ∧
      write.table.rules.storeItem write.newItem = .ok put.item
  /-- A second update needs a missing path, leave to write it and an item that was found. -/
  again : ∀ before round after, rounds = before ++ round :: after →
    round.request.kind = .update → before ≠ [] →
      ∃ request fault stored,
        before = [⟨.update request, .error fault⟩, ⟨write.readRequest, .ok (some stored)⟩] ∧
          fault.isMissingPath = true ∧ write.guards.requirePresent = false ∧
            (write.mode = .set ∨ write.mode = .add)
  /-- Nothing is called after a commit. -/
  last : ∀ before round after, rounds = before ++ round :: after → round.commits = true → after = []
  /-- Success comes of a commit. -/
  ok : ∀ value, result = .ok value →
    ∃ before round, rounds = before ++ [round] ∧ round.commits = true
  /-- A write that fails after a commit fails to read the attributes that it was given. -/
  error : ∀ e, result = .error e → ∀ round ∈ rounds, ∀ attributes,
    round.committed? = some attributes →
      ∃ c, write.returns.decode attributes write.paths = .error c ∧ e = .conversion c

/-- The course of a compiled write commits once. -/
theorem Course.singleCommit {write : Write} {plan : UpdatePlan} {rounds : List Round}
    {result : Except Error (Option Json)} (h : write.Course (.attempt plan) rounds result)
    (hplan : write.plan [(write.mode, write.leaves)] = .ok plan) :
    write.SingleCommit rounds result := by
  obtain ⟨answer, rest, hfirst, -⟩ := h.updates
  refine ⟨?_, ?_, ?_, h.put, ?_, ?_, ?_, ?_⟩
  · exact List.mem_cons_of_mem _ h.word_mem
  · simp [hfirst, hplan]
  · intro round hmem hkind
    rcases h.place round hmem with ⟨put, hput⟩ | hplace
    · exact absurd (by rw [hput]; rfl) hkind
    · exact hplace
  · intro before round after hrounds hkind hbefore
    cases hrequest : round.request with
    | update request =>
      rcases h.update_at hrounds hrequest with
        ⟨rfl, -⟩ | ⟨fault, stored, -, -, rfl, hfault, hmay, -⟩
      · exact absurd rfl hbefore
      · have hguards : write.guards.requirePresent = false ∧
            (write.mode = .set ∨ write.mode = .add) := by
          simpa [mayRecover] using hmay
        exact ⟨_, fault, stored, rfl, hfault, hguards⟩
    | _ => simp [hrequest, Request.kind] at hkind
  · intro before round after hrounds hcommits
    rcases h.commits with ⟨hnone, -⟩ | ⟨start, final, hend, hstart, -⟩
    · simp [hnone round (by simp [hrounds])] at hcommits
    · rcases List.eq_nil_or_concat after with rfl | ⟨after, tail, rfl⟩
      · rfl
      · rw [hrounds, List.concat_eq_append, ← List.cons_append, ← List.append_assoc] at hend
        obtain ⟨rfl, -⟩ := List.append_inj' hend rfl
        simp [hstart round (by simp)] at hcommits
  · intro value hvalue
    rcases h.commits with ⟨-, e, herror⟩ | ⟨start, final, hend, -, hfinal⟩
    · rw [herror] at hvalue
      cases hvalue
    · exact ⟨start, final, hend, hfinal.commits⟩
  · intro e herror round hmem attributes hcommitted
    have hcommits : round.commits = true := by rw [Round.commits, hcommitted]; rfl
    rcases h.commits with ⟨hnone, -⟩ | ⟨start, final, rfl, hstart, hfinal⟩
    · simp [hnone round hmem] at hcommits
    · rcases List.mem_append.1 hmem with hmem | hmem
      · simp [hstart round hmem] at hcommits
      · obtain rfl := List.mem_singleton.1 hmem
        exact hfinal.error herror hcommitted

/-- Every run of a write commits at most once. Its calls are all about one table, and about one key
exactly when an item that is created holds the key's values as the other calls name them. -/
theorem run_singleCommit {σ : Type} (store : Store σ) (state : σ) (write : Write)
    (input : KeyInput) (hkey : write.table.key input = .ok write.key) :
    write.SingleCommit (write.run.rounds store state) (write.run.run store state).1 ∧
      ((∀ round ∈ write.run.rounds store state, round.request.place? write.table.shape
          = some (write.table.physicalName, write.key.item)) ↔
        ∀ round ∈ write.run.rounds store state, round.request.kind = .put →
          ∃ stored, write.table.rules.storeItem write.newItem = .ok stored ∧
            ∀ entry ∈ write.key.item, stored.get? entry.1 = some entry.2) := by
  have hcommit : write.SingleCommit (write.run.rounds store state)
      (write.run.run store state).1 := by
    rcases course_of_yields (write.run.yields_rounds store state) with
      ⟨e, hplan, hrounds, hresult⟩ | ⟨plan, hplan, hcourse⟩
    · rw [hrounds, hresult]
      exact ⟨by simp, by simp [hplan], by simp, by simp, by simp, by simp, by simp, by simp⟩
    · exact hcourse.singleCommit hplan
  refine ⟨hcommit, ?_⟩
  -- all calls but a put are about the key, so the put decides
  have hproject := KeyShape.project_eq_item_iff (Table.names_of_key hkey)
  constructor
  · intro hplace round hmem hkind
    cases hrequest : round.request with
    | put put =>
      have hput := hplace round hmem
      rw [hrequest, Request.place?, Option.some.injEq, Prod.mk.injEq] at hput
      exact ⟨put.item, (hcommit.put round hmem put hrequest).2, (hproject _).1 hput.2⟩
    | _ => simp [hrequest, Request.kind] at hkind
  · intro hstored round hmem
    by_cases hkind : round.request.kind = .put
    · obtain ⟨stored, hitem, hentries⟩ := hstored round hmem hkind
      cases hrequest : round.request with
      | put put =>
        obtain ⟨htable, hput⟩ := hcommit.put round hmem put hrequest
        obtain rfl : stored = put.item := Except.ok.inj (hitem.symm.trans hput)
        rw [Request.place?, htable, (hproject _).2 hentries]
      | _ => simp [hrequest, Request.kind] at hkind
    · exact hcommit.place round hmem hkind

/-! ## Keys of bytes

A key names a text as it is, and the rules store a text under a key attribute of the type `bytes` as
the bytes that it spells. -/

/-- A table whose key attribute is of the type `bytes`. -/
def bytesTable : Table where
  name := "T"
  physicalName := "P-T"
  shape := .simple "id"
  rules :=
    let document : Json := .object
      [("type", .string "object"),
        ("properties", .object
          [("id", .object [("type", .string "bytes")]),
            ("n", .object [("type", .string "integer")])]),
        ("default", .strings ["id"])]
    .ofSchema (.lowered .pointers document)

/-- A write of a number into an item of a table; a missing item is created. -/
def upsert (table : Table) (key : String) : Write where
  table := table
  key := ⟨⟨"id", .string key⟩, none⟩
  mode := .set
  data := [("n", .ofInt 1)]
  leaves := [⟨[.key "n"], .ofInt 1, false⟩]
  guards := ⟨false, false, true⟩
  condition := none
  returns := .none

/-- A store without the item, which is created. -/
def creation : Script := ⟨[.failed (.conditionFailed "no"), .item none, .accepted], []⟩

theorem run_singleCommit_creation :
    let write := upsert ⟨"T", "P-T", .simple "id", .free ["id"]⟩ "a"
    write.table.key (.scalar (.string "a")) = .ok write.key ∧
      write.SingleCommit (write.run.rounds scripted creation)
        (write.run.run scripted creation).1 := by
  intro write
  have hkey : write.table.key (.scalar (.string "a")) = .ok write.key := by rfl
  exact ⟨hkey, (run_singleCommit scripted creation write _ hkey).1⟩

/-- The calls are about two keys if the key is one of bytes. -/
theorem places_bytesTable :
    let write := upsert bytesTable "aGk="
    write.table.key (.scalar (.string "aGk=")) = .ok write.key ∧
      ∃ round ∈ write.run.rounds scripted creation,
        round.request.place? write.table.shape
          ≠ some (write.table.physicalName, write.key.item) := by
  intro write
  have hbytes : ((write.run.rounds scripted creation).any fun round =>
      ((round.request.place? write.table.shape).bind (·.2.get? "id")).any StoreValue.isBinary)
        = true := by decide +kernel
  obtain ⟨round, hmem, hround⟩ := List.any_eq_true.1 hbytes
  refine ⟨rfl, round, hmem, fun hplace => ?_⟩
  rw [hplace] at hround
  exact absurd hround (by decide +kernel)

end Write

end ItemTable
