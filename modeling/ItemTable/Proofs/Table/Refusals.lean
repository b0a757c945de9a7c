import ItemTable.Proofs.Table.Changes
import ItemTable.Proofs.Write.Commit
import Mathlib.Data.List.Basic

set_option autoImplicit false

/-! # Refused operations change nothing

An operation refuses what its caller gives it with an error that says so: a key that does not fit,
an unknown index, data or paths that break a rule. All of these checks come before the first call.
Only the check of a whole item can come after calls, when an update creates the item that it did not
find; then nothing was written before. `Program.Spares` says this of a program, and is kept when
programs are put together; `Table.refusals_spare_store` says it of every operation of a table. -/

namespace ItemTable

/-! ## Refusals -/

namespace Error

/-- Whether an error refuses the key, the index, the data or the paths that a caller gives. -/
def refusesInput : Error → Bool
  | .missingKey .. | .wrongKey .. | .unknownIndex .. | .emptyUpdate .. => true
  | .validation _ mode _ => mode != .put
  | _ => false

/-- Whether an error refuses a whole item. -/
def refusesItem : Error → Bool
  | .validation _ mode _ => mode == .put
  | _ => false

/-- Whether an error refuses nothing. -/
def IsLate (e : Error) : Prop := e.refusesInput = false ∧ e.refusesItem = false

theorem isLate_of_mapError {α ε : Type} {r : Except ε α} {f : ε → Error}
    (hf : ∀ fault, (f fault).IsLate) {e : Error} (h : r.mapError f = .error e) : e.IsLate := by
  cases r with
  | error fault =>
    cases h
    exact hf fault
  | ok a => cases h

end Error

/-- After a refusal nothing was asked; after the refusal of a whole item nothing was written. -/
structure Spared (rounds : List Round) (e : Error) : Prop where
  input : e.refusesInput = true → rounds = []
  item : e.refusesItem = true →
    ∀ round ∈ rounds, round.request.kind ≠ .put ∧ round.commits = false

theorem spared_nil (e : Error) : Spared [] e := ⟨fun _ => rfl, by simp⟩

theorem Error.IsLate.spared {e : Error} (h : e.IsLate) (rounds : List Round) : Spared rounds e := by
  refine ⟨fun hinput => ?_, fun hitem => ?_⟩
  · rw [h.1] at hinput
    cases hinput
  · rw [h.2] at hitem
    cases hitem

namespace Program

variable {α β : Type}

/-- A program whose errors refuse nothing. -/
def IsLate (p : Program α) : Prop := ∀ rounds e, p.Yields rounds (.error e) → e.IsLate

/-- A program whose refusals spare the store. -/
def Spares (p : Program α) : Prop := ∀ rounds e, p.Yields rounds (.error e) → Spared rounds e

/-! ## Programs that refuse nothing -/

theorem isLate_pure (a : α) : (pure a : Program α).IsLate := by
  intro rounds e h
  cases (yields_pure.1 h).2

theorem isLate_fail {e : Error} (he : e.IsLate) : (fail e : Program α).IsLate := by
  intro rounds e' h
  cases (yields_fail.1 h).2
  exact he

theorem isLate_ofExcept {r : Except Error α} (hr : ∀ e, r = .error e → e.IsLate) :
    (ofExcept r).IsLate := by
  intro rounds e h
  exact hr e (yields_done.1 h).2.symm

theorem isLate_attempt (request : Request) : (attempt request).IsLate := by
  intro rounds e h
  obtain ⟨_, -, hresult⟩ := yields_attempt.1 h
  cases hresult

theorem isLate_convert (r : Except ConversionError α) : (convert r).IsLate := by
  intro rounds e h
  exact Error.isLate_of_mapError (fun _ => ⟨rfl, rfl⟩) (yields_convert.1 h).2.symm

theorem isLate_ask (request : Request) : (ask request).IsLate := by
  intro rounds e h
  obtain ⟨answer, -, hresult⟩ := yields_ask.1 h
  exact Error.isLate_of_mapError (fun _ => ⟨rfl, rfl⟩) hresult.symm

theorem isLate_askPages (read : Option Item → PageRequest) (isWanted : Page → Bool) :
    (askPages read isWanted).IsLate := by
  intro rounds e h
  obtain ⟨answer, -, hresult⟩ := yields_askPages.1 h
  exact Error.isLate_of_mapError (fun _ => ⟨rfl, rfl⟩) hresult.symm

theorem IsLate.bind {p : Program α} {f : α → Program β} (hp : p.IsLate) (hf : ∀ a, (f a).IsLate) :
    (p >>= f).IsLate := by
  intro rounds e h
  rcases yields_bind.1 h with ⟨e', hfirst, he⟩ | ⟨a, first, second, -, hsecond, -⟩
  · cases he
    exact hp _ _ hfirst
  · exact hf a _ _ hsecond

/-! ## Programs that refuse before they ask -/

theorem IsLate.spares {p : Program α} (h : p.IsLate) : p.Spares := fun rounds e hrun =>
  (h rounds e hrun).spared rounds

theorem spares_fail (e : Error) : (fail e : Program α).Spares := by
  intro rounds e' h
  rw [(yields_fail.1 h).1]
  exact spared_nil e'

/-- A check that comes first may refuse anything. -/
theorem spares_check {r : Except Error α} {f : α → Program β} (hf : ∀ a, r = .ok a → (f a).Spares) :
    (ofExcept r >>= f).Spares := by
  intro rounds e h
  rcases yields_ofExcept_bind.1 h with ⟨_, -, rfl, -⟩ | ⟨a, ha, h⟩
  · exact spared_nil e
  · exact hf a ha rounds e h

/-- What comes after calls may refuse nothing. -/
theorem Spares.bind {p : Program α} {f : α → Program β} (hp : p.Spares) (hf : ∀ a, (f a).IsLate) :
    (p >>= f).Spares := by
  intro rounds e h
  rcases yields_bind.1 h with ⟨e', hfirst, he⟩ | ⟨a, first, second, -, hsecond, -⟩
  · cases he
    exact hp _ _ hfirst
  · exact (hf a _ _ hsecond).spared rounds

end Program

/-! ## Writes -/

namespace Write

variable {write : Write} {stage : Stage} {rounds : List Round}

theorem isLate_of_returned {attributes : Option Item} {e : Error}
    (h : write.returned attributes = .error e) : e.IsLate :=
  Error.isLate_of_mapError (fun _ => ⟨rfl, rfl⟩) h

theorem isLate_of_seen {answer : Except StoreError (Option Item)} {e : Error}
    (h : seen answer = .error e) : e.IsLate := by
  rcases answer with fault | _ | stored
  · cases h
    exact ⟨rfl, rfl⟩
  · cases h
  · exact Error.isLate_of_mapError (fun _ => ⟨rfl, rfl⟩) h

theorem isLate_violation (write : Write) (item : Json) (guarded : List Path) :
    (write.violation item guarded).IsLate := by
  unfold violation
  dsimp only
  split
  · exact ⟨rfl, rfl⟩
  · split <;> exact ⟨rfl, rfl⟩

theorem isLate_of_insertResult {table : Table} {item : Record Json} {stored : Item}
    {answer : Except StoreError Unit} {e : Error}
    (h : table.insertResult item stored answer = .error e) : e.IsLate := by
  rcases answer with (_ | _ | _ | _) | _ <;> cases h <;> exact ⟨rfl, rfl⟩

/-- An item with a key of the table is refused only for breaking the rules. -/
theorem refusesInput_of_prepare {table : Table} {item : Record Json} {key : Key}
    (hkey : table.key (.mapping (table.keyMembers item)) = .ok key) {e : Error}
    (h : table.prepare item = .error e) : e.refusesInput = false := by
  unfold Table.prepare Table.checkItem at h
  cases hvalid : table.rules.validate (.object item) with
  | some finding =>
    rw [hvalid] at h
    cases h
    rfl
  | none =>
    rw [hvalid, hkey] at h
    exact (Error.isLate_of_mapError (fun _ => ⟨rfl, rfl⟩) h).1

/-- A step to a failure refuses at most a whole item, and then makes no call. -/
theorem Step.refusal {key : Key}
    (hkey : write.table.key (.mapping (write.table.keyMembers write.newItem)) = .ok key)
    {result : Except Error (Option Json)} (h : write.Step stage rounds (.inr result)) {e : Error}
    (he : result = .error e) : e.IsLate ∨ e.refusesInput = false ∧ rounds = [] := by
  cases h with
  | createRefused error hprepare =>
    cases he
    exact .inr ⟨refusesInput_of_prepare hkey hprepare, rfl⟩
  | attempted => exact .inl (isLate_of_returned he)
  | retried => exact .inl (isLate_of_returned he)
  | created stored =>
    unfold Write.created at he
    split at he
    · exact .inl (isLate_of_returned he)
    · cases he
  | recoverFailed answer error hseen =>
    cases he
    exact .inl (isLate_of_seen hseen)
  | explainFailed _ _ answer error hseen =>
    cases he
    exact .inl (isLate_of_seen hseen)
  | recoverAbsent _ habsence =>
    cases (absence_inr habsence).symm.trans he
    exact .inl ⟨rfl, rfl⟩
  | explainAbsent _ _ _ habsence =>
    cases (absence_inr habsence).symm.trans he
    exact .inl ⟨rfl, rfl⟩
  | explained =>
    cases he
    exact .inl (write.isLate_violation _ _)
  | createFailed _ _ _ _ hresult =>
    cases he
    exact .inl (isLate_of_insertResult hresult)
  | _ =>
    cases he
    exact .inl ⟨rfl, rfl⟩

/-- A step to another stage writes nothing. -/
theorem Step.writes_nothing {stage' : Stage} (h : write.Step stage rounds (.inl stage')) :
    ∀ round ∈ rounds, round.request.kind ≠ .put ∧ round.commits = false := by
  intro round hmem
  refine ⟨fun hkind => ?_, h.commits_of_inl round hmem⟩
  cases hrequest : round.request with
  | put put => exact h.no_put_of_inl round hmem put hrequest
  | _ => simp [hrequest, Request.kind] at hkind

/-- A course that fails refuses at most a whole item, and then has written nothing. -/
theorem Course.refusal {key : Key}
    (hkey : write.table.key (.mapping (write.table.keyMembers write.newItem)) = .ok key)
    {result : Except Error (Option Json)} (h : write.Course stage rounds result) {e : Error}
    (he : result = .error e) : e.IsLate ∨ e.refusesInput = false ∧
      ∀ round ∈ rounds, round.request.kind ≠ .put ∧ round.commits = false := by
  induction h with
  | last h =>
    rcases h.refusal hkey he with hlate | ⟨hinput, rfl⟩
    · exact .inl hlate
    · exact .inr ⟨hinput, by simp⟩
  | next h _ ih =>
    rcases ih he with hlate | ⟨hinput, hrest⟩
    · exact .inl hlate
    · exact .inr ⟨hinput, List.forall_mem_append.2 ⟨h.writes_nothing, hrest⟩⟩

/-- The new item of a write has the write's key. -/
theorem key_newItem {input : KeyInput} (hnames : write.table.shape.names.Nodup)
    (hkey : write.table.key input = .ok write.key) :
    write.table.key (.mapping (write.table.keyMembers write.newItem)) = .ok write.key := by
  have hparts := Table.names_of_key hkey
  have hnodup : (write.key.parts.map (·.name)).Nodup := by rwa [hparts]
  have hget : ∀ part ∈ write.key.parts, (write.newItem.get? part.name).map (fun v => (part.name, v))
      = some (part.name, part.value) := by
    intro part hpart
    rw [newItem, Record.get?_append, Key.get?_members hnodup hpart]
    rfl
  have hmembers : write.table.keyMembers write.newItem = write.key.members := by
    rw [Table.keyMembers, ← hparts, List.filterMap_map, Key.members]
    refine congrArg Record.ofEntries ?_
    exact List.filterMap_eq_map_iff_forall_eq_some.2 hget
  rw [hmembers]
  exact Table.keyOf_eq_ok_iff.2 (KeyShape.normalize_members hnames (Table.normalize_of_keyOf hkey))

/-- The refusals of a write under a key of its table spare the store. -/
theorem spares_run {input : KeyInput} (hnames : write.table.shape.names.Nodup)
    (hkey : write.table.key input = .ok write.key) : write.run.Spares := by
  intro rounds e h
  rcases course_of_yields h with ⟨_, -, rfl, -⟩ | ⟨plan, -, hcourse⟩
  · exact spared_nil e
  · rcases hcourse.refusal (key_newItem hnames hkey) rfl with hlate | ⟨hinput, hnothing⟩
    · exact hlate.spared rounds
    · refine ⟨fun hrefused => ?_, fun _ => hnothing⟩
      rw [hinput] at hrefused
      cases hrefused

end Write

/-! ## Operations -/

namespace Table

variable {table : Table}

theorem spares_update (hnames : table.shape.names.Nodup) (input : KeyInput) (mode : UpdateMode)
    (data : Record Json) (append : Bool) (guards : Guards) (options : UpdateOptions) :
    (table.update input mode data append guards options).Spares := by
  refine Program.spares_check fun key hkey => Program.spares_check fun _ _ => ?_
  dsimp only
  split
  · exact Program.spares_fail _
  · exact Write.spares_run hnames hkey

theorem spares_removeAttributes (hnames : table.shape.names.Nodup) (input : KeyInput)
    (paths : List Path) (options : RemoveOptions) :
    (table.removeAttributes input paths options).Spares := by
  refine Program.spares_check fun key hkey => ?_
  split
  · exact Program.spares_fail _
  · exact Program.spares_check fun _ _ => Write.spares_run hnames hkey

theorem Change.spares (hnames : table.shape.names.Nodup) (change : Change) :
    (change.program table).Spares := by
  cases change with
  | removeAttributes => exact spares_removeAttributes hnames _ _ _
  | removeEntry =>
    refine Program.spares_check fun key _ => ?_
    refine (spares_removeAttributes hnames _ _ _).bind fun old => ?_
    split
    · exact Program.isLate_pure _
    · exact Program.isLate_fail ⟨rfl, rfl⟩
  | _ => exact spares_update hnames _ _ _ _ _ _

theorem spares_put (table : Table) (item : Record Json) (overwrite : Bool) :
    (table.put item overwrite).Spares := by
  unfold put
  rw [insert_eq, bind_assoc]
  refine Program.spares_check fun stored _ => Program.IsLate.spares ?_
  refine ((Program.isLate_attempt _).bind fun answer => ?_).bind fun _ => Program.isLate_pure _
  exact Program.isLate_ofExcept fun _ => Write.isLate_of_insertResult

theorem isLate_scanItems (table : Table) : table.scanItems.IsLate :=
  (Program.isLate_askPages _ _).bind fun _ => Program.isLate_pure _

theorem spares_getManyKeyed (table : Table) (inputs : List KeyInput) :
    (table.getManyKeyed inputs).Spares := by
  refine Program.spares_check fun keys _ => ?_
  split
  · exact (Program.isLate_pure _).spares
  · refine ((Program.isLate_ask _).bind fun items => ?_).spares
    exact (Program.isLate_convert _).bind fun _ => Program.isLate_pure _

/-- Any operation of a table, with all that a caller gives it. -/
inductive Call
  | change (change : Change)
  | put (item : Record Json) (overwrite : Bool)
  | get (input : KeyInput)
  | delete (input : KeyInput) (requireExists : Bool)
  | take (input : KeyInput)
  | query (query : Query)
  | getByIndex (index : String) (input : KeyInput)
  | getMany (inputs : List KeyInput)
  | getManyKeyed (inputs : List KeyInput)
  | scan
  | truncate
  | describe

namespace Call

/-- What an operation gives back. -/
abbrev Result : Call → Type
  | change request => request.Result
  | put .. => Unit
  | get _ => Record Json
  | delete .. => Unit
  | take _ => Record Json
  | query _ => QueryPage
  | getByIndex .. => List (Record Json)
  | getMany _ => List (Record Json)
  | getManyKeyed _ => List (List String × Record Json)
  | scan => List (Record Json)
  | truncate => Nat
  | describe => TableDescription

/-- The program of an operation. -/
def program (table : Table) : (call : Call) → Program call.Result
  | change request => request.program table
  | put item overwrite => table.put item overwrite
  | get input => table.get input
  | delete input requireExists => table.delete input requireExists
  | take input => table.take input
  | query request => table.query request
  | getByIndex index input => table.getByIndex index input
  | getMany inputs => table.getMany inputs
  | getManyKeyed inputs => table.getManyKeyed inputs
  | scan => table.scan
  | truncate => table.truncate
  | describe => table.describe

/-- The refusals of every operation spare the store. -/
theorem spares (hnames : table.shape.names.Nodup) (call : Call) : (call.program table).Spares := by
  cases call with
  | change request => exact request.spares hnames
  | put => exact table.spares_put _ _
  | get =>
    refine Program.spares_check fun key _ => ((Program.isLate_ask _).bind fun item => ?_).spares
    split
    · exact Program.isLate_convert _
    · exact Program.isLate_fail ⟨rfl, rfl⟩
  | delete =>
    refine Program.spares_check fun key _ => ((Program.isLate_ask _).bind fun old => ?_).spares
    split
    · exact Program.isLate_fail ⟨rfl, rfl⟩
    · exact Program.isLate_pure _
  | take =>
    refine Program.spares_check fun key _ => ((Program.isLate_ask _).bind fun old => ?_).spares
    split
    · exact Program.isLate_convert _
    · exact Program.isLate_fail ⟨rfl, rfl⟩
  | query =>
    refine Program.spares_check fun shape _ => Program.spares_check fun request _ => ?_
    refine ((Program.isLate_ask _).bind fun page => ?_).spares
    exact (Program.isLate_convert _).bind fun _ => Program.isLate_pure _
  | getByIndex =>
    refine Program.spares_check fun shape _ => Program.spares_check fun key _ =>
      Program.spares_check fun request _ => ?_
    refine ((Program.isLate_askPages _ _).bind fun pages => ?_).spares
    exact (Program.isLate_convert _).bind fun _ => Program.isLate_pure _
  | getMany => exact (table.spares_getManyKeyed _).bind fun _ => Program.isLate_pure _
  | getManyKeyed => exact table.spares_getManyKeyed _
  | scan => exact (table.isLate_scanItems.bind fun _ => Program.isLate_convert _).spares
  | truncate =>
    refine (table.isLate_scanItems.bind fun items => ?_).spares
    dsimp only
    split
    · exact Program.isLate_pure _
    · exact (Program.isLate_ask _).bind fun _ => Program.isLate_pure _
  | describe => exact (Program.isLate_ask _).spares

end Call

/-- Whatever the store answers: an operation that refuses a key, an index, data or paths has made no
call, and one that refuses a whole item has put no item, and no update of it succeeded. -/
theorem refusals_spare_store {σ : Type} (store : Store σ) (state : σ) (table : Table)
    (hnames : table.shape.names.Nodup) (call : Call) (e : Error)
    (h : ((call.program table).run store state).1 = .error e) :
    Spared ((call.program table).rounds store state) e := by
  have hrun := (call.program table).yields_rounds store state
  rw [h] at hrun
  exact call.spares hnames _ e hrun

/-- What is wrong with an item that has no number. -/
def numberMissing : Finding := ⟨.required, "n is a required attribute", [], []⟩

/-- A table whose items need a number. -/
def countedTable : Table where
  name := "T"
  physicalName := "P-T"
  shape := .simple "id"
  rules :=
    { Rules.free ["id"] with
      validate := fun item => if (item.member? "n").isSome then none else some numberMissing }

/-- An update that would create an item without the number is refused after its condition failed and
the item was not found. -/
theorem refusals_spare_store_creation :
    let call : Call := .change (.updateAttributes (.scalar (.string "a")) [("m", .ofInt 1)]
      ⟨true, true, false, none, .none⟩)
    let script : Script := ⟨[.failed (.conditionFailed "no"), .item none, .accepted], []⟩
    ((call.program countedTable).run scripted script).1
        = .error (.validation "T" .put numberMissing) ∧
      ((call.program countedTable).rounds scripted script).length = 2 ∧
      Spared ((call.program countedTable).rounds scripted script)
        (.validation "T" .put numberMissing) := by
  intro call script
  have hrun : ((call.program countedTable).run scripted script).1
      = .error (.validation "T" .put numberMissing) := rfl
  exact ⟨hrun, rfl, refusals_spare_store scripted script countedTable
    (by decide) call _ hrun⟩

end Table

end ItemTable
