import ItemTable.Catalog
import ItemTable.Proofs.Key
import Mathlib.Data.List.Basic

set_option autoImplicit false

/-! # One table for each name

Files change and tables are opened, in any order. An opening either leaves the catalog as it is or
appends the table that it built (`Session.step_catalog`), so over a whole session tables are only
ever appended, each under its own name (`Session.run_tables`, `Session.kept_run`): a table keeps its
place, a failed opening leaves no trace, and a name that has no table yet gets one of its file as it
stands at the opening (`Session.one_table_for_each_name`). -/

namespace ItemTable

/-- The schema that a file holds, if it holds one. -/
def Files.schema? (files : Files) (path : String) : Option Schema :=
  (files path).bind fun text => (Json.read? nestingLimit text).bind Schema.ofDocument?

theorem Schema.ofFile_eq_ok_iff {files : Files} {path : String} {schema : Schema} :
    Schema.ofFile files path = .ok schema ↔ files.schema? path = some schema := by
  unfold Schema.ofFile Files.schema? Schema.ofDocument
  cases files path with
  | none => simp
  | some text =>
    cases hread : Json.read? nestingLimit text with
    | none => simp [hread]
    | some document => cases hschema : Schema.ofDocument? document <;> simp [hread, hschema]

namespace Catalog

variable {catalog : Catalog} {files : Files} {name : String}

/-- The table of a name and a schema. -/
def tableOf (config : Config) (name : String) (schema : Schema) (shape : KeyShape) : Table :=
  ⟨name, config.physicalName name, shape, .ofSchema schema⟩

theorem ofRules_eq_ok_iff {name physicalName : String} {rules : Rules} {table : Table} :
    Table.ofRules name physicalName rules = .ok table ↔
      ∃ shape : KeyShape, shape.names = rules.primaryKey ∧
        table = ⟨name, physicalName, shape, rules⟩ := by
  unfold Table.ofRules
  cases hshape : KeyShape.ofNames? rules.primaryKey with
  | none =>
    refine ⟨nofun, ?_⟩
    rintro ⟨shape, hnames, -⟩
    rw [KeyShape.ofNames?_eq_some_iff.2 hnames] at hshape
    cases hshape
  | some shape =>
    have hnames : shape.names = rules.primaryKey := KeyShape.ofNames?_eq_some_iff.1 hshape
    constructor
    · rintro ⟨⟩
      exact ⟨shape, hnames, rfl⟩
    · rintro ⟨other, hother, rfl⟩
      rw [KeyShape.ofNames?_eq_some_iff.2 hother] at hshape
      cases hshape
      rfl

/-- A table is built from a file with a schema that names one or two key attributes. -/
theorem build_eq_ok_iff {table : Table} :
    catalog.build files name = .ok table ↔
      ∃ schema shape, files.schema? (catalog.config.schemaPath name) = some schema ∧
        shape.names = schema.primaryKey ∧ table = tableOf catalog.config name schema shape := by
  unfold build
  cases hfile : Schema.ofFile files (catalog.config.schemaPath name) with
  | error error =>
    refine ⟨nofun, ?_⟩
    rintro ⟨schema, shape, hschema, -⟩
    rw [Schema.ofFile_eq_ok_iff.2 hschema] at hfile
    cases hfile
  | ok schema =>
    have hschema : files.schema? (catalog.config.schemaPath name) = some schema :=
      Schema.ofFile_eq_ok_iff.1 hfile
    constructor
    · intro h
      obtain ⟨shape, hnames, htable⟩ := ofRules_eq_ok_iff.1 h
      exact ⟨schema, shape, hschema, hnames, htable⟩
    · rintro ⟨held, shape, hheld, hnames, htable⟩
      obtain rfl : schema = held := Option.some.inj (hschema.symm.trans hheld)
      exact ofRules_eq_ok_iff.2 ⟨shape, hnames, htable⟩

theorem name_of_build {table : Table} (h : catalog.build files name = .ok table) :
    table.name = name := by
  obtain ⟨schema, shape, -, -, rfl⟩ := build_eq_ok_iff.1 h
  rfl

/-- Every table is kept under its own name, and no name twice. -/
structure Kept (catalog : Catalog) : Prop where
  nodup : catalog.tables.names.Nodup
  named : ∀ name table, (name, table) ∈ catalog.tables → table.name = name

theorem kept_ofConfig (config : Config) : (ofConfig config).Kept :=
  ⟨List.nodup_nil, nofun⟩

end Catalog

/-- The files and the catalog at one time. -/
structure Session where
  files : Files
  catalog : Catalog

namespace Session

/-- What happens in a session: files change, or a table is opened. -/
inductive Event
  | change (f : Files → Files)
  | opening (name : String)

/-- A file is written. -/
def Event.write (path text : String) : Event :=
  .change fun files other => if other = path then some text else files other

/-- A file is deleted. -/
def Event.delete (path : String) : Event :=
  .change fun files other => if other = path then none else files other

/-- The session in which no table has been opened. -/
def start (config : Config) (files : Files) : Session := ⟨files, .ofConfig config⟩

/-- What the opening of a table hands out: the table, with its place among the tables that are kept.
Tables at one place are the very same. -/
def handOut (session : Session) (name : String) : Except Error (Nat × Table) :=
  match session.catalog.openTable session.files name with
  | (.ok table, after) => .ok (after.placeOf name, table)
  | (.error error, _) => .error error

/-- The session after an event. -/
def step (session : Session) : Event → Session
  | .change f => { session with files := f session.files }
  | .opening name =>
    { session with catalog := (session.catalog.openTable session.files name).2 }

/-- The session after some events. -/
def run (session : Session) (events : List Event) : Session := events.foldl step session

variable {session : Session} {event : Event} {events : List Event} {name : String}

/-- An opening hands out the table that is kept for the name, or appends the one that it builds, or
fails and changes nothing. -/
theorem opening_cases (session : Session) (name : String) :
    (∃ table, session.catalog.tables.get? name = some table ∧
      session.handOut name = .ok (session.catalog.placeOf name, table) ∧
      session.step (.opening name) = session) ∨
    (∃ table, session.catalog.tables.get? name = none ∧
      session.catalog.build session.files name = .ok table ∧
      (session.step (.opening name)).catalog =
        { session.catalog with tables := session.catalog.tables ++ [(name, table)] } ∧
      session.handOut name =
        .ok ((session.step (.opening name)).catalog.placeOf name, table)) ∨
    (∃ error, session.catalog.tables.get? name = none ∧
      session.catalog.build session.files name = .error error ∧
      session.handOut name = .error error ∧ session.step (.opening name) = session) := by
  cases hkept : session.catalog.tables.get? name with
  | some table =>
    have hopen : session.catalog.openTable session.files name = (.ok table, session.catalog) := by
      rw [Catalog.openTable, hkept]
    refine .inl ⟨table, rfl, ?_, ?_⟩
    · rw [handOut, hopen]
    · rw [step, hopen]
  | none =>
    cases hbuild : session.catalog.build session.files name with
    | ok table =>
      have hopen : session.catalog.openTable session.files name =
          (.ok table, { session.catalog with
            tables := session.catalog.tables ++ [(name, table)] }) := by
        rw [Catalog.openTable, hkept, hbuild]
      refine .inr (.inl ⟨table, rfl, rfl, ?_, ?_⟩)
      · rw [step, hopen]
      · rw [handOut, step, hopen]
    | error error =>
      have hopen : session.catalog.openTable session.files name =
          (.error error, session.catalog) := by
        rw [Catalog.openTable, hkept, hbuild]
      refine .inr (.inr ⟨error, rfl, rfl, ?_, ?_⟩)
      · rw [handOut, hopen]
      · rw [step, hopen]

/-- An event leaves the catalog as it is, or appends a table that was built for a new name. -/
theorem step_catalog (session : Session) (event : Event) :
    (session.step event).catalog = session.catalog ∨
    ∃ name table, event = .opening name ∧ session.catalog.tables.get? name = none ∧
      session.catalog.build session.files name = .ok table ∧
      (session.step event).catalog =
        { session.catalog with tables := session.catalog.tables ++ [(name, table)] } := by
  cases event with
  | change f => exact .inl rfl
  | opening name =>
    obtain ⟨table, -, -, hstep⟩ | ⟨table, hnew, hbuild, hstep, -⟩ | ⟨error, -, -, -, hstep⟩ :=
      session.opening_cases name
    · exact .inl (congrArg catalog hstep)
    · exact .inr ⟨name, table, rfl, hnew, hbuild, hstep⟩
    · exact .inl (congrArg catalog hstep)

theorem config_step (session : Session) (event : Event) :
    (session.step event).catalog.config = session.catalog.config := by
  obtain h | ⟨name, table, -, -, -, h⟩ := session.step_catalog event
  · rw [h]
  · rw [h]

theorem config_run (session : Session) (events : List Event) :
    (session.run events).catalog.config = session.catalog.config := by
  induction events generalizing session with
  | nil => rfl
  | cons event rest ih => exact (ih (session.step event)).trans (config_step session event)

/-- Tables are only appended. -/
theorem run_tables (session : Session) (events : List Event) :
    session.catalog.tables <+: (session.run events).catalog.tables := by
  induction events generalizing session with
  | nil => exact List.prefix_refl _
  | cons event rest ih =>
    have hstep : session.catalog.tables <+: (session.step event).catalog.tables := by
      obtain h | ⟨name, table, -, -, -, h⟩ := session.step_catalog event
      · exact h.symm ▸ List.prefix_refl _
      · exact h.symm ▸ List.prefix_append _ _
    exact hstep.trans (ih (session.step event))

theorem kept_step (h : session.catalog.Kept) : (session.step event).catalog.Kept := by
  obtain hstep | ⟨name, table, -, hnew, hbuild, hstep⟩ := session.step_catalog event
  · rwa [hstep]
  · rw [hstep]
    refine ⟨Record.nodup_names_append h.nodup (List.pairwise_singleton _ name) ?_, ?_⟩
    · intro other hother
      rw [List.mem_singleton.1 hother]
      exact (Record.get?_eq_none_iff _ _).1 hnew
    · intro other kept hmem
      rcases List.mem_append.1 hmem with hmem | hmem
      · exact h.named other kept hmem
      · cases List.mem_singleton.1 hmem
        exact Catalog.name_of_build hbuild

theorem kept_run (h : session.catalog.Kept) : (session.run events).catalog.Kept := by
  induction events generalizing session with
  | nil => exact h
  | cons event rest ih => exact ih (kept_step h)

/-! ## What is handed out -/

theorem handOut_of_kept {table : Table} (h : session.catalog.tables.get? name = some table) :
    session.handOut name = .ok (session.catalog.placeOf name, table) := by
  rw [handOut, Catalog.openTable, h]

/-- What an opening hands out is what is kept after it. -/
theorem handOut_eq_ok_iff {place : Nat} {table : Table} :
    session.handOut name = .ok (place, table) ↔
      (session.step (.opening name)).catalog.tables.get? name = some table ∧
        (session.step (.opening name)).catalog.placeOf name = place := by
  obtain ⟨kept, hkept, hout, hstep⟩ | ⟨built, hnew, -, hstep, hout⟩ |
      ⟨error, hnew, -, hout, hstep⟩ := session.opening_cases name
  · rw [hout, hstep, hkept]
    simp [and_comm]
  · have hget : Record.get? (session.catalog.tables ++ [(name, built)]) name = some built := by
      rw [Record.get?_append, hnew, Option.none_or, Record.get?, if_pos rfl]
    rw [hout, hstep, hget]
    simp [and_comm]
  · rw [hout, hstep, hnew]
    simp

/-- A name without a table is handed the one that can be built. -/
theorem exists_handOut_iff_build {table : Table} (h : session.catalog.tables.get? name = none) :
    (∃ place, session.handOut name = .ok (place, table)) ↔
      session.catalog.build session.files name = .ok table := by
  obtain ⟨kept, hkept, -⟩ | ⟨built, -, hbuild, -, hout⟩ | ⟨error, -, hbuild, hout, -⟩ :=
    session.opening_cases name
  · rw [hkept] at h
    cases h
  · rw [hout, hbuild]
    simp
  · rw [hout, hbuild]
    simp

/-- A name without a table is handed one if its file holds a schema that names one or two key
attributes. -/
theorem exists_handOut_iff_schema (h : session.catalog.tables.get? name = none) :
    (∃ handed, session.handOut name = .ok handed) ↔
      ∃ schema, session.files.schema? (session.catalog.config.schemaPath name) = some schema ∧
        (schema.primaryKey.length = 1 ∨ schema.primaryKey.length = 2) := by
  constructor
  · rintro ⟨⟨place, table⟩, hout⟩
    have hbuild := (exists_handOut_iff_build h).1 ⟨place, hout⟩
    obtain ⟨schema, shape, hschema, hnames, -⟩ := Catalog.build_eq_ok_iff.1 hbuild
    exact ⟨schema, hschema, KeyShape.exists_names_eq_iff.1 ⟨shape, hnames⟩⟩
  · rintro ⟨schema, hschema, hlength⟩
    obtain ⟨shape, hnames⟩ := KeyShape.exists_names_eq_iff.2 hlength
    have hbuild := Catalog.build_eq_ok_iff.2 ⟨schema, shape, hschema, hnames, rfl⟩
    obtain ⟨place, hout⟩ := (exists_handOut_iff_build h).2 hbuild
    exact ⟨_, hout⟩

/-- A failed opening leaves everything as it was. -/
theorem step_of_handOut_error {error : Error} (h : session.handOut name = .error error) :
    session.step (.opening name) = session := by
  obtain ⟨table, -, -, hstep⟩ | ⟨table, -, -, -, hout⟩ | ⟨error, -, -, -, hstep⟩ :=
    session.opening_cases name
  · exact hstep
  · rw [hout] at h
    cases h
  · exact hstep

theorem get?_run {table : Table} (h : session.catalog.tables.get? name = some table)
    (events : List Event) : (session.run events).catalog.tables.get? name = some table := by
  obtain ⟨added, hadded⟩ := run_tables session events
  rw [← hadded, Record.get?_append, h, Option.some_or]

theorem placeOf_run {table : Table} (h : session.catalog.tables.get? name = some table)
    (events : List Event) :
    (session.run events).catalog.placeOf name = session.catalog.placeOf name := by
  obtain ⟨added, hadded⟩ := run_tables session events
  have hname : name ∈ session.catalog.tables.names := Record.mem_names_iff.2 ⟨table, h⟩
  rw [Catalog.placeOf, ← hadded, Record.names_append, List.idxOf_append_of_mem hname]
  rfl

/-- A table that was handed out is handed out again, whatever happens. -/
theorem handOut_run {handed : Nat × Table} (h : session.handOut name = .ok handed)
    (after : List Event) : (session.run (.opening name :: after)).handOut name = .ok handed := by
  obtain ⟨place, table⟩ := handed
  obtain ⟨hkept, hplace⟩ := handOut_eq_ok_iff.1 h
  have hrun : session.run (.opening name :: after) =
      (session.step (.opening name)).run after := rfl
  rw [hrun, handOut_of_kept (get?_run hkept after), placeOf_run hkept, hplace]

/-- A table that is kept was handed out at an opening of its name. -/
theorem exists_opening_of_kept {table : Table}
    (h : (session.run events).catalog.tables.get? name = some table) :
    session.catalog.tables.get? name = some table ∨
      ∃ earlier later place, events = earlier ++ .opening name :: later ∧
        (session.run earlier).handOut name = .ok (place, table) := by
  induction events generalizing session with
  | nil => exact .inl h
  | cons event rest ih =>
    obtain hkept | ⟨earlier, later, place, rfl, hopening⟩ := ih h
    · obtain hstep | ⟨opened, built, rfl, hnew, -, hstep⟩ := session.step_catalog event
      · rw [hstep] at hkept
        exact .inl hkept
      · by_cases hname : opened = name
        · subst hname
          exact .inr ⟨[], rest, _, rfl, handOut_eq_ok_iff.2 ⟨hkept, rfl⟩⟩
        · rw [hstep, Record.get?_append] at hkept
          have hother : Record.get? [(opened, built)] name = none := if_neg hname
          rw [hother, Option.or_none] at hkept
          exact .inl hkept
    · exact .inr ⟨event :: earlier, later, place, rfl, hopening⟩

/-- Beside a table that is kept, another name is handed another table. -/
theorem other_of_kept (hkept : session.catalog.Kept) {table : Table}
    (h : session.catalog.tables.get? name = some table) {other : String} (hne : other ≠ name)
    {place : Nat} {otherTable : Table} (hother : session.handOut other = .ok (place, otherTable)) :
    place ≠ session.catalog.placeOf name ∧ otherTable ≠ table := by
  obtain ⟨hotherTable, rfl⟩ := handOut_eq_ok_iff.1 hother
  have htable : (session.step (.opening other)).catalog.tables.get? name = some table :=
    get?_run h [.opening other]
  have hplace : (session.step (.opening other)).catalog.placeOf name =
      session.catalog.placeOf name := placeOf_run h [.opening other]
  constructor
  · rw [← hplace]
    have hmem : name ∈ (session.step (.opening other)).catalog.tables.names :=
      Record.mem_names_iff.2 ⟨table, htable⟩
    exact fun heq => hne ((List.idxOf_inj hmem).1 heq.symm).symm
  · -- the two tables have their own names
    have hkept' : (session.step (.opening other)).catalog.Kept := kept_step hkept
    rintro rfl
    have hname := hkept'.named name otherTable (Record.mem_of_get?_eq_some htable)
    have hotherName := hkept'.named other otherTable (Record.mem_of_get?_eq_some hotherTable)
    exact hne (hotherName.symm.trans hname)

/-- After a table was handed out, other names are handed other tables. -/
theorem other_run (hkept : session.catalog.Kept) {place : Nat} {table : Table}
    (h : session.handOut name = .ok (place, table)) {after : List Event} {other : String}
    (hne : other ≠ name) {otherPlace : Nat} {otherTable : Table}
    (hother : (session.run (.opening name :: after)).handOut other = .ok (otherPlace, otherTable)) :
    otherPlace ≠ place ∧ otherTable ≠ table := by
  obtain ⟨htable, rfl⟩ := handOut_eq_ok_iff.1 h
  have hlater : (session.run (.opening name :: after)).catalog.tables.get? name = some table :=
    get?_run htable after
  obtain ⟨hplace, hotherTable⟩ := other_of_kept (kept_run hkept) hlater hne hother
  exact ⟨placeOf_run htable after ▸ hplace, hotherTable⟩

/-- A name that was opened in vain so far has no table. -/
theorem not_kept_of_openings_failed {config : Config} {files : Files}
    (h : ∀ earlier later, events = earlier ++ .opening name :: later →
      ∃ error, ((start config files).run earlier).handOut name = .error error) :
    ((start config files).run events).catalog.tables.get? name = none := by
  refine Option.eq_none_iff_forall_ne_some.2 fun table hkept => ?_
  obtain hstart | ⟨earlier, later, place, hevents, hopening⟩ := exists_opening_of_kept hkept
  · cases hstart
  · obtain ⟨error, herror⟩ := h earlier later hevents
    rw [herror] at hopening
    cases hopening

/-- Over every session, a name has at most one table. The table that its first opening with success
hands out is handed out ever after, whatever becomes of its file; other names get other tables; a
failed opening leaves nothing behind; and a name whose openings have all failed gets the table of
the schema that its file holds by then, as soon as that names one or two key attributes. -/
theorem one_table_for_each_name (config : Config) (files : Files) (before : List Event)
    (name : String) :
    let session := (start config files).run before
    (∀ handed, session.handOut name = .ok handed →
      ∀ after, (session.run (.opening name :: after)).handOut name = .ok handed) ∧
    (∀ place table, session.handOut name = .ok (place, table) →
      ∀ after other otherPlace otherTable, other ≠ name →
        (session.run (.opening name :: after)).handOut other = .ok (otherPlace, otherTable) →
        otherPlace ≠ place ∧ otherTable ≠ table) ∧
    (∀ error, session.handOut name = .error error → session.step (.opening name) = session) ∧
    ((∀ earlier later, before = earlier ++ .opening name :: later →
        ∃ error, ((start config files).run earlier).handOut name = .error error) →
      (∀ table, (∃ place, session.handOut name = .ok (place, table)) ↔
        ∃ schema shape, session.files.schema? (config.schemaPath name) = some schema ∧
          shape.names = schema.primaryKey ∧
          table = Catalog.tableOf config name schema shape) ∧
      ((∃ handed, session.handOut name = .ok handed) ↔
        ∃ schema, session.files.schema? (config.schemaPath name) = some schema ∧
          (schema.primaryKey.length = 1 ∨ schema.primaryKey.length = 2))) := by
  intro session
  have hkept : session.catalog.Kept := kept_run (Catalog.kept_ofConfig config)
  have hconfig : session.catalog.config = config := config_run (start config files) before
  refine ⟨fun handed h => handOut_run h, ?_, fun error => step_of_handOut_error, ?_⟩
  · intro place table h after other otherPlace otherTable hne hother
    exact other_run hkept h hne hother
  · intro hfailed
    have hnone : session.catalog.tables.get? name = none := not_kept_of_openings_failed hfailed
    constructor
    · intro table
      rw [exists_handOut_iff_build hnone, Catalog.build_eq_ok_iff, hconfig]
    · rw [exists_handOut_iff_schema hnone, hconfig]

/-- A table outlives its file, and is kept once. -/
example : ((start (.ofLocalStore "" "/s") fun _ => none).run
    [.opening "T", .write "/s/T.json" "\x7b\"default\":[\"id\"]\x7d", .opening "T",
      .delete "/s/T.json", .opening "T"]).catalog.tables.names = ["T"] := by
  decide +kernel

end Session

end ItemTable
