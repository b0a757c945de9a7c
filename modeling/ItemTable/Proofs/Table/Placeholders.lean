import ItemTable.Proofs.Placeholder.Plans
import ItemTable.Proofs.Table.Changes

set_option autoImplicit false

/-! # Placeholders of requests

A request is bound if its expressions use exactly the placeholders that it lists names and values
under. `Table.Operation.bound_of_yields` says that all requests of all operations with expressions
are bound, whatever the store answers. -/

namespace ItemTable

open Placeholder

/-! ## Bound requests -/

namespace Request

/-- The texts of a request in which placeholders may stand. -/
def expressions : Request → List String
  | .put request => request.terms.condition.toList
  | .update request => request.update :: request.terms.condition.toList
  | .page (.query request) => request.condition :: request.projection.toList
  | _ => []

/-- The attribute names of a request, by placeholder. -/
def names : Request → Record String
  | .put request => request.terms.names
  | .update request => request.terms.names
  | .page (.query request) => request.names
  | _ => []

/-- The values of a request, by placeholder. -/
def values : Request → Item
  | .put request => request.terms.values
  | .update request => request.terms.values
  | .page (.query request) => request.values
  | _ => []

/-- The placeholders in a request are those that it lists names and values under, each once; those
of names have the one mark, those of values the other. -/
structure Bound (request : Request) : Prop where
  used : ∀ token, token ∈ request.expressions.flatMap placeholdersIn ↔
    token ∈ request.names.names ∨ token ∈ request.values.names
  nodup_names : request.names.names.Nodup
  nodup_values : request.values.names.Nodup
  name_mark : ∀ token ∈ request.names.names, token.toList.head? = some '#'
  value_mark : ∀ token ∈ request.values.names, token.toList.head? = some ':'

theorem bound_of_empty {request : Request} (hexpressions : request.expressions = [])
    (hnames : request.names = []) (hvalues : request.values = []) : request.Bound := by
  refine ⟨?_, ?_, ?_, ?_, ?_⟩ <;> simp [hexpressions, hnames, hvalues, Record.names]

end Request

/-! ## Marks -/

theorem Names.mark_table (names : Names) :
    ∀ token ∈ names.table.names, token.toList.head? = some '#' := by
  intro token htoken
  rw [names_table] at htoken
  obtain ⟨i, -, rfl⟩ := List.mem_map.1 htoken
  rw [toList_name]
  rfl

theorem UpdatePlan.mark_values (plan : UpdatePlan) :
    ∀ token ∈ plan.values.names, token.toList.head? = some ':' := by
  intro token htoken
  rw [values, Record.names_numbered] at htoken
  obtain ⟨i, -, rfl⟩ := List.mem_map.1 htoken
  rw [toList_value]
  rfl

theorem UpdatePlan.nodup_values (plan : UpdatePlan) : plan.values.names.Nodup :=
  Record.nodup_names_numbered fun _ _ => value_inj

namespace Condition

theorem mark_names_compile (tests : Condition) :
    ∀ token ∈ (compile tests).names.names, token.toList.head? = some '#' := by
  intro token htoken
  rw [names_compile] at htoken
  obtain ⟨i, -, rfl⟩ := List.mem_map.1 htoken
  rw [toList_attributePlaceholder]
  rfl

theorem mark_values_compile (tests : Condition) :
    ∀ token ∈ (compile tests).values.names, token.toList.head? = some ':' := by
  intro token htoken
  rw [names_values_compile] at htoken
  obtain ⟨i, -, rfl⟩ := List.mem_map.1 htoken
  rw [toList_operandPlaceholder]
  rfl

end Condition

/-! ## Requests of puts -/

/-- A request that puts an item is bound. -/
theorem Table.bound_putRequest (table : Table) (item : Item) (overwrite : Bool) :
    (Request.put (table.putRequest item overwrite)).Bound := by
  cases overwrite with
  | true => exact Request.bound_of_empty rfl rfl rfl
  | false =>
    have hnodup : (Names.empty.seePaths table.keyPaths).seen.Nodup :=
      Names.nodup_seePaths Names.nodup_empty
    have hnames : (Request.put (table.putRequest item false)).names
        = (Names.empty.seePaths table.keyPaths).table := by
      rw [Request.names, putRequest_terms]
    have hvalues : (Request.put (table.putRequest item false)).values = [] := by
      rw [Request.values, putRequest_terms]
    refine ⟨fun token => ?_, ?_, ?_, ?_, ?_⟩
    · rw [hnames, hvalues, Request.expressions, putRequest_terms, Option.toList_some,
        List.flatMap_singleton, placeholdersIn_intercalate (by decide) rfl rfl,
        Condition.mem_placeholdersIn_guardTexts, Names.mem_names_table hnodup]
      simp [Names.mem_seePaths, Names.empty, Record.names]
    · rw [hnames]
      exact Names.nodup_names_table _
    · simp [hvalues, Record.names]
    · rw [hnames]
      exact Names.mark_table _
    · simp [hvalues, Record.names]

/-! ## Requests of writes -/

namespace Write

variable {write : Write}

/-- Guards use the names of the key attributes and names on the paths of the plan. -/
theorem mem_placeholdersIn_guardTexts (write : Write) (plan : UpdatePlan) {token : String} :
    token ∈ (write.guardTexts plan).flatMap placeholdersIn ↔
      ∃ name, (name ∈ Names.onPaths write.table.keyPaths ∨ name ∈ Names.onPaths plan.paths ∧
        (write.guards.requirePresent = true ∨ write.guards.requireMissing = true)) ∧
        token = (write.names plan).placeholder name := by
  rw [guardTexts, Condition.mem_placeholdersIn_guardTexts]
  cases write.guards.requirePresent <;> cases write.guards.requireMissing <;>
    simp [Names.onPaths]

/-- What the caller's condition adds to a request is that of a compiled condition; without tests
that is nothing. -/
theorem exists_direct (write : Write) : ∃ tests : Condition,
    (write.direct.map (·.text)).toList.flatMap placeholdersIn
        = placeholdersIn (Condition.compile tests).text ∧
      write.directNames = (Condition.compile tests).names ∧
      write.directValues = (Condition.compile tests).values := by
  unfold directNames directValues
  cases hdirect : write.direct with
  | none => exact ⟨[], rfl, rfl, rfl⟩
  | some direct =>
    obtain ⟨tests, rfl⟩ := exists_of_direct_eq_some hdirect
    exact ⟨tests, by simp, rfl, rfl⟩

theorem nodup_names (write : Write) (plan : UpdatePlan) : (write.names plan).seen.Nodup :=
  Names.nodup_seePaths (Names.nodup_seePaths Names.nodup_empty)

/-- The placeholders of the names that a request has seen. -/
theorem mem_names_table (write : Write) (plan : UpdatePlan) {token : String} :
    token ∈ (write.names plan).table.names ↔
      (∃ name ∈ Names.onPaths plan.paths, token = plan.names.placeholder name) ∨
        ∃ name ∈ Names.onPaths write.table.keyPaths,
          token = (write.names plan).placeholder name := by
  have hplaceholder : ∀ name ∈ Names.onPaths plan.paths,
      (write.names plan).placeholder name = plan.names.placeholder name := fun name hname =>
    Names.placeholder_seePaths (Names.mem_seePaths.2 (.inr hname))
  rw [Names.mem_names_table (write.nodup_names plan)]
  constructor
  · rintro ⟨name, hname, rfl⟩
    rcases (write.mem_names plan).1 hname with hname | hname
    · exact .inl ⟨name, hname, hplaceholder name hname⟩
    · exact .inr ⟨name, hname, rfl⟩
  · rintro (⟨name, hname, rfl⟩ | ⟨name, hname, rfl⟩)
    · exact ⟨name, (write.mem_names plan).2 (.inl hname), (hplaceholder name hname).symm⟩
    · exact ⟨name, (write.mem_names plan).2 (.inr hname), rfl⟩

/-- The request of a compiled plan is bound. -/
theorem bound_request {groups : List (UpdateMode × List Leaf)} {plan : UpdatePlan}
    (h : write.plan groups = .ok plan) : (Request.update (write.request plan)).Bound := by
  obtain ⟨tests, hdirect, hdirectNames, hdirectValues⟩ := write.exists_direct
  have hnames : (Request.update (write.request plan)).names
      = (write.names plan).table ++ (Condition.compile tests).names := by
    rw [Request.names, request_terms, hdirectNames]
  have hvalues : (Request.update (write.request plan)).values
      = plan.values ++ (Condition.compile tests).values := by
    rw [Request.values, request_terms, hdirectValues]
  have hexpressions : (Request.update (write.request plan)).expressions.flatMap placeholdersIn
      = placeholdersIn plan.text ++ ((write.guardTexts plan).flatMap placeholdersIn
        ++ placeholdersIn (Condition.compile tests).text) := by
    rw [Request.expressions, request_terms, Option.toList_some, List.flatMap_cons,
      List.flatMap_singleton, placeholdersIn_intercalate (by decide) rfl rfl, List.flatMap_append,
      hdirect]
    rfl
  -- guards use no name that was not seen, and all names of the key attributes
  have hguards : ∀ token, token ∈ (write.guardTexts plan).flatMap placeholdersIn →
      token ∈ (write.names plan).table.names := by
    intro token htoken
    obtain ⟨name, hname, rfl⟩ := (write.mem_placeholdersIn_guardTexts plan).1 htoken
    refine (Names.mem_names_table (write.nodup_names plan)).2
      ⟨name, (write.mem_names plan).2 ?_, rfl⟩
    rcases hname with hname | ⟨hname, -⟩
    · exact .inr hname
    · exact .inl hname
  have hkeys : ∀ name ∈ Names.onPaths write.table.keyPaths,
      (write.names plan).placeholder name ∈ (write.guardTexts plan).flatMap placeholdersIn :=
    fun name hname => (write.mem_placeholdersIn_guardTexts plan).2 ⟨name, .inl hname, rfl⟩
  refine ⟨fun token => ?_, ?_, ?_, ?_, ?_⟩
  · rw [hexpressions, hnames, hvalues, Record.names_append, Record.names_append]
    simp only [List.mem_append, Condition.mem_placeholdersIn_compile,
      plan.mem_placeholdersIn_text (UpdatePlan.isComplete_of_compile h)]
    constructor
    · rintro ((hname | hvalue) | hguard | hname | hvalue)
      · exact .inl (.inl ((write.mem_names_table plan).2 (.inl hname)))
      · exact .inr (.inl hvalue)
      · exact .inl (.inl (hguards token hguard))
      · exact .inl (.inr hname)
      · exact .inr (.inr hvalue)
    · rintro ((htable | hname) | hvalue | hvalue)
      · rcases (write.mem_names_table plan).1 htable with hname | ⟨name, hname, rfl⟩
        · exact .inl (.inl hname)
        · exact .inr (.inl (hkeys name hname))
      · exact .inr (.inr (.inl hname))
      · exact .inl (.inr hvalue)
      · exact .inr (.inr (.inr hvalue))
  · rw [hnames]
    exact Record.nodup_names_append (Names.nodup_names_table _)
      (Condition.nodup_names_compile tests) (Condition.disjoint_names_compile _ tests)
  · rw [hvalues]
    exact Record.nodup_names_append plan.nodup_values (Condition.nodup_values_compile tests)
      (Condition.disjoint_values_compile plan tests)
  · rw [hnames, Record.names_append]
    exact List.forall_mem_append.2 ⟨Names.mark_table _, Condition.mark_names_compile tests⟩
  · rw [hvalues, Record.names_append]
    exact List.forall_mem_append.2 ⟨plan.mark_values, Condition.mark_values_compile tests⟩

/-- The plans of a stage are compiled. -/
def Stage.IsCompiled (write : Write) : Stage → Prop
  | .attempt plan => ∃ groups, write.plan groups = .ok plan
  | .retry _ plan => ∃ groups, write.plan groups = .ok plan
  | _ => True

/-- The requests of a course are bound, since its plans are compiled. -/
theorem Course.bound {plan : UpdatePlan} {groups : List (UpdateMode × List Leaf)}
    {rounds : List Round} {result : Except Error (Option Json)}
    (h : write.Course (.attempt plan) rounds result) (hplan : write.plan groups = .ok plan) :
    ∀ round ∈ rounds, round.request.Bound := by
  refine h.forall_rounds (Stage.IsCompiled write) ?_ ?_ ⟨groups, hplan⟩
  · intro stage rounds outcome hstage hstep round hmem
    rcases hstep.request_eq round hmem with
      ⟨plan, rfl | ⟨item, rfl⟩, hrequest⟩ | hrequest | ⟨stored, hrequest⟩
    · obtain ⟨groups, hgroups⟩ := hstage
      exact hrequest ▸ bound_request hgroups
    · obtain ⟨groups, hgroups⟩ := hstage
      exact hrequest ▸ bound_request hgroups
    · exact hrequest ▸ Request.bound_of_empty rfl rfl rfl
    · exact hrequest ▸ write.table.bound_putRequest stored false
  · intro stage stage' rounds hstage hstep
    cases hstep with
    | recovered stored item plan hitem hplan => exact ⟨_, hplan⟩
    | recoverAbsent _ habsence => exact (absence_inl habsence).1 ▸ trivial
    | explainAbsent _ _ _ habsence => exact (absence_inl habsence).1 ▸ trivial
    | _ => trivial

end Write

/-! ## Requests of queries -/

/-- A projection uses the names on its paths. -/
theorem Expression.mem_placeholdersIn_projection (paths : List Path) {token : String} :
    token ∈ placeholdersIn (projection paths).text ↔
      token ∈ (projection paths).names.names := by
  have hnodup : (Names.empty.seePaths paths).seen.Nodup := Names.nodup_seePaths Names.nodup_empty
  have htext : placeholdersIn (projection paths).text = (Names.onPaths paths).map
      (Names.empty.seePaths paths).placeholder := by
    rw [projection, placeholdersIn_intercalate (by decide) rfl rfl, List.flatMap_map]
    simp only [Names.placeholdersIn_reference, Names.onPaths, List.map_flatMap]
  rw [htext, projection, Names.mem_names_table hnodup, List.mem_map]
  simp [Names.mem_seePaths, Names.empty, eq_comm]

namespace Query

/-- The request of a query is bound, wherever its page starts. -/
theorem bound_request {query : Query} {shape : KeyShape} {table physicalName : String}
    {request : QueryRequest} (h : query.request shape table physicalName = .ok request)
    (start : Option Item) : (Request.page (.query { request with start := start })).Bound := by
  unfold Query.request at h
  split at h
  · cases h
  · rename_i condition hcondition
    by_cases hempty : query.projection.isEmpty = true
    · have hexpressions : query.expressions condition = (condition.compile, none) := by
        rw [expressions, if_pos hempty]
      rw [hexpressions] at h
      cases h
      refine ⟨fun token => ?_, Condition.nodup_names_compile condition,
        Condition.nodup_values_compile condition, Condition.mark_names_compile condition,
        Condition.mark_values_compile condition⟩
      simpa [Request.expressions, Request.names, Request.values]
        using Condition.mem_placeholdersIn_compile condition
    · have hexpressions : query.expressions condition =
          ({ condition.compile with
              names := condition.compile.names ++ (Expression.projection query.projection).names },
            some (Expression.projection query.projection)) := by
        rw [← Condition.merge_names_projection, expressions, if_neg hempty]
      rw [hexpressions] at h
      cases h
      refine ⟨fun token => ?_, ?_, Condition.nodup_values_compile condition, ?_,
        Condition.mark_values_compile condition⟩
      · simp only [Request.expressions, Request.names, Request.values, Option.map_some,
          Option.toList_some, List.flatMap_cons, List.flatMap_nil, List.append_nil,
          List.mem_append, Record.names_append, Condition.mem_placeholdersIn_compile,
          Expression.mem_placeholdersIn_projection]
        exact or_right_comm
      · exact Record.nodup_names_append (Condition.nodup_names_compile condition)
          (Names.nodup_names_table _) fun name htable hname =>
            Condition.disjoint_names_compile _ condition name hname htable
      · rw [Request.names, Record.names_append]
        exact List.forall_mem_append.2
          ⟨Condition.mark_names_compile condition, Names.mark_table _⟩

end Query

/-! ## Operations -/

/-- Every request of reading page after page reads from some start. -/
theorem PagesRead.request_eq {read : Option Item → PageRequest} {isWanted : Page → Bool}
    {start : Option Item} {rounds : List Round} {answer : Except StoreError (List Page)}
    (h : PagesRead read isWanted start rounds answer) :
    ∀ round ∈ rounds, ∃ start, round.request = .page (read start) := by
  induction h with
  | nothing => simp
  | failed start fault => exact List.forall_mem_singleton.2 ⟨start, rfl⟩
  | last start page => exact List.forall_mem_singleton.2 ⟨start, rfl⟩
  | more start next page rounds answer _ _ _ ih =>
    exact List.forall_mem_cons.2 ⟨⟨start, rfl⟩, ih⟩

namespace Table

variable {table : Table} {rounds : List Round}

/-- All requests of a write that a table runs are bound. -/
theorem Runs.bound {write : Write} {result : Except Error (Option Json)}
    (h : table.Runs write rounds result) :
    ∀ round ∈ rounds, round.request.Bound := by
  obtain ⟨-, -, -, hrun⟩ := h
  rcases Write.course_of_yields hrun with ⟨e, -, rfl, -⟩ | ⟨plan, hplan, hcourse⟩
  · simp
  · exact hcourse.bound hplan

theorem bound_put {item : Record Json} {overwrite : Bool} {result : Except Error Unit}
    (h : (table.put item overwrite).Yields rounds result) :
    ∀ round ∈ rounds, round.request.Bound := by
  rcases yields_put h with ⟨e, -, rfl, -⟩ | ⟨stored, answer, -, rfl⟩
  · simp
  · rw [List.forall_mem_singleton]
    exact table.bound_putRequest stored overwrite

theorem bound_query {query : Query} {result : Except Error QueryPage}
    (h : (table.query query).Yields rounds result) : ∀ round ∈ rounds, round.request.Bound := by
  unfold Table.query at h
  rcases Program.yields_ofExcept_bind.1 h with ⟨e, -, rfl, -⟩ | ⟨shape, -, h⟩
  · simp
  · rcases Program.yields_ofExcept_bind.1 h with ⟨e, -, rfl, -⟩ | ⟨request, hrequest, h⟩
    · simp
    · have hbound : (Request.page (.query request)).Bound :=
        Query.bound_request hrequest request.start
      rcases Program.yields_ask_bind.1 h with ⟨fault, rfl, -⟩ | ⟨page, rest, rfl, hafter⟩
      · simpa using hbound
      · simpa [Program.rounds_eq_nil_of_convert hafter] using hbound

theorem bound_getByIndex {index : String} {input : KeyInput}
    {result : Except Error (List (Record Json))}
    (h : (table.getByIndex index input).Yields rounds result) :
    ∀ round ∈ rounds, round.request.Bound := by
  unfold getByIndex at h
  rcases Program.yields_ofExcept_bind.1 h with ⟨e, -, rfl, -⟩ | ⟨shape, -, h⟩
  · simp
  rcases Program.yields_ofExcept_bind.1 h with ⟨e, -, rfl, -⟩ | ⟨key, -, h⟩
  · simp
  rcases Program.yields_ofExcept_bind.1 h with ⟨e, -, rfl, -⟩ | ⟨request, hrequest, h⟩
  · simp
  have hpages : ∀ first answer, (Program.askPages
      (fun start => .query { request with start := start })
      (fun page => page.documents.isOk)).Yields first answer →
        ∀ round ∈ first, round.request.Bound := by
    intro first answer hfirst round hmem
    obtain ⟨pages, hread, -⟩ := Program.yields_askPages.1 hfirst
    obtain ⟨start, hround⟩ := hread.request_eq round hmem
    rw [hround]
    exact Query.bound_request hrequest start
  rcases Program.yields_bind.1 h with ⟨e, hfirst, -⟩ | ⟨pages, first, rest, hfirst, hrest, rfl⟩
  · exact hpages _ _ hfirst
  · rw [Program.rounds_eq_nil_of_convert hrest, List.append_nil]
    exact hpages _ _ hfirst

/-- An operation whose requests have expressions, with all that a caller gives it. -/
inductive Operation
  | change (change : Change)
  | put (item : Record Json) (overwrite : Bool)
  | query (query : Query)
  | getByIndex (index : String) (input : KeyInput)

namespace Operation

/-- What an operation gives back. -/
abbrev Result : Operation → Type
  | .change request => request.Result
  | .put .. => Unit
  | .query _ => QueryPage
  | .getByIndex .. => List (Record Json)

/-- The program of an operation. -/
def program (table : Table) : (operation : Operation) → Program operation.Result
  | .change request => request.program table
  | .put item overwrite => table.put item overwrite
  | .query request => table.query request
  | .getByIndex index input => table.getByIndex index input

/-- All requests of an operation are bound. -/
theorem bound_of_yields {operation : Operation} {result : Except Error operation.Result}
    (h : (operation.program table).Yields rounds result) :
    ∀ round ∈ rounds, round.request.Bound := by
  cases operation with
  | change request =>
    rcases Change.yields_run h with rfl | ⟨key, outcome, -, hruns, -⟩
    · simp
    · exact hruns.bound
  | put => exact bound_put h
  | query => exact bound_query h
  | getByIndex => exact bound_getByIndex h

end Operation

/-- The requests of rounds and the parts that requests are merged of keep their placeholders. -/
structure Integrity (rounds : List Round) : Prop where
  /-- Every request uses exactly the placeholders that it lists. -/
  bound : ∀ round ∈ rounds, round.request.Bound
  /-- The placeholders of updates, guards and projections are none of a condition's. -/
  apart : ∀ i j, Placeholder.name i ≠ Condition.attributePlaceholder j ∧
    Placeholder.value i ≠ Condition.operandPlaceholder j
  /-- An update lists what its plan and its condition list, one after the other. -/
  update : ∀ (write : Write) (plan : UpdatePlan),
    (write.request plan).terms.names = (write.names plan).table ++ write.directNames ∧
      (write.request plan).terms.values = plan.values ++ write.directValues
  /-- A query lists what its condition and its projection list, one after the other. -/
  query : ∀ (query : Query) (condition : Condition),
    (query.expressions condition).1.names = condition.compile.names ++
      ((query.expressions condition).2.map (·.names)).getD []
  /-- Whatever is referred to was seen: by a plan, by the request of a plan, by the request that
  puts an item, and by a projection. -/
  covered : (∀ plan : UpdatePlan, ∀ path ∈ plan.paths, plan.names.Covers path) ∧
    (∀ (write : Write) (plan : UpdatePlan), ∀ path ∈ write.table.keyPaths ++ plan.paths,
      (write.names plan).Covers path) ∧
    (∀ table : Table, ∀ path ∈ table.keyPaths, (Names.empty.seePaths table.keyPaths).Covers path) ∧
    ∀ paths : List Path, ∀ path ∈ paths, (Names.empty.seePaths paths).Covers path

/-- Whatever an operation is given and the store answers, the placeholders of its requests are in
order. -/
theorem Operation.rounds_integrity {σ : Type} (store : Store σ) (state : σ) (table : Table)
    (operation : Operation) : Integrity ((operation.program table).rounds store state) where
  bound := bound_of_yields ((operation.program table).yields_rounds store state)
  apart i j :=
    ⟨Condition.name_ne_attributePlaceholder i j, Condition.value_ne_operandPlaceholder i j⟩
  update write plan := by
    rw [write.request_terms]
    exact ⟨rfl, rfl⟩
  query query condition := by
    unfold Query.expressions
    split
    · exact (List.append_nil _).symm
    · exact Condition.merge_names_projection condition query.projection
  covered := by
    refine ⟨fun plan => Names.covers_seePaths Names.empty, fun write plan => ?_,
      fun table => Names.covers_seePaths Names.empty,
      fun paths => Names.covers_seePaths Names.empty⟩
    refine List.forall_mem_append.2 ⟨Names.covers_seePaths plan.names, fun path hpath => ?_⟩
    exact (Names.covers_seePaths Names.empty path hpath).seePaths _

end Table

end ItemTable
