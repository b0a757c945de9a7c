import ItemTable.Proofs.Table.Removals
import ItemTable.Proofs.Table.Sets
import ItemTable.Proofs.Update.References
import ItemTable.Proofs.Write.Explain

set_option autoImplicit false

/-! # References as the caller's paths are

A removal and a query hand the caller's paths on to the store as references, each path as it is and
in its place (`Table.references_as_given`). Where all paths begin with names, the store reads them,
and they lead along the paths. A path that begins with a position, or has no step at all, gets a
text that is no reference; no check of the table looks at how paths begin, so the request is made,
and the store cannot read it. -/

namespace ItemTable

open UpdateGrammar (path?)

/-- What stands for a list is converted to the list, if what stands for each element is. -/
theorem Traversal.mapM_map_eq_some {α β γ : Type} {f : β → Option γ} {g : α → β} {h : α → γ}
    {xs : List α} (hxs : ∀ x ∈ xs, f (g x) = some (h x)) : (xs.map g).mapM f = some (xs.map h) := by
  induction xs with
  | nil => rfl
  | cons x rest ih =>
    obtain ⟨hx, hrest⟩ := List.forall_mem_cons.1 hxs
    rw [List.map_cons, List.mapM_cons, hx, ih hrest]
    rfl

/-! ## Texts that refer to paths -/

/-- A text has a part for each path, and the parts are set apart by commas. A part is a reference to
its path, or none if the path does not begin with a name; the text is a list of references if all
its parts are. -/
structure ReferenceList.RefersTo (names : Record String) (text : String) (paths : List Path) :
    Prop where
  parts : ∃ parts, text = ", ".intercalate parts ∧ List.Forall₂ (fun path part =>
    UpdateGrammar.reference? (Token.read part) = none ∧ path.startsWithName = false ∨
      ∃ reference, UpdateGrammar.reference? (Token.read part) = some (reference, []) ∧
        path? names reference = some path ∧ path.startsWithName = true) paths parts
  read : (∀ path ∈ paths, path.startsWithName = true) →
    ∃ references, ReferenceList.read text = some references ∧
      references.mapM (path? names) = some paths
  unread : ∀ path ∈ paths, path.startsWithName = false → ReferenceList.read text = none

namespace ReferenceList

variable {names : Names} {table : Record String} {paths : List Path}

theorem refersTo_text (hne : paths ≠ [])
    (hpaths : ∀ path ∈ paths, path? table (names.spell path) = some path) :
    RefersTo table (text names paths) paths := by
  refine ⟨⟨_, rfl, ?_⟩, fun hall => ?_, fun path hpath hstart => ?_⟩
  · rw [List.forall₂_map_right_iff, List.forall₂_same]
    intro path hpath
    have hread := reference?_read names path
    cases hstart : path.startsWithName with
    | true =>
      rw [if_pos hstart] at hread
      exact .inr ⟨_, hread, hpaths path hpath, rfl⟩
    | false =>
      rw [hstart, if_neg Bool.false_ne_true] at hread
      exact .inl ⟨hread, rfl⟩
  · refine ⟨paths.map names.spell, ?_, ?_⟩
    · rw [read_texts names hne, if_pos (List.all_eq_true.2 hall)]
    · rw [Traversal.mapM_map_eq_some (h := id) hpaths, List.map_id]
  · rw [read_texts names hne, if_neg]
    intro hall
    rw [List.all_eq_true.1 hall path hpath] at hstart
    cases hstart

end ReferenceList

/-! ## Removals -/

namespace UpdatePlan

variable {paths : List Path}

/-- The plan that removes what paths lead to. -/
def ofRemoval (paths : List Path) : UpdatePlan :=
  ⟨[(.remove, paths.map fun path => ⟨.remove, path, false, none⟩)]⟩

theorem compile_removal (store : Path → Json → Except ConversionError StoreValue)
    (hne : paths ≠ []) :
    compile store [(.remove, paths.map fun path => ⟨path, .null, false⟩)] =
      .ok (ofRemoval paths) := by
  have hactions : (paths.map fun path => (⟨path, .null, false⟩ : Leaf)).mapM
      (Action.ofLeaf store .remove) =
        .ok (paths.map fun path => ⟨.remove, path, false, none⟩) := by
    refine Traversal.mapM_of_forall₂ ?_
    rw [List.forall₂_map_left_iff, List.forall₂_map_right_iff, List.forall₂_same]
    exact fun _ _ => rfl
  simp [compile, compileClause, hne, hactions, ofRemoval]
  rfl

theorem paths_ofRemoval (paths : List Path) : (ofRemoval paths).paths = paths := by
  simp [ofRemoval, UpdatePlan.paths, actions, Function.comp_def]

/-- Actions without values are all numbered alike. -/
theorem actionTexts_ofRemoval (names : Names) (first : Nat) (paths : List Path) :
    actionTexts names (numberActions first
      (paths.map fun path => ⟨.remove, path, false, none⟩)) = paths.map names.reference := by
  induction paths with
  | nil => rfl
  | cons path rest ih => exact congrArg (names.reference path :: ·) ih

theorem text_ofRemoval (paths : List Path) : (ofRemoval paths).text =
    "remove " ++ ReferenceList.text (ofRemoval paths).names paths := by
  have htext : (ofRemoval paths).text = "remove " ++ ", ".intercalate
      (actionTexts (ofRemoval paths).names (numberActions 0
        (paths.map fun path => ⟨.remove, path, false, none⟩))) := String.intercalate_singleton
  rw [htext, actionTexts_ofRemoval, ReferenceList.text]

end UpdatePlan

/-- An update that removes what paths lead to, as far as the store can read it. -/
structure UpdateRequest.RemovesAt (request : UpdateRequest) (paths : List Path) : Prop where
  references : ∃ text, request.update = "remove " ++ text ∧
    ReferenceList.RefersTo request.terms.names text paths
  read : (∀ path ∈ paths, path.startsWithName = true) →
    ∃ clauses, UpdateGrammar.read request.update = some clauses ∧
      UpdateGrammar.meaning? request.terms.names request.terms.values clauses =
        some [(.remove, paths.map .remove)]
  unread : ∀ path ∈ paths, path.startsWithName = false →
    UpdateGrammar.read request.update = none

namespace Write

/-- The names of a plan's paths are looked up in the names of its request. -/
theorem path?_request (write : Write) (plan : UpdatePlan) :
    ∀ path ∈ plan.paths,
      path? (write.request plan).terms.names (plan.names.spell path) = some path := by
  intro path hpath
  refine UpdateGrammar.path?_mono (fun token name hname => ?_)
    (UpdateGrammar.path?_spell (Names.covers_seePaths Names.empty path hpath))
  have hseen : (write.names plan).table.get? token = some name :=
    Names.get?_table_seePaths plan.names write.table.keyPaths hname
  rw [request_terms, Record.get?_append, hseen, Option.some_or]

/-- The request of a removal. -/
theorem removesAt_request (write : Write) {paths : List Path} (hne : paths ≠ []) :
    (write.request (.ofRemoval paths)).RemovesAt paths := by
  have hpaths := write.path?_request (.ofRemoval paths)
  rw [UpdatePlan.paths_ofRemoval] at hpaths
  have hupdate : (write.request (.ofRemoval paths)).update =
      "remove " ++ ReferenceList.text (UpdatePlan.ofRemoval paths).names paths :=
    UpdatePlan.text_ofRemoval paths
  have hread := UpdateGrammar.read_removal (UpdatePlan.ofRemoval paths).names hne
  refine ⟨⟨_, hupdate, ReferenceList.refersTo_text hne hpaths⟩, fun hall => ?_,
    fun path hpath hstart => ?_⟩
  · rw [if_pos (List.all_eq_true.2 hall), ← hupdate] at hread
    refine ⟨_, hread, ?_⟩
    have hactions : ∀ path ∈ paths,
        UpdateGrammar.instruction? (write.request (.ofRemoval paths)).terms.names
          (write.request (.ofRemoval paths)).terms.values
          (.remove ((UpdatePlan.ofRemoval paths).names.spell path)) = some (.remove path) := by
      intro path hpath
      simp [UpdateGrammar.instruction?, hpaths path hpath]
    have hclause := Traversal.mapM_map_eq_some hactions
    simp only [UpdateGrammar.meaning?, List.map_map, Function.comp_def, List.mapM_cons, hclause]
    rfl
  · rw [hupdate, hread, if_neg]
    intro hall
    rw [List.all_eq_true.1 hall path hpath] at hstart
    cases hstart

/-- A removal makes its one update first, and else only reads the item. -/
theorem Course.of_removal {write : Write} {plan : UpdatePlan} {rounds : List Round}
    {result : Except Error (Option Json)} (h : write.Course (.attempt plan) rounds result)
    (hmode : write.mode = .remove) :
    rounds ≠ [] ∧ ∀ round ∈ rounds,
      round.request = .update (write.request plan) ∨ round.request = write.readRequest := by
  obtain ⟨answer, rest, hfirst, -⟩ := h.updates
  refine ⟨by simp [hfirst], ?_⟩
  -- a removal is not made again and creates nothing
  refine h.forall_rounds (fun stage => stage = .attempt plan ∨ ∃ guarded, stage = .explain guarded)
    ?_ ?_ (.inl rfl)
  · rintro _ rounds outcome (rfl | ⟨guarded, rfl⟩) hstep
    all_goals cases hstep <;> simp
  · rintro _ stage' rounds (rfl | ⟨guarded, rfl⟩) hstep
    · cases hstep with
      | attemptUnmet => exact .inr ⟨_, rfl⟩
      | attemptCut _ _ _ hmay => simp [mayRecover, hmode] at hmay
    · cases hstep with
      | explainAbsent _ _ _ habsence => simp [(absence_inl habsence).2.2] at hmode

end Write

/-! ## Queries -/

/-- A query that asks for what paths lead to, as far as the store can read it, or for all there is.
-/
structure QueryRequest.ProjectsOn (request : QueryRequest) (paths : List Path) : Prop where
  whole : paths = [] → request.projection = none
  references : paths ≠ [] → ∃ text, request.projection = some text ∧
    ReferenceList.RefersTo request.names text paths

namespace Query

theorem projectsOn_request {query : Query} {shape : KeyShape} {table physicalName : String}
    {request : QueryRequest} (h : query.request shape table physicalName = .ok request) :
    request.ProjectsOn query.projection := by
  unfold Query.request at h
  split at h
  · cases h
  · next condition hcondition =>
    by_cases hempty : query.projection = []
    · have hexpressions : query.expressions condition = (condition.compile, none) := by
        simp [expressions, hempty]
      rw [hexpressions] at h
      cases h
      exact ⟨fun _ => rfl, fun hne => absurd hempty hne⟩
    · have hexpressions : query.expressions condition =
          ({ condition.compile with
              names := condition.compile.names ++ (Expression.projection query.projection).names },
            some (Expression.projection query.projection)) := by
        simp [expressions, hempty, ← Condition.merge_names_projection]
      rw [hexpressions] at h
      cases h
      refine ⟨fun hnil => absurd hnil hempty, fun _ => ⟨_, rfl, ?_⟩⟩
      refine ReferenceList.refersTo_text hempty fun path hpath => ?_
      refine UpdateGrammar.path?_mono (fun token name hname => ?_)
        (UpdateGrammar.path?_spell (Names.covers_seePaths Names.empty path hpath))
      exact Record.get?_append_of_disjoint (fun other htable hother =>
        Condition.disjoint_names_compile _ condition other hother htable) hname

end Query

/-! ## Calls with the caller's paths -/

namespace Table

variable {table : Table} {rounds : List Round}

/-- A query reads one page, if it has a condition on the key attributes of what it reads; nothing of
this depends on its projection. -/
theorem yields_query {query : Query} {result : Except Error QueryPage}
    (h : (table.query query).Yields rounds result) :
    (rounds ≠ [] ↔ ∃ shape condition, table.queriedShape query = .ok shape ∧
        query.condition? shape = some condition) ∧
      ∀ round ∈ rounds, ∃ request, round.request = .page (.query request) ∧
        request.ProjectsOn query.projection := by
  unfold Table.query at h
  rcases Program.yields_ofExcept_bind.1 h with ⟨e, hshape, rfl, -⟩ | ⟨shape, hshape, h⟩
  · simp [hshape]
  · rcases Program.yields_ofExcept_bind.1 h with ⟨e, hrequest, rfl, -⟩ | ⟨request, hrequest, h⟩
    · have hnone : query.condition? shape = none := by
        unfold Query.request at hrequest
        split at hrequest
        · assumption
        · cases hrequest
      simp [hshape, hnone]
    · have hsome : ∃ condition, query.condition? shape = some condition := by
        unfold Query.request at hrequest
        split at hrequest
        · cases hrequest
        · exact ⟨_, ‹_›⟩
      have hprojects := Query.projectsOn_request hrequest
      rcases Program.yields_ask_bind.1 h with ⟨fault, rfl, -⟩ | ⟨page, rest, rfl, hafter⟩
      · simp [hshape, hsome, hprojects]
      · obtain rfl := Program.rounds_eq_nil_of_convert hafter
        simp [hshape, hsome, hprojects]

/-- A removal makes no call for paths that it refuses. Otherwise it makes its update, and may read
the item after it. -/
theorem yields_removal {input : KeyInput} {paths : List Path} {options : RemoveOptions}
    {result : Except Error (Option Json)}
    (h : (table.removeAttributes input paths options).Yields rounds result) :
    (rounds ≠ [] ↔
        (∃ key, table.key input = .ok key) ∧ paths ≠ [] ∧ table.checkRemoval paths = .ok ()) ∧
      ∀ round ∈ rounds,
        (∃ request, round.request = .update request ∧ request.RemovesAt paths) ∨
          ∃ key, round.request = .get table.physicalName key := by
  unfold removeAttributes at h
  rcases Program.yields_ofExcept_bind.1 h with ⟨e, hkey, rfl, -⟩ | ⟨key, hkey, h⟩
  · simp [hkey]
  split at h
  · next hempty =>
    obtain ⟨rfl, -⟩ := Program.yields_fail.1 h
    simp [List.isEmpty_iff.1 hempty]
  · next hempty =>
    have hne : paths ≠ [] := fun hnil => hempty (List.isEmpty_iff.2 hnil)
    rcases Program.yields_ofExcept_bind.1 h with ⟨e, hpaths, rfl, -⟩ | ⟨⟨⟩, hpaths, h⟩
    · simp [hpaths]
    · have hplan := UpdatePlan.compile_removal table.rules.storeValue hne
      rcases Write.course_of_yields h with ⟨e, herror, -, -⟩ | ⟨plan, hcompiled, hcourse⟩
      · cases hplan.symm.trans herror
      · obtain rfl := Except.ok.inj (hplan.symm.trans hcompiled)
        obtain ⟨hrounds, hall⟩ := hcourse.of_removal rfl
        refine ⟨by simp [hrounds, hkey, hne, hpaths], fun round hmem => ?_⟩
        rcases hall round hmem with hupdate | hread
        · exact .inl ⟨_, hupdate, Write.removesAt_request _ hne⟩
        · exact .inr ⟨_, hread⟩

/-- Whatever paths a removal or the projection of a query has, its requests refer to just these
paths, in their order, and the store can read a reference exactly if the path begins with a name.
How paths begin decides nothing else: a removal is refused before any call only for its key, for
having no path, for paths of which one leads through the end of another, as an empty path does with
every other, and for a path to a name that has to be there; a query only for its shape and its
condition. -/
theorem references_as_given {σ : Type} (store : Store σ) (state : σ) (table : Table) :
    (∀ input paths options,
      ((table.removeAttributes input paths options).rounds store state ≠ [] ↔
        (∃ key, table.key input = .ok key) ∧ paths ≠ [] ∧
          paths.Pairwise (fun path other => path.conflicts other = false) ∧
            ∀ path ∈ paths, ∀ name, path.lastKey? = some name →
              table.requires path.parent name = false) ∧
      ∀ round ∈ (table.removeAttributes input paths options).rounds store state,
        (∃ request, round.request = .update request ∧ request.RemovesAt paths) ∨
          ∃ key, round.request = .get table.physicalName key) ∧
    ∀ query,
      ((table.query query).rounds store state ≠ [] ↔
        ∃ shape condition, table.queriedShape query = .ok shape ∧
          query.condition? shape = some condition) ∧
      ∀ round ∈ (table.query query).rounds store state,
        ∃ request, round.request = .page (.query request) ∧
          request.ProjectsOn query.projection := by
  refine ⟨fun input paths options => ?_, fun query => ?_⟩
  · rw [← checkRemoval_eq_ok_iff]
    exact yields_removal (Program.yields_rounds store _ state)
  · exact yields_query (Program.yields_rounds store _ state)

/-- The removal of an element of the item itself, that of the whole item, and a projection on an
element of the item are all sent, though the texts have no reference that a name begins. -/
theorem position_sent_unread :
    (∃ request answer, (freeTable.removeAttributes (.scalar (.string "a")) [[.position 0]]
          ⟨none, .none⟩).rounds scripted ⟨[.item none], []⟩ = [⟨.update request, answer⟩] ∧
        request.update = "remove [0]" ∧ UpdateGrammar.read request.update = none) ∧
      (∃ request answer, (freeTable.removeAttributes (.scalar (.string "a")) [[]]
          ⟨none, .none⟩).rounds scripted ⟨[.item none], []⟩ = [⟨.update request, answer⟩] ∧
        request.update = "remove " ∧ UpdateGrammar.read request.update = none) ∧
      ∃ request answer, (freeTable.query
          ⟨none, .string "a", none, [[.position 0]], none, none, none⟩).rounds scripted
            ⟨[.accepted], []⟩ = [⟨.page (.query request), answer⟩] ∧
        request.projection = some "[0]" ∧ ReferenceList.read "[0]" = none :=
  ⟨⟨_, _, rfl, by decide +kernel, by decide +kernel⟩,
    ⟨_, _, rfl, by decide +kernel, by decide +kernel⟩,
    ⟨_, _, rfl, by decide +kernel, by decide +kernel⟩⟩

end Table

end ItemTable
