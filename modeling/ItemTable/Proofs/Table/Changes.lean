import ItemTable.Proofs.Key
import ItemTable.Proofs.Write.Guards
import ItemTable.Table.Update

set_option autoImplicit false

/-! # Updates and removals of a table

Every update and every removal of a table makes no call at all, or runs one write under a key of the
table whose data hold no key attribute (`Table.Change.yields_run`). So what holds of the calls of a
write holds of them: `Table.Change.rounds_guarded` says what they ask of the item, and when and how
they create one. -/

namespace ItemTable

namespace Table

variable {table : Table} {rounds : List Round} {result : Except Error (Option Json)}

/-- The write of an update. -/
def updateWrite (table : Table) (key : Key) (mode : UpdateMode) (data : Record Json)
    (append : Bool) (guards : Guards) (options : UpdateOptions) : Write where
  table := table
  key := key
  mode := mode
  data := data
  leaves := Leaf.ofTree append (Tree.flatten data)
  guards := guards
  condition := options.condition
  returns := options.returns

/-- The write of a removal. -/
def removalWrite (table : Table) (key : Key) (paths : List Path) (options : RemoveOptions) :
    Write where
  table := table
  key := key
  mode := .remove
  data := []
  leaves := paths.map fun path => ⟨path, .null, false⟩
  guards := .free
  condition := options.condition
  returns := options.returns

/-- An update or a removal, with all that a caller gives it. -/
inductive Change
  | updateAttributes (input : KeyInput) (data : Record Json) (options : UpdateOptions)
  | addAttributes (input : KeyInput) (data : Record Json) (options : UpdateOptions)
  | appendToLists (input : KeyInput) (data : Record Json) (options : UpdateOptions)
  | addToSets (input : KeyInput) (data : Record Json) (options : UpdateOptions)
  | removeFromSets (input : KeyInput) (data : Record Json) (options : UpdateOptions)
  | removeAttributes (input : KeyInput) (paths : List Path) (options : RemoveOptions)
  | removeEntry (input : KeyInput) (list : Path) (position : Nat) (condition : Option Condition)

namespace Change

/-- What a change gives back. -/
abbrev Result : Change → Type
  | removeEntry .. => Json
  | _ => Option Json

/-- The operation of the table that makes a change. -/
def program (table : Table) : (change : Change) → Program change.Result
  | updateAttributes input data options => table.updateAttributes input data options
  | addAttributes input data options => table.addAttributes input data options
  | appendToLists input data options => table.appendToLists input data options
  | addToSets input data options => table.addToSets input data options
  | removeFromSets input data options => table.removeFromSets input data options
  | removeAttributes input paths options => table.removeAttributes input paths options
  | removeEntry input list position condition => table.removeEntry input list position condition

/-- The key of the item that is changed. An entry is removed under the key that the caller's key
makes as a mapping. -/
def key (table : Table) : Change → Except Error Key
  | updateAttributes input _ _ => table.key input
  | addAttributes input _ _ => table.key input
  | appendToLists input _ _ => table.key input
  | addToSets input _ _ => table.key input
  | removeFromSets input _ _ => table.key input
  | removeAttributes input _ _ => table.key input
  | removeEntry input _ _ _ => do
    let key ← table.key input
    table.key (.mapping key.members)

/-- The write of a change under a key. -/
def write (table : Table) (key : Key) : Change → Write
  | updateAttributes _ data options =>
    table.updateWrite key .set data false (presentGuards options) options
  | addAttributes _ data options =>
    table.updateWrite key .set data false (missingGuards options) options
  | appendToLists _ data options =>
    table.updateWrite key .set data true (presentGuards options) options
  | addToSets _ data options => table.updateWrite key .add data false .free options
  | removeFromSets _ data options => table.updateWrite key .delete data false .free options
  | removeAttributes _ paths options => table.removalWrite key paths options
  | removeEntry _ list position condition =>
    table.removalWrite key [list ++ [.position position]] ⟨condition, .allOld⟩

end Change

/-! ## The write that a change runs -/

/-- A table runs a write under a key of its own, and the data hold no key attribute. -/
structure Runs (table : Table) (write : Write) (rounds : List Round)
    (result : Except Error (Option Json)) : Prop where
  ofTable : write.table = table
  key : ∃ input, table.key input = .ok write.key
  data : ∀ name ∈ table.shape.names, write.data.contains name = false
  run : write.run.Yields rounds result

theorem checkData_eq_ok {data : Record Json} (h : table.checkData data = .ok ()) :
    ∀ name ∈ table.shape.names, data.contains name = false := by
  unfold checkData at h
  split at h
  · rename_i hnames
    intro name hname
    simpa using List.filter_eq_nil_iff.1 hnames name hname
  · cases h

theorem yields_update {input : KeyInput} {mode : UpdateMode} {data : Record Json} {append : Bool}
    {guards : Guards} {options : UpdateOptions}
    (h : (table.update input mode data append guards options).Yields rounds result) :
    rounds = [] ∨ ∃ key, table.key input = .ok key ∧
      table.Runs (table.updateWrite key mode data append guards options) rounds result := by
  unfold update at h
  rcases Program.yields_ofExcept_bind.1 h with ⟨e, -, rfl, -⟩ | ⟨key, hkey, h⟩
  · exact .inl rfl
  · rcases Program.yields_ofExcept_bind.1 h with ⟨e, -, rfl, -⟩ | ⟨⟨⟩, hdata, h⟩
    · exact .inl rfl
    · dsimp only at h
      split at h
      · exact .inl (Program.yields_fail.1 h).1
      · exact .inr ⟨key, hkey, rfl, ⟨input, hkey⟩, checkData_eq_ok hdata, h⟩

/-- Where a removal makes calls, its paths were accepted. -/
theorem yields_removeAttributes {input : KeyInput} {paths : List Path} {options : RemoveOptions}
    (h : (table.removeAttributes input paths options).Yields rounds result) :
    rounds = [] ∨ table.checkRemoval paths = .ok () ∧ ∃ key, table.key input = .ok key ∧
      table.Runs (table.removalWrite key paths options) rounds result := by
  unfold removeAttributes at h
  rcases Program.yields_ofExcept_bind.1 h with ⟨e, -, rfl, -⟩ | ⟨key, hkey, h⟩
  · exact .inl rfl
  · split at h
    · exact .inl (Program.yields_fail.1 h).1
    · rcases Program.yields_ofExcept_bind.1 h with ⟨e, -, rfl, -⟩ | ⟨⟨⟩, hpaths, h⟩
      · exact .inl rfl
      · exact .inr ⟨hpaths, key, hkey, rfl, ⟨input, hkey⟩, fun _ _ => rfl, h⟩

/-- What the caller gets of the removal of an entry. -/
def entryOf (table : Table) (key : Key) (list : Path) (position : Nat) (old : Option Json) :
    Except Error Json :=
  match old.bind (·.walk? (list ++ [.position position])) with
  | some value => .ok value
  | none => .error (.noPosition table.name key.text list.text position)

theorem yields_removeEntry {input : KeyInput} {list : Path} {position : Nat}
    {condition : Option Condition} {result : Except Error Json}
    (h : (table.removeEntry input list position condition).Yields rounds result) :
    rounds = [] ∨ ∃ first key outcome, table.key input = .ok first ∧
      table.key (.mapping first.members) = .ok key ∧
      table.Runs (table.removalWrite key [list ++ [.position position]] ⟨condition, .allOld⟩)
        rounds outcome ∧
      result = outcome.bind (table.entryOf first list position) := by
  unfold removeEntry at h
  rcases Program.yields_ofExcept_bind.1 h with ⟨e, -, rfl, -⟩ | ⟨key, hkey, h⟩
  · exact .inl rfl
  · rcases Program.yields_bind.1 h with
      ⟨e, hfirst, rfl⟩ | ⟨old, first, second, hfirst, hsecond, rfl⟩
    · rcases yields_removeAttributes hfirst with rfl | ⟨-, key', hkey', hruns⟩
      · exact .inl rfl
      · exact .inr ⟨key, key', _, hkey, hkey', hruns, rfl⟩
    · have hafter : second = [] ∧ result = table.entryOf key list position old := by
        unfold entryOf
        cases hvalue : old.bind (·.walk? (list ++ [.position position])) with
        | some value =>
          simp only [hvalue] at hsecond
          exact Program.yields_pure.1 hsecond
        | none =>
          simp only [hvalue] at hsecond
          exact Program.yields_fail.1 hsecond
      obtain ⟨rfl, rfl⟩ := hafter
      rw [List.append_nil]
      rcases yields_removeAttributes hfirst with rfl | ⟨-, key', hkey', hruns⟩
      · exact .inl rfl
      · exact .inr ⟨key, key', _, hkey, hkey', hruns, rfl⟩

/-- A put makes no call for an item that fails a check, and else one, for its stored form. -/
theorem yields_put {item : Record Json} {overwrite : Bool} {result : Except Error Unit}
    (h : (table.put item overwrite).Yields rounds result) :
    (∃ e, table.prepare item = .error e ∧ rounds = [] ∧ result = .error e) ∨
      ∃ stored answer, table.prepare item = .ok stored ∧
        rounds = [⟨.put (table.putRequest stored overwrite), answer⟩] := by
  unfold put at h
  rw [insert_eq, bind_assoc] at h
  rcases Program.yields_ofExcept_bind.1 h with hrefused | ⟨stored, hprepare, h⟩
  · exact .inl hrefused
  · rw [bind_assoc] at h
    obtain ⟨answer, rest, hrounds, hafter⟩ := Program.yields_attempt_bind.1 h
    have hrest : rest = [] := by
      rcases Program.yields_ofExcept_bind.1 hafter with ⟨e, -, hrest, -⟩ | ⟨_, -, hafter⟩
      · exact hrest
      · exact (Program.yields_pure.1 hafter).1
    rw [hrest] at hrounds
    exact .inr ⟨stored, answer, hprepare, hrounds⟩

/-- What a change gives back of what its write gives back. -/
def Change.finish (table : Table) :
    (change : Change) → Option Json → Except Error change.Result
  | updateAttributes .., attributes => .ok attributes
  | addAttributes .., attributes => .ok attributes
  | appendToLists .., attributes => .ok attributes
  | addToSets .., attributes => .ok attributes
  | removeFromSets .., attributes => .ok attributes
  | removeAttributes .., attributes => .ok attributes
  | removeEntry input list position _, old => do
    let key ← table.key input
    table.entryOf key list position old

/-- A change makes no call, or runs its write. -/
theorem Change.yields_run {change : Change} {result : Except Error change.Result}
    (h : (change.program table).Yields rounds result) :
    rounds = [] ∨ ∃ key outcome, change.key table = .ok key ∧
      table.Runs (change.write table key) rounds outcome ∧
      result = outcome.bind (change.finish table) := by
  have hwhole : ∀ outcome : Except Error (Option Json), outcome = outcome.bind .ok := by
    rintro (e | attributes) <;> rfl
  cases change with
  | removeAttributes =>
    rcases yields_removeAttributes h with rfl | ⟨-, key, hkey, hruns⟩
    · exact .inl rfl
    · exact .inr ⟨key, _, hkey, hruns, hwhole _⟩
  | removeEntry =>
    rcases yields_removeEntry h with rfl | ⟨first, key, outcome, hfirst, hkey, hruns, rfl⟩
    · exact .inl rfl
    · refine .inr ⟨key, outcome, ?_, hruns, ?_⟩
      · rw [Change.key, hfirst]
        exact hkey
      · refine congrArg outcome.bind (funext fun old => ?_)
        rw [finish, hfirst]
        rfl
  | _ =>
    rcases yields_update h with rfl | ⟨key, hkey, hruns⟩
    · exact .inl rfl
    · exact .inr ⟨key, _, hkey, hruns, hwhole _⟩

/-! ## What a change asks of the item -/

/-- What the calls of a write ask of the item, and how they create one. -/
structure Guarded (table : Table) (write : Write) (rounds : List Round) : Prop where
  /-- An update asks that all key attributes exist, that the paths of its own plan are there or are
  missing if the caller wants them to, and what the caller asks; and it knows the names on all of
  those paths. Its plan is that of the caller's leaves, or that of the leaves for an item that was
  read right before. -/
  update : ∀ before round after request, rounds = before ++ round :: after →
    round.request = .update request → ∃ groups plan,
      ((before = [] ∧ groups = [(write.mode, write.leaves)]) ∨
        ∃ first stored item,
          before = first ++ [⟨.get table.physicalName write.key.item, .ok (some stored)⟩] ∧
            StoreValue.membersOfItem stored = .ok item ∧ groups = write.recoveryGroups item) ∧
      write.plan groups = .ok plan ∧
      request.key = write.key.item ∧
      request.update = plan.text ∧
      request.terms.condition = some (" and ".intercalate
        ((table.keyPaths.map fun path =>
            "attribute_exists(" ++ (write.names plan).reference path ++ ")")
          ++ (if write.guards.requirePresent then plan.paths else []).map (fun path =>
            "attribute_exists(" ++ (write.names plan).reference path ++ ")")
          ++ (if write.guards.requireMissing then plan.paths else []).map (fun path =>
            "attribute_not_exists(" ++ (write.names plan).reference path ++ ")")
          ++ (write.direct.map (·.text)).toList)) ∧
      ∀ path ∈ table.keyPaths ++ plan.paths, ∀ name ∈ path.keys,
        request.terms.names.get? ((write.names plan).placeholder name) = some name
  /-- An item is put last, right after a read that found none, if the caller lets the write create
  it and the write sets. It has the key and the data, passes the check of whole items, and must not
  be there. -/
  put : ∀ before round after put, rounds = before ++ round :: after →
    round.request = .put put →
      after = [] ∧
      (∃ first, before = first ++ [⟨.get table.physicalName write.key.item, .ok none⟩]) ∧
      write.guards.createIfMissing = true ∧ write.mode = .set ∧
      table.rules.storeItem (write.key.members ++ write.data) = .ok put.item ∧
      table.rules.validate (.object (write.key.members ++ write.data)) = none ∧
      put.terms.condition = some (" and ".intercalate (table.keyPaths.map fun path =>
        "attribute_not_exists(" ++ (Names.empty.seePaths table.keyPaths).reference path ++ ")")) ∧
      ∀ name ∈ table.shape.names,
        put.terms.names.get? ((Names.empty.seePaths table.keyPaths).placeholder name) = some name

/-- The item that is created is the key and all of the data, since they share no name. -/
theorem Runs.newItem_eq {write : Write} (h : table.Runs write rounds result) :
    write.newItem = write.key.members ++ write.data := by
  obtain ⟨input, hkey⟩ := h.key
  -- the data give no key attribute, so none of them is left out
  refine congrArg (write.key.members ++ ·) (List.filter_eq_self.2 fun entry hentry => ?_)
  have hdata : write.data.contains entry.1 = true :=
    Record.contains_eq_true_iff.2 (List.mem_map_of_mem hentry)
  have hnone : write.key.members.contains entry.1 = false := by
    refine Bool.eq_false_iff.2 fun hmem => ?_
    have hname := Key.names_members (Record.contains_eq_true_iff.1 hmem)
    rw [names_of_key hkey] at hname
    rw [h.data _ hname] at hdata
    cases hdata
  simp [hnone]

theorem names_onPaths_keyPaths (table : Table) :
    Names.onPaths table.keyPaths = table.shape.names := by
  unfold Names.onPaths keyPaths
  induction table.shape.names with
  | nil => rfl
  | cons name rest ih => simpa [Path.keys, Step.key?] using ih

/-- The calls of a write that a table runs are guarded. -/
theorem Runs.guarded {write : Write} (h : table.Runs write rounds result) :
    table.Guarded write rounds := by
  have hitem := h.newItem_eq
  obtain ⟨rfl, -, -, hrun⟩ := h
  rcases Write.course_of_yields hrun with ⟨e, -, rfl, -⟩ | ⟨plan, hplan, hcourse⟩
  · exact ⟨by simp, by simp⟩
  · refine ⟨?_, ?_⟩
    · intro before round after request hrounds hrequest
      have horigin : ∃ groups plan', request = write.request plan' ∧
          write.plan groups = .ok plan' ∧
          ((before = [] ∧ groups = [(write.mode, write.leaves)]) ∨
            ∃ first stored item,
              before = first ++ [⟨write.readRequest, .ok (some stored)⟩] ∧
                StoreValue.membersOfItem stored = .ok item ∧
                groups = write.recoveryGroups item) := by
        rcases hcourse.update_at hrounds hrequest with ⟨hbefore, rfl⟩ |
          ⟨fault, stored, item, plan', hbefore, -, -, hstored, hplan', rfl⟩
        · exact ⟨_, plan, rfl, hplan, .inl ⟨hbefore, rfl⟩⟩
        · exact ⟨_, plan', rfl, hplan', .inr ⟨[_], stored, item, hbefore, hstored, rfl⟩⟩
      obtain ⟨groups, plan', rfl, hplan', horigin⟩ := horigin
      refine ⟨groups, plan', horigin, hplan', rfl, rfl, ?_, ?_⟩
      · rw [write.request_terms, Write.guardTexts, Condition.guardTexts, List.map_append]
        rfl
      · intro path hpath name hname
        have hseen : name ∈ (write.names plan').seen := by
          rw [write.mem_names]
          rcases List.mem_append.1 hpath with hpath | hpath
          · exact .inr (List.mem_flatMap.2 ⟨path, hpath, hname⟩)
          · exact .inl (List.mem_flatMap.2 ⟨path, hpath, hname⟩)
        rw [write.request_terms, Record.get?_append, Names.get?_table hseen, Option.some_or]
    · intro before round after put hrounds hput
      obtain ⟨⟨stored, hprepare, rfl⟩, hafter, hbefore⟩ := hcourse.put_at hrounds hput
      obtain ⟨hvalid, -, hstored⟩ := Table.prepare_eq_ok.1 hprepare
      rw [hitem] at hvalid hstored
      rcases hbefore with ⟨hcreate, -⟩ | ⟨hcreate, hmode, hread⟩
      · cases hcreate
      · refine ⟨hafter, hread, hcreate, hmode, hstored, hvalid, ?_, ?_⟩
        · rw [putRequest_terms]
          rfl
        · intro name hname
          rw [putRequest_terms]
          refine Names.get?_table (Names.mem_seePaths.2 (.inr ?_))
          rwa [names_onPaths_keyPaths]

/-- Whatever the store answers, a change makes no call, or its calls ask that the item exists before
they change it, and create it only as a whole after it was found missing. -/
theorem Change.rounds_guarded {σ : Type} (store : Store σ) (state : σ) (table : Table)
    (change : Change) : (change.program table).rounds store state = [] ∨
      ∃ key, change.key table = .ok key ∧
        table.Guarded (change.write table key) ((change.program table).rounds store state) := by
  rcases Change.yields_run ((change.program table).yields_rounds store state) with
    hnone | ⟨key, outcome, hkey, hruns, -⟩
  · exact .inl hnone
  · exact .inr ⟨key, hkey, hruns.guarded⟩

end Table

end ItemTable
