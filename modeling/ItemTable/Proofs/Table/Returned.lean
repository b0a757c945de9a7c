import ItemTable.Proofs.Schema.Readable
import ItemTable.Proofs.Table.Changes
import ItemTable.Proofs.Write.Commit

set_option autoImplicit false

/-! # What a change gives back

A caller who wants the values that a change touches gets one for each path that was asked for. The
request that succeeded may be another one: below a map that was missing it sets the map whole, and
for an item that was missing it puts a whole one. Neither is seen in the values
(`Table.Change.returned_by_path`): the answer that ends the write decides them
(`Write.Course.givesBack`), and the paths they are looked up at are the caller's. After an item was
put, each value is the stored form of its own leaf, read back. -/

namespace ItemTable

namespace Json

/-- The values that paths lead to, in their order; `null` for a path that leads to none. -/
def valuesAt (document : Json) (paths : List Path) : List Json :=
  paths.map fun path => (document.walk? path).getD .null

/-- Values as they are handed back: one alone is bare, any other number of them is an array. -/
def handedBack : List Json → Json
  | [value] => value
  | values => .array values

end Json

namespace ReturnShape

/-- The touched values are wanted, before the write or after it. -/
def WantsTouched (shape : ReturnShape) : Prop :=
  shape = .updatedOld ∨ shape = .updatedNew ∨ shape = .deleted

theorem touched_eq (item : Json) (paths : List Path) :
    touched item paths = .handedBack (item.valuesAt paths) := by
  rcases paths with _ | ⟨path, _ | ⟨path', paths⟩⟩ <;> rfl

theorem WantsTouched.decode_eq {shape : ReturnShape} (h : shape.WantsTouched)
    (attributes : Option Item) (paths : List Path) :
    shape.decode attributes paths =
      (StoreValue.membersOfItem (attributes.getD [])).map fun members =>
        some (.handedBack ((Json.object members).valuesAt paths)) := by
  simp only [← touched_eq]
  rcases h with rfl | rfl | rfl <;> rfl

end ReturnShape

/-! ## Success takes a call -/

namespace Program

variable {α β : Type}

/-- A program succeeds only after a call. -/
def SucceedsByCall (p : Program α) : Prop :=
  ∀ rounds value, p.Yields rounds (.ok value) → rounds ≠ []

theorem succeedsByCall_fail (e : Error) : (fail e : Program α).SucceedsByCall := by
  intro rounds value h
  cases (yields_fail.1 h).2

theorem succeedsByCall_ofExcept_bind {r : Except Error α} {f : α → Program β}
    (h : ∀ a, (f a).SucceedsByCall) : (ofExcept r >>= f).SucceedsByCall := by
  intro rounds value hyields
  rcases yields_ofExcept_bind.1 hyields with ⟨e, -, -, herror⟩ | ⟨a, -, hafter⟩
  · cases herror
  · exact h a rounds value hafter

end Program

theorem Write.succeedsByCall_run (write : Write) : write.run.SucceedsByCall := by
  rintro rounds value h rfl
  rcases course_of_yields h with ⟨e, -, -, herror⟩ | ⟨plan, -, hcourse⟩
  · cases herror
  · rcases hcourse.commits with ⟨-, e, herror⟩ | ⟨before, last, hrounds, -, -⟩
    · cases herror
    · simp at hrounds

/-! ## Items that are put -/

namespace Table

open Program (succeedsByCall_fail succeedsByCall_ofExcept_bind)
open StoreValue (IsReadable)

variable {table : Table} {item : Record Json} {stored : Item}

/-- Rules that a table can have. -/
def HasRules (table : Table) : Prop :=
  (∃ schema, table.rules = .ofSchema schema) ∨ ∃ primaryKey, table.rules = .free primaryKey

/-- An item has a document as it is stored, and there stands at a path of names what the rules make
of the value at that path. -/
theorem HasRules.stored_walk? (hrules : table.HasRules)
    (h : table.rules.storeItem item = .ok stored) :
    ∃ members, StoreValue.membersOfItem stored = .ok members ∧
      ∀ path value, (∀ step ∈ path, step.isKey = true) →
        (Json.object item).walk? path = some value →
          ∃ part entry, table.rules.storeValue path value = .ok part ∧
            part.toJson = .ok entry ∧ (Json.object members).walk? path = some entry := by
  -- the item is stored by its parts, as an object at the root would be
  have hwhole : StoresByParts table.rules.storeValue ∧
      table.rules.storeValue [] (.object item) = .ok (.map stored) ∧
      (StoreValue.map stored).IsReadable := by
    rcases hrules with ⟨schema, hrules⟩ | ⟨primaryKey, hrules⟩
    · rw [hrules] at h ⊢
      have hobject := Schema.storeItem_eq_ok_iff.1 h
      exact ⟨schema.storesByParts_storeValue, hobject, Schema.isReadable_of_storeValue hobject⟩
    · rw [hrules] at h ⊢
      cases h
      exact ⟨Rules.storesByParts_free primaryKey, rfl, StoreValue.isReadable_ofJson (.object item)⟩
  obtain ⟨hparts, hobject, json, hjson⟩ := hwhole
  obtain ⟨members, hmembers, rfl⟩ := Traversal.map_eq_ok hjson
  refine ⟨members, hmembers, fun path value hkeys hwalk => ?_⟩
  obtain ⟨part, hpart, hstored⟩ := hparts.walk? hkeys hobject hwalk
  obtain ⟨entry, hentry, hread⟩ := StoreValue.toJson_walk? hjson hpart
  exact ⟨part, entry, hstored, hread, hentry⟩

/-- A leaf of the data is found at its path in the item that is created. -/
theorem Runs.walk?_newItem {write : Write} {rounds : List Round}
    {result : Except Error (Option Json)} (h : table.Runs write rounds result)
    (hdata : (Json.object write.data).isProper = true) {path : Path} {value : Json}
    (hleaf : (path, value) ∈ Tree.flatten write.data) :
    (Json.object write.newItem).walk? path = some value := by
  have hwalk := Tree.walk?_of_mem_flatten hdata hleaf
  obtain ⟨name, -, rest, rfl⟩ := Tree.name_of_mem_flatten hleaf
  obtain ⟨part, hpart, hrest⟩ := Option.bind_eq_some_iff.1 hwalk
  have hmember : (write.key.members ++ write.data).get? name = some part := by
    refine Record.get?_append_of_disjoint (fun other hother hkey => ?_) hpart
    -- the data give no key attribute
    obtain ⟨input, hinput⟩ := h.key
    have hname := Key.names_members hkey
    rw [names_of_key hinput] at hname
    have hfree := h.data other hname
    rw [Record.contains_eq_true_iff.2 hother] at hfree
    cases hfree
  rw [h.newItem_eq, Json.walk?]
  exact Option.bind_eq_some_iff.2 ⟨part, hmember, hrest⟩

/-! ## What the caller gets -/

theorem succeedsByCall_update (table : Table) (input : KeyInput) (mode : UpdateMode)
    (data : Record Json) (append : Bool) (guards : Guards) (options : UpdateOptions) :
    (table.update input mode data append guards options).SucceedsByCall := by
  refine succeedsByCall_ofExcept_bind fun key => succeedsByCall_ofExcept_bind fun _ => ?_
  dsimp only
  split
  · exact succeedsByCall_fail _
  · exact Write.succeedsByCall_run _

theorem succeedsByCall_removeAttributes (table : Table) (input : KeyInput) (paths : List Path)
    (options : RemoveOptions) : (table.removeAttributes input paths options).SucceedsByCall := by
  refine succeedsByCall_ofExcept_bind fun key => ?_
  split
  · exact succeedsByCall_fail _
  · exact succeedsByCall_ofExcept_bind fun _ => Write.succeedsByCall_run _

namespace Change

variable {change : Change}

/-- What the caller wants back. -/
def returns : Change → ReturnShape
  | updateAttributes _ _ options => options.returns
  | addAttributes _ _ options => options.returns
  | appendToLists _ _ options => options.returns
  | addToSets _ _ options => options.returns
  | removeFromSets _ _ options => options.returns
  | removeAttributes _ _ options => options.returns
  | removeEntry .. => .allOld

/-- The data that a change writes; removals write none. -/
def data : Change → Record Json
  | updateAttributes _ data _ => data
  | addAttributes _ data _ => data
  | appendToLists _ data _ => data
  | addToSets _ data _ => data
  | removeFromSets _ data _ => data
  | removeAttributes .. => []
  | removeEntry .. => []

/-- The paths that the caller asks to change: those of the data's leaves, or those to remove. -/
def paths : Change → List Path
  | removeAttributes _ paths _ => paths
  | removeEntry _ list position _ => [list ++ [.position position]]
  | change => (Tree.flatten change.data).map (·.1)

/-- What a change gives back, if it gives anything. -/
def given? : (change : Change) → change.Result → Option Json
  | updateAttributes .., given => given
  | addAttributes .., given => given
  | appendToLists .., given => given
  | addToSets .., given => given
  | removeFromSets .., given => given
  | removeAttributes .., given => given
  | removeEntry .., entry => some entry

/-- The write of a change asks for the caller's paths, data and values. -/
theorem write_asks (change : Change) (table : Table) (key : Key) :
    (change.write table key).returns = change.returns ∧
      (change.write table key).data = change.data ∧
      (change.write table key).paths = change.paths := by
  cases change <;> simp [write, updateWrite, removalWrite, Write.paths, returns, data, paths,
    Leaf.ofTree, Function.comp_def]

/-- Only an update creates an item, and its paths are those of its data. -/
theorem paths_of_creates {key : Key}
    (h : (change.write table key).guards.createIfMissing = true) :
    change.paths = (Tree.flatten change.data).map (·.1) := by
  cases change with
  | removeAttributes => cases h
  | removeEntry => cases h
  | _ => rfl

/-- A change that wants touched values gives back what its write does. -/
theorem map_given?_finish (h : change.returns.WantsTouched)
    (outcome : Except Error (Option Json)) :
    (outcome.bind (change.finish table)).map change.given? = outcome := by
  cases change with
  | removeEntry => rcases h with h | h | h <;> cases h
  | _ => cases outcome <;> rfl

/-- What a change that wants touched values gives back, by its rounds. -/
structure Returned (table : Table) (change : Change) (rounds : List Round)
    (given : Except Error (Option Json)) : Prop where
  /-- Success comes of a last update or a last put that was accepted. -/
  ok : ∀ value, given = .ok value →
    ∃ before, (∃ request reply, rounds = before ++ [⟨.update request, .ok reply⟩]) ∨
      ∃ put, rounds = before ++ [⟨.put put, .ok ()⟩]
  /-- After an update, the first or the one that was made again, the values are those at the
  caller's paths in the document of the reply; a reply without a document is an error. -/
  update : ∀ before request reply, rounds = before ++ [⟨.update request, .ok reply⟩] →
    given = ((StoreValue.membersOfItem (reply.getD [])).mapError Error.conversion).map
      fun members => some (.handedBack ((Json.object members).valuesAt change.paths))
  /-- After an item was put, the new values are the leaves of the data, each as the rules store it
  at its path; old values of an item that was not there are not given. -/
  put : ∀ before put, rounds = before ++ [⟨.put put, .ok ()⟩] → table.HasRules →
    (Json.object change.data).isProper = true →
      (change.returns = .updatedNew → ∃ entries, given = .ok (some (.handedBack entries)) ∧
        List.Forall₂ (fun leaf entry => ∃ stored,
          table.rules.storeValue leaf.1 leaf.2 = .ok stored ∧ stored.toJson = .ok entry)
          (Tree.flatten change.data) entries) ∧
      (change.returns ≠ .updatedNew → given = .ok none)

/-- The new values of an item that was put. -/
theorem members_of_put {key : Key} {rounds : List Round} {result : Except Error (Option Json)}
    (hruns : table.Runs (change.write table key) rounds result) (hrules : table.HasRules)
    (hstored : table.rules.storeItem (change.write table key).newItem = .ok stored)
    (hdata : (Json.object change.data).isProper = true) :
    ∃ members, StoreValue.membersOfItem stored = .ok members ∧
      List.Forall₂ (fun leaf entry => ∃ part,
        table.rules.storeValue leaf.1 leaf.2 = .ok part ∧ part.toJson = .ok entry)
        (Tree.flatten change.data)
        ((Json.object members).valuesAt ((Tree.flatten change.data).map (·.1))) := by
  obtain ⟨members, hmembers, hwalk⟩ := hrules.stored_walk? hstored
  refine ⟨members, hmembers, ?_⟩
  rw [Json.valuesAt, List.map_map, List.forall₂_map_right_iff, List.forall₂_same]
  rintro ⟨path, value⟩ hleaf
  obtain ⟨-, hwrite, -⟩ := change.write_asks table key
  have hfound := hruns.walk?_newItem (by rwa [hwrite]) (hwrite ▸ hleaf)
  obtain ⟨part, entry, hpart, hentry, hplace⟩ :=
    hwalk path value (Tree.keys_of_mem_flatten hleaf).1 hfound
  exact ⟨part, hpart, by simp [hplace, hentry]⟩

/-- A change that wants touched values does not succeed without a call. -/
theorem succeedsByCall (hreturns : change.returns.WantsTouched) :
    (change.program table).SucceedsByCall := by
  cases change with
  | removeEntry => rcases hreturns with h | h | h <;> cases h
  | removeAttributes => exact succeedsByCall_removeAttributes _ _ _ _
  | _ => exact succeedsByCall_update _ _ _ _ _ _ _

/-- What the course of a change's write gives back. -/
theorem Returned.of_course {key : Key} {plan : UpdatePlan} {rounds : List Round}
    {given : Except Error (Option Json)} (hreturns : change.returns.WantsTouched)
    (hruns : table.Runs (change.write table key) rounds given)
    (hcourse : (change.write table key).Course (.attempt plan) rounds given) :
    change.Returned table rounds given := by
  obtain ⟨hshape, -, hpaths⟩ := change.write_asks table key
  refine ⟨fun value hvalue => ?_, fun before request reply hrounds => ?_,
    fun before put hrounds hrules hdata => ?_⟩
  · rcases hcourse.commits with ⟨-, e, herror⟩ | ⟨before, last, hrounds, -, hlast⟩
    · cases herror.symm.trans hvalue
    · refine ⟨before, ?_⟩
      cases hlast with
      | updated request reply => exact .inl ⟨request, reply, hrounds⟩
      | created put => exact .inr ⟨put, hrounds⟩
  · have hlast := hcourse.givesBack hrounds rfl
    cases hlast
    rw [Write.returned, hshape, hpaths, hreturns.decode_eq]
    cases StoreValue.membersOfItem (reply.getD []) <;> rfl
  · obtain ⟨⟨stored, hprepare, rfl⟩, -, hcreate⟩ := hcourse.put_at hrounds rfl
    have hstored := (prepare_eq_ok.1 hprepare).2.2
    have hresult : given = (change.write table key).created stored := by
      have hlast := hcourse.givesBack hrounds rfl
      cases hlast
      rfl
    rw [Write.created, hshape] at hresult
    constructor
    · intro hnew
      have hcreates : (change.write table key).guards.createIfMissing = true := by
        rcases hcreate with ⟨hstage, -⟩ | ⟨hcreates, -⟩
        · cases hstage
        · exact hcreates
      rw [hruns.ofTable] at hstored
      obtain ⟨members, hmembers, hentries⟩ := members_of_put hruns hrules hstored hdata
      refine ⟨_, ?_, hentries⟩
      rw [hresult, hnew, ReturnShape.wantsNew, if_pos rfl, Write.returned, hshape, hpaths,
        hreturns.decode_eq, paths_of_creates hcreates]
      change ((StoreValue.membersOfItem stored).map _).mapError _ = _
      rw [hmembers]
      rfl
    · intro hold
      rw [hresult]
      rcases hreturns with h | h | h
      · rw [h]
        rfl
      · exact absurd h hold
      · rw [h]
        rfl

/-- Whatever the store answers, the touched values that a change gives back are as many as the paths
that the caller asked for, and in their order: what the last reply has at each path, or what a new
item has there. -/
theorem returned_by_path {σ : Type} (store : Store σ) (state : σ) (table : Table) (change : Change)
    (hreturns : change.returns.WantsTouched) :
    change.Returned table ((change.program table).rounds store state)
      (((change.program table).run store state).1.map change.given?) := by
  have hyields := (change.program table).yields_rounds store state
  rcases yields_run hyields with hnil | ⟨key, outcome, hkey, hruns, hresult⟩
  · refine ⟨fun value hvalue => ?_, by simp [hnil], by simp [hnil]⟩
    obtain ⟨made, hmade, -⟩ := Traversal.map_eq_ok hvalue
    rw [hmade] at hyields
    exact absurd hnil (succeedsByCall hreturns _ _ hyields)
  · rw [hresult, map_given?_finish hreturns]
    rcases Write.course_of_yields hruns.run with ⟨e, -, hnil, rfl⟩ | ⟨plan, -, hcourse⟩
    · exact ⟨nofun, by simp [hnil], by simp [hnil]⟩
    · exact .of_course hreturns hruns hcourse

/-- A table over the schema of albums. -/
def albumTable : Table := ⟨"T", "P-T", .simple "id", .ofSchema Schema.albumSchema⟩

/-- Two sets below one map and a set beside it. -/
def tagging : Change :=
  .updateAttributes (.scalar (.string "a"))
    [("more", .object [("a", .array [.ofInt 2, .ofInt 1]), ("b", .array [.ofInt 3])]),
      ("tags", .strings ["x"])]
    ⟨true, true, false, none, .updatedNew⟩

/-- A store whose item lacks the map, so that it is set whole. -/
def unmapped : Script :=
  ⟨[.failed (.validation StoreError.invalidDocumentPath), .item (some [("id", .string "a")]),
    .item (some [("more", .map [("a", .numberSet ["2", "1"]), ("b", .numberSet ["3"])]),
      ("tags", .stringSet ["x"])])], []⟩

/-- The second update has two paths, the caller gets three values; and so it does when the item is
created. -/
theorem returned_by_path_tagging :
    tagging.returns.WantsTouched ∧
      (∃ before request reply, (tagging.program albumTable).rounds scripted unmapped
          = before ++ [⟨.update request, .ok reply⟩] ∧ before.length = 2) ∧
      tagging.Returned albumTable ((tagging.program albumTable).rounds scripted unmapped)
        (((tagging.program albumTable).run scripted unmapped).1.map tagging.given?) ∧
      (albumTable.HasRules ∧ (Json.object tagging.data).isProper = true ∧
        ∃ before put, (tagging.program albumTable).rounds scripted Write.creation
          = before ++ [⟨.put put, .ok ()⟩]) ∧
      tagging.Returned albumTable ((tagging.program albumTable).rounds scripted Write.creation)
        (((tagging.program albumTable).run scripted Write.creation).1.map tagging.given?) := by
  have hreturns : tagging.returns.WantsTouched := .inr (.inl rfl)
  have hmerged : ∃ before request reply, (tagging.program albumTable).rounds scripted unmapped
      = before ++ [⟨.update request, .ok reply⟩] ∧ before.length = 2 := ⟨[_, _], _, _, rfl, rfl⟩
  have hcreated : ∃ before put, (tagging.program albumTable).rounds scripted Write.creation
      = before ++ [⟨.put put, .ok ()⟩] := ⟨[_, _], _, rfl⟩
  exact ⟨hreturns, hmerged, returned_by_path scripted unmapped albumTable tagging hreturns,
    ⟨.inl ⟨_, rfl⟩, by decide, hcreated⟩,
    returned_by_path scripted Write.creation albumTable tagging hreturns⟩

/-- What the caller gets of the map that was set whole is the value at each path in it. -/
example : ((tagging.program albumTable).run scripted unmapped).1.map tagging.given? =
    .ok (some (.array [.array [.ofInt 2, .ofInt 1], .array [.ofInt 3], .strings ["x"]])) := by rfl

end Change

end Table

end ItemTable
