import ItemTable.Proofs.Schema.Verbatim
import ItemTable.Proofs.Table.Changes
import ItemTable.Proofs.Write.Commit

set_option autoImplicit false

/-! # The key under which an item is stored

An item is stored as its table's schema says, and the operations that name it by a key send the key
as it is, whatever the schema says (`Table.NamedAsIs`). So they find the item exactly if the schema
stores the values of its key attributes as they are (`Table.put_storedKey`). -/

namespace ItemTable

/-! ## Keys that are made of items -/

namespace Table

variable {table : Table} {item : Record Json} {key : Key}

theorem get?_keyMembers {name : String} (h : name ∈ table.shape.names) :
    (table.keyMembers item).get? name = item.get? name := by
  rw [keyMembers, Record.get?_ofEntries_of_names, if_pos h]

/-- The key that an item's key attributes make has their values. If a shape names one attribute
twice, there is no second value. -/
theorem parts_of_keyMembers (h : table.key (.mapping (table.keyMembers item)) = .ok key) :
    (∀ name ∈ table.shape.names, ∃ value, item.get? name = some value ∧ value ≠ .null) ∧
      (table.shape.names.Nodup → key.parts = table.shape.names.map (KeyShape.partOf item)) ∧
      (¬ table.shape.names.Nodup →
        ∃ name ∈ table.shape.names, key.item = [(name, .null true)]) := by
  obtain ⟨hmissing, -, rfl⟩ := KeyShape.normalize_mapping_eq_ok_iff.1 (normalize_of_keyOf h)
  have hvalues : ∀ name ∈ table.shape.names, ∃ value, item.get? name = some value ∧
      value ≠ .null := by
    intro name hname
    have hnull := List.filter_eq_nil_iff.1 hmissing name hname
    rw [get?_keyMembers hname] at hnull
    cases hget : item.get? name with
    | none => simp [hget, Json.isNull] at hnull
    | some value =>
      refine ⟨value, rfl, ?_⟩
      rintro rfl
      simp [hget, Json.isNull] at hnull
  refine ⟨hvalues, ?_, ?_⟩
  · intro hnodup
    cases hshape : table.shape with
    | simple hash =>
      have hhash : hash ∈ table.shape.names := by simp [hshape, KeyShape.names]
      simp [KeyShape.keyOfMapping, KeyShape.hash, KeyShape.sort?, KeyShape.names, Key.parts,
        KeyShape.partOf, get?_keyMembers hhash]
    | composite hash sort =>
      have hne : hash ≠ sort := by simpa [hshape, KeyShape.names] using hnodup
      obtain ⟨first, hfirst, -⟩ := hvalues hash (by simp [hshape, KeyShape.names])
      obtain ⟨second, hsecond, -⟩ := hvalues sort (by simp [hshape, KeyShape.names])
      have hmembers : table.keyMembers item = [(hash, first), (sort, second)] := by
        simp [keyMembers, hshape, KeyShape.names, hfirst, hsecond, Record.ofEntries, Record.merge,
          Record.insert, hne]
      simp [hmembers, KeyShape.keyOfMapping, KeyShape.hash, KeyShape.sort?, KeyShape.names,
        Key.parts, KeyShape.partOf, Record.get?, Record.erase, hfirst, hsecond]
  · intro hrepeats
    cases hshape : table.shape with
    | simple hash => simp [hshape, KeyShape.names] at hrepeats
    | composite hash sort =>
      obtain rfl : hash = sort := by simpa [hshape, KeyShape.names] using hrepeats
      obtain ⟨first, hfirst, -⟩ := hvalues hash (by simp [hshape, KeyShape.names])
      have hmembers : table.keyMembers item = [(hash, first)] := by
        simp [keyMembers, hshape, KeyShape.names, hfirst, Record.ofEntries, Record.merge,
          Record.insert]
      refine ⟨hash, by simp [KeyShape.names], ?_⟩
      simp [hmembers, KeyShape.keyOfMapping, KeyShape.hash, KeyShape.sort?, Key.item, Key.parts,
        KeyShape.partOf, Record.get?, Record.erase, Record.ofEntries, Record.merge, Record.insert,
        StoreValue.ofJson]

/-! ## Operations on the item of a key -/

/-- Of keys with distinct tuples none is left out. -/
theorem uniqueKeys_of_nodup {keys : List Key} (h : (keys.map Key.tuple).Nodup) :
    uniqueKeys keys = keys := by
  have hfold : ∀ acc : List Key, ((acc ++ keys).map Key.tuple).Nodup →
      keys.foldl (fun acc key => if acc.any (·.tuple == key.tuple) then acc else acc ++ [key]) acc
        = acc ++ keys := by
    clear h
    induction keys with
    | nil =>
      intro acc _
      exact (List.append_nil acc).symm
    | cons first rest ih =>
      intro acc hnodup
      have hnew : ¬ acc.any (·.tuple == first.tuple) = true := by
        intro hany
        obtain ⟨other, hother, htuple⟩ := List.any_eq_true.1 hany
        rw [List.map_append, List.nodup_append] at hnodup
        exact hnodup.2.2 _ (List.mem_map_of_mem hother) _ (List.mem_map_of_mem (.head _))
          (by simpa using htuple)
      rw [List.foldl_cons, if_neg hnew, ih (acc ++ [first]) (by simpa using hnodup),
        List.append_assoc, List.singleton_append]
  exact hfold [] h

/-- The operations on the item of a key name it by the key as it is. -/
structure NamedAsIs (table : Table) (key : Key) : Prop where
  get : ∀ input, table.key input = .ok key → ∀ rounds result,
    (table.get input).Yields rounds result →
      ∃ answer, rounds = [⟨.get table.physicalName key.item, answer⟩]
  delete : ∀ input requireExists, table.key input = .ok key → ∀ rounds result,
    (table.delete input requireExists).Yields rounds result →
      ∃ answer, rounds = [⟨.delete table.physicalName key.item, answer⟩]
  take : ∀ input, table.key input = .ok key → ∀ rounds result,
    (table.take input).Yields rounds result →
      ∃ answer, rounds = [⟨.delete table.physicalName key.item, answer⟩]
  /-- A batch asks for all of its keys, if no two have one tuple. -/
  batch : ∀ inputs keys, inputs.mapM table.key = .ok keys → key ∈ keys →
    (keys.map Key.tuple).Nodup → ∀ rounds result, (table.getMany inputs).Yields rounds result →
      ∃ answer, rounds = [⟨.batchGet table.physicalName (keys.map Key.item), answer⟩]
  /-- Updates and removals name the item so in all calls but the one that creates it. -/
  change : ∀ change : Change, change.key table = .ok key → ∀ rounds result,
    (change.program table).Yields rounds result → ∀ round ∈ rounds,
      (∃ put, round.request = .put put) ∨
        round.request.place? table.shape = some (table.physicalName, key.item)

/-- A request that is followed by no other makes one round. -/
theorem rounds_of_ask {α : Type} {request : Request} {f : request.Answer → Program α}
    {rounds : List Round} {result : Except Error α}
    (hlast : ∀ found rest, (f found).Yields rest result → rest = [])
    (h : (Program.ask request >>= f).Yields rounds result) :
    ∃ answer, rounds = [⟨request, answer⟩] := by
  rcases Program.yields_ask_bind.1 h with ⟨fault, hrounds, -⟩ | ⟨found, rest, hrounds, hrest⟩
  · exact ⟨_, hrounds⟩
  · rw [hlast found rest hrest] at hrounds
    exact ⟨_, hrounds⟩

theorem namedAsIs (table : Table) (key : Key) : table.NamedAsIs key where
  get := by
    intro input hkey rounds result h
    unfold Table.get at h
    rw [hkey] at h
    refine rounds_of_ask ?_ h
    intro found rest hrest
    cases found with
    | some stored => exact (Program.yields_convert.1 hrest).1
    | none => exact (Program.yields_fail.1 hrest).1
  delete := by
    intro input requireExists hkey rounds result h
    unfold Table.delete at h
    rw [hkey] at h
    refine rounds_of_ask ?_ h
    intro old rest hrest
    split at hrest
    · exact (Program.yields_fail.1 hrest).1
    · exact (Program.yields_pure.1 hrest).1
  take := by
    intro input hkey rounds result h
    unfold Table.take at h
    rw [hkey] at h
    refine rounds_of_ask ?_ h
    intro old rest hrest
    cases old with
    | some stored => exact (Program.yields_convert.1 hrest).1
    | none => exact (Program.yields_fail.1 hrest).1
  batch := by
    intro inputs keys hkeys hmem hnodup rounds result h
    have hempty : keys.isEmpty = false := by
      cases keys with
      | nil => cases hmem
      | cons _ _ => rfl
    unfold getMany getManyKeyed at h
    rw [hkeys, Program.bind_assoc] at h
    change Program.Yields ((if keys.isEmpty = true then _ else _) >>= _) _ _ at h
    rw [if_neg (by simp [hempty]), Program.bind_assoc, uniqueKeys_of_nodup hnodup] at h
    refine rounds_of_ask ?_ h
    intro items rest hrest
    rw [Program.bind_assoc] at hrest
    exact Program.rounds_eq_nil_of_convert hrest
  change := by
    intro change hkey rounds result h round hround
    rcases Change.yields_run h with rfl | ⟨key', outcome, hkey', hruns, -⟩
    · cases hround
    · obtain rfl : key = key' := Except.ok.inj (hkey.symm.trans hkey')
      obtain ⟨htable, -, -, hrun⟩ := hruns
      rcases Write.course_of_yields hrun with ⟨e, -, rfl, -⟩ | ⟨plan, -, hcourse⟩
      · cases hround
      · have hwritten : (change.write table key).key = key := by cases change <;> rfl
        have hplace := hcourse.place round hround
        rwa [htable, hwritten] at hplace

/-! ## The stored key -/

/-- An item has the key that its own key attributes make exactly if their names differ and the
schema stores their values as they are. -/
theorem project_eq_item_iff_verbatim {schema : Schema} {stored : Item}
    (hkey : table.key (.mapping (table.keyMembers item)) = .ok key)
    (hstored : schema.storeItem item = .ok stored) :
    table.shape.project stored = key.item ↔ table.shape.names.Nodup ∧
      ∀ name ∈ table.shape.names, ∀ value, item.get? name = some value →
        schema.Verbatim [.key name] value := by
  have hpart : ∀ name value, item.get? name = some value → ∃ part,
      stored.get? name = some part ∧ schema.storeValue [.key name] value = .ok part := by
    intro name value hvalue
    obtain ⟨entries, heq, hentries⟩ :=
      schema.storesByParts_storeValue [] item _ (Schema.storeItem_eq_ok_iff.1 hstored)
    cases heq
    exact hentries name value hvalue
  obtain ⟨hvalues, hparts, hrepeats⟩ := parts_of_keyMembers hkey
  rw [KeyShape.project_eq_item_iff (names_of_key hkey)]
  by_cases hnodup : table.shape.names.Nodup
  · have hitem : key.item = table.shape.names.map fun name =>
        (name, .ofJson ((item.get? name).getD .null)) := by
      have hentries : (key.parts.map fun p => (p.name, StoreValue.ofJson p.value)) =
          table.shape.names.map fun name => (name, .ofJson ((item.get? name).getD .null)) := by
        rw [hparts hnodup, List.map_map]
        rfl
      have hnames : Record.names (table.shape.names.map fun name =>
          (name, StoreValue.ofJson ((item.get? name).getD .null))) = table.shape.names := by
        rw [Record.names, List.map_map]
        exact List.map_id _
      rw [Key.item, hentries, Record.ofEntries, Record.merge_eq_append]
      · rfl
      · rwa [hnames]
      · intro name _ hmem
        cases hmem
    rw [hitem, List.forall_mem_map]
    constructor
    · intro h
      refine ⟨hnodup, ?_⟩
      intro name hname value hvalue
      obtain ⟨part, hget, hstore⟩ := hpart name value hvalue
      have hsame := h name hname
      rw [hvalue, Option.getD_some, hget] at hsame
      rw [← Schema.storeValue_eq_ofJson_iff, hstore, Option.some.inj hsame]
    · rintro ⟨-, h⟩ name hname
      obtain ⟨value, hvalue, -⟩ := hvalues name hname
      obtain ⟨part, hget, hstore⟩ := hpart name value hvalue
      have hsame := Schema.storeValue_eq_ofJson_iff.2 (h name hname value hvalue)
      rw [hstore] at hsame
      rw [hvalue, Option.getD_some, hget, Except.ok.inj hsame]
  · -- the second part of such a key is nothing, and no key attribute is
    constructor
    · intro h
      obtain ⟨name, hname, hitem⟩ := hrepeats hnodup
      obtain ⟨value, hvalue, hne⟩ := hvalues name hname
      obtain ⟨part, hget, hstore⟩ := hpart name value hvalue
      have hnull := h (name, .null true) (by simp [hitem])
      rw [hget] at hnull
      rw [Option.some.inj hnull] at hstore
      exact absurd (Schema.null_of_storeValue hstore) hne
    · intro h
      exact absurd h.1 hnodup

/-- An item that is put is stored as its schema says, and named by the key that its key attributes
make as they are. The two agree exactly if the key attributes' names differ and no part of their
values is a text where byte strings are declared or an array where a set is declared. -/
theorem put_storedKey {σ : Type} (store : Store σ) (state : σ) {table : Table} {schema : Schema}
    (hrules : table.rules = .ofSchema schema) (item : Record Json) (overwrite : Bool) :
    ((∃ e, table.prepare item = .error e ∧
        ((table.put item overwrite).run store state).1 = .error e) ∧
      (table.put item overwrite).rounds store state = []) ∨
    ∃ put answer key, (table.put item overwrite).rounds store state = [⟨.put put, answer⟩] ∧
      schema.storeItem item = .ok put.item ∧
      table.key (.mapping (table.keyMembers item)) = .ok key ∧ table.NamedAsIs key ∧
      (table.shape.project put.item = key.item ↔ table.shape.names.Nodup ∧
        ∀ name ∈ table.shape.names, ∀ value, item.get? name = some value →
          schema.Verbatim [.key name] value) := by
  rcases yields_put ((table.put item overwrite).yields_rounds store state) with
    ⟨e, hprepare, hrounds, hresult⟩ | ⟨stored, answer, hprepare, hrounds⟩
  · exact .inl ⟨⟨e, hprepare, hresult⟩, hrounds⟩
  · obtain ⟨-, ⟨key, hkey⟩, hstored⟩ := prepare_eq_ok.1 hprepare
    rw [hrules] at hstored
    exact .inr ⟨_, answer, key, hrounds, hstored, hkey, table.namedAsIs key,
      project_eq_item_iff_verbatim hkey hstored⟩

/-- A schema whose key attributes are a string and an integer; byte strings stand elsewhere. -/
def recordSchema : Schema :=
  let typed (name : String) : Json := .object [("type", .string name)]
  let document : Json := .object
    [("type", .string "object"),
      ("properties", .object
        [("artist", typed "string"), ("year", typed "integer"), ("cover", typed "bytes")]),
      ("default", .strings ["artist", "year"])]
  .lowered .pointers document

/-- The table of that schema. -/
def recordTable : Table := ⟨"T", "P-T", .composite "artist" "year", .ofSchema recordSchema⟩

theorem put_storedKey_record :
    let item : Record Json :=
      [("year", .ofInt 1969), ("cover", .string "aGk="), ("artist", .string "x")]
    let script : Script := ⟨[.accepted], []⟩
    recordTable.rules = .ofSchema recordSchema ∧ ∃ put answer key,
      (recordTable.put item false).rounds scripted script = [⟨.put put, answer⟩] ∧
        recordTable.key (.mapping (recordTable.keyMembers item)) = .ok key ∧
        recordTable.shape.project put.item = key.item := by
  intro item script
  have hrules : recordTable.rules = .ofSchema recordSchema := rfl
  refine ⟨hrules, ?_⟩
  rcases put_storedKey scripted script hrules item false with
    ⟨-, hnone⟩ | ⟨put, answer, key, hrounds, -, hkey, -, hsame⟩
  · have hsome : ((recordTable.put item false).rounds scripted script).isEmpty = false := by
      decide +kernel
    rw [hnone] at hsome
    cases hsome
  · refine ⟨put, answer, key, hrounds, hkey, hsame.2 ⟨by decide, ?_⟩⟩
    intro name hname value hvalue
    have hname : name = "artist" ∨ name = "year" := by
      simpa [recordTable, KeyShape.names] using hname
    rcases hname with rfl | rfl
    · obtain rfl : Json.string "x" = value := Option.some.inj hvalue
      unfold Schema.Verbatim
      decide +kernel
    · obtain rfl : Json.ofInt 1969 = value := Option.some.inj hvalue
      unfold Schema.Verbatim
      decide +kernel

/-- A text under a key attribute of the type `bytes` is stored as bytes, and named as the text. -/
theorem bytesTable_storedKey :
    let item : Record Json := [("id", .string "aGk=")]
    ∃ stored key, Write.bytesTable.prepare item = .ok stored ∧
      Write.bytesTable.key (.mapping (Write.bytesTable.keyMembers item)) = .ok key ∧
      Write.bytesTable.key (.scalar (.string "aGk=")) = .ok key ∧
      Write.bytesTable.shape.project stored ≠ key.item := by
  intro item
  have hok : (Write.bytesTable.prepare item).isOk = true := by decide +kernel
  cases hprepare : Write.bytesTable.prepare item with
  | error e =>
    rw [hprepare] at hok
    cases hok
  | ok stored =>
    obtain ⟨-, -, hstored⟩ := prepare_eq_ok.1 hprepare
    refine ⟨stored, ⟨⟨"id", .string "aGk="⟩, none⟩, rfl, rfl, rfl, ?_⟩
    intro hsame
    obtain ⟨-, hverbatim⟩ := (project_eq_item_iff_verbatim rfl hstored).1 hsame
    have hid := hverbatim "id" (.head _) (.string "aGk=") rfl
    exact (hid _ (.head _)).1 rfl (by decide +kernel)

end Table

end ItemTable
