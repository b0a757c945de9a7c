import ItemTable.Proofs.Table.Changes
import ItemTable.Proofs.Table.Removals
import ItemTable.Proofs.Tree.Cut
import ItemTable.Proofs.Update.ReadBack

set_option autoImplicit false

/-! # Key attributes stay as they are

What a caller wants to write is checked before it is taken apart into leaves, and the leaves may be
cut to shorter paths after the item was read. Through all of that no path comes to lead to a key
attribute, and a path that is written does not lead into one either (`Path.Avoids`). The key of the
requests is the caller's one, but for one case: an entry is removed under a key that is made a
mapping in between, and a mapping cannot name one attribute twice (`Table.Change.keeps_key`). -/

namespace ItemTable

/-! ## Paths that avoid attributes -/

/-- A clause of a mode leaves attributes as they are if its path does not lead to one of them and,
unless the clause takes away, not into one. -/
def Path.Avoids (path : Path) (mode : UpdateMode) (names : List String) : Prop :=
  ∀ name ∈ names, path ≠ [.key name] ∧ (mode ≠ .remove → ∀ rest, path ≠ .key name :: rest)

/-- A path that starts with another attribute avoids these. -/
theorem Path.avoids_of_not_mem {name : String} {names : List String} (h : name ∉ names)
    (rest : Path) (mode : UpdateMode) : Path.Avoids (.key name :: rest) mode names := by
  have hne : ∀ other ∈ names, ∀ below, (.key name :: rest : Path) ≠ .key other :: below := by
    rintro other hother below heq
    cases heq
    exact h hother
  exact fun other hother => ⟨hne other hother [], fun _ => hne other hother⟩

/-- The actions of a plan avoid what the leaves of its groups avoid. -/
theorem UpdatePlan.avoids_of_compile {store : Path → Json → Except ConversionError StoreValue}
    {groups : List (UpdateMode × List Leaf)} {plan : UpdatePlan} {names : List String}
    (h : compile store groups = .ok plan)
    (hgroups : ∀ group ∈ groups, ∀ leaf ∈ group.2, leaf.path.Avoids group.1 names) :
    ∀ clause ∈ plan.clauses, ∀ action ∈ clause.2, action.path.Avoids clause.1 names := by
  intro clause hclause action haction
  obtain ⟨group, hgroup, hmode, hactions⟩ :=
    Traversal.exists_of_mem_right (compiles_of_compile h) clause hclause
  obtain ⟨leaf, hleaf, hof⟩ := Traversal.exists_of_mem_right hactions action haction
  rw [(Action.of_ofLeaf hof).2, hmode]
  exact hgroups group (List.mem_filter.1 hgroup).1 leaf hleaf

namespace Write

variable {write : Write} {rounds : List Round} {names : List String}

/-- The leaves of a write start with other attributes than these. -/
def StartsElsewhere (write : Write) (names : List String) : Prop :=
  ∀ leaf ∈ write.leaves, ∃ name rest, leaf.path = .key name :: rest ∧ name ∉ names

/-- The leaves of a write avoid attributes, and still do when they are cut; a write that takes
attributes away is not. -/
structure Avoids (write : Write) (names : List String) : Prop where
  leaves : ∀ leaf ∈ write.leaves, leaf.path.Avoids write.mode names
  start : write.mode ≠ .remove → write.StartsElsewhere names

theorem StartsElsewhere.avoids (h : write.StartsElsewhere names) : write.Avoids names := by
  refine ⟨fun leaf hleaf => ?_, fun _ => h⟩
  obtain ⟨name, rest, hpath, hname⟩ := h leaf hleaf
  rw [hpath]
  exact Path.avoids_of_not_mem hname rest _

/-- A cut leaf starts with the attribute that the whole leaf starts with. -/
theorem avoids_recoveryGroups (h : write.StartsElsewhere names) (item : Record Json) :
    ∀ group ∈ write.recoveryGroups item, ∀ leaf ∈ group.2, leaf.path.Avoids group.1 names := by
  have hcut : ∀ leaf ∈ Leaf.cut (.object item) (.object write.data) write.leaves, ∀ mode,
      leaf.path.Avoids mode names := by
    intro new hnew mode
    obtain ⟨leaf, hleaf, rfl⟩ := Leaf.exists_of_mem_cut hnew
    obtain ⟨name, rest, hpath, hname⟩ := h leaf hleaf
    obtain ⟨below, hbelow⟩ := Leaf.cutPath_cons (.object item) (.key name) rest
    rw [Leaf.path_cutOne, hpath, hbelow]
    exact Path.avoids_of_not_mem hname below mode
  intro group hgroup leaf hleaf
  have hmem : leaf ∈ Leaf.cut (.object item) (.object write.data) write.leaves := by
    simp only [recoveryGroups, List.mem_cons, List.not_mem_nil, or_false] at hgroup
    rcases hgroup with rfl | rfl <;> exact (List.mem_filter.1 hleaf).1
  exact hcut leaf hmem group.1

/-- The updates of a write avoid what its leaves avoid, also those for an item that was read. -/
theorem avoids_of_yields {result : Except Error (Option Json)}
    (hrun : write.run.Yields rounds result) (havoids : write.Avoids names) :
    ∀ round ∈ rounds, ∀ request, round.request = .update request →
      ∃ plan, request = write.request plan ∧
        ∀ clause ∈ plan.clauses, ∀ action ∈ clause.2, action.path.Avoids clause.1 names := by
  intro round hmem request hrequest
  rcases course_of_yields hrun with ⟨_, -, rfl, -⟩ | ⟨plan, hplan, hcourse⟩
  · cases hmem
  · obtain ⟨before, after, hrounds⟩ := List.append_of_mem hmem
    rcases hcourse.update_at hrounds hrequest with ⟨-, rfl⟩ |
      ⟨_, _, item, plan', -, -, hmay, -, hplan', rfl⟩
    · refine ⟨plan, rfl, UpdatePlan.avoids_of_compile hplan ?_⟩
      simpa using havoids.leaves
    · have hmode : write.mode ≠ .remove := by
        intro hremove
        simp [mayRecover, hremove] at hmay
      exact ⟨plan', rfl,
        UpdatePlan.avoids_of_compile hplan' (avoids_recoveryGroups (havoids.start hmode) item)⟩

end Write

namespace Table

variable {table : Table} {rounds : List Round}

/-! ## The leaves of changes -/

/-- Data without key attributes have leaves that start elsewhere. -/
theorem startsElsewhere_updateWrite {key : Key} {mode : UpdateMode} {data : Record Json}
    {append : Bool} {guards : Guards} {options : UpdateOptions}
    (hdata : ∀ name ∈ table.shape.names, data.contains name = false) :
    (table.updateWrite key mode data append guards options).StartsElsewhere table.shape.names := by
  intro leaf hleaf
  obtain ⟨entry, hentry, rfl⟩ := List.mem_map.1 hleaf
  obtain ⟨name, hname, rest, hpath⟩ := Tree.name_of_mem_flatten hentry
  refine ⟨name, rest, hpath, fun hkey => ?_⟩
  have hnone := hdata name hkey
  rw [Record.contains_eq_true_iff.2 hname] at hnone
  cases hnone

/-- Paths that are taken away avoid key attributes unless they lead to one. -/
theorem avoids_remove {path : Path} {names : List String}
    (h : ∀ name ∈ names, path ≠ [.key name]) : path.Avoids .remove names :=
  fun name hname => ⟨h name hname, fun hmode => absurd rfl hmode⟩

namespace Change

/-- Where a change makes calls, its leaves avoid the key attributes. -/
theorem avoids_write {change : Change} {result : Except Error change.Result}
    (h : (change.program table).Yields rounds result) (hrounds : rounds ≠ []) {key : Key}
    {outcome : Except Error (Option Json)}
    (hruns : table.Runs (change.write table key) rounds outcome) :
    (change.write table key).Avoids table.shape.names := by
  cases change with
  | removeAttributes input paths options =>
    refine ⟨fun leaf hleaf => ?_, fun hmode => absurd rfl hmode⟩
    obtain ⟨path, hpath, rfl⟩ := List.mem_map.1 hleaf
    obtain ⟨haccepted, -⟩ := (yields_removeAttributes h).resolve_left hrounds
    refine avoids_remove fun name hname heq => ?_
    exact not_accepted_of_key hname (heq ▸ hpath) haccepted
  | removeEntry input list position condition =>
    refine ⟨fun leaf hleaf => ?_, fun hmode => absurd rfl hmode⟩
    obtain rfl := List.mem_singleton.1 hleaf
    -- the path ends in a position
    refine avoids_remove fun name _ heq => ?_
    simpa using congrArg List.getLast? heq
  | _ => exact (startsElsewhere_updateWrite hruns.data).avoids

/-! ## The key of changes -/

/-- The key that a caller of a change gives. -/
def input : Change → KeyInput
  | updateAttributes input _ _ => input
  | addAttributes input _ _ => input
  | appendToLists input _ _ => input
  | addToSets input _ _ => input
  | removeFromSets input _ _ => input
  | removeAttributes input _ _ => input
  | removeEntry input _ _ _ => input

/-- Whether a change takes an entry out of a list. -/
def isEntryRemoval : Change → Bool
  | removeEntry .. => true
  | _ => false

end Change

theorem Change.key_write (change : Change) (key : Key) : (change.write table key).key = key := by
  cases change <;> rfl

/-- Of a key that is given again as a mapping a repeated name keeps no value. -/
theorem key_members_ne {input : KeyInput} {key again : Key} (hnames : ¬ table.shape.names.Nodup)
    (hkey : table.key input = .ok key) (hagain : table.key (.mapping key.members) = .ok again) :
    again.item ≠ key.item := by
  obtain ⟨hmissing, -, rfl⟩ := KeyShape.normalize_mapping_eq_ok_iff.1 (normalize_of_keyOf hagain)
  have hparts := names_of_key hkey
  cases hshape : table.shape with
  | simple hash => simp [hshape, KeyShape.names] at hnames
  | composite hash sort =>
    obtain rfl : hash = sort := by simpa [hshape, KeyShape.names] using hnames
    obtain ⟨⟨name, first⟩, _ | ⟨name', value⟩⟩ := key
    · simp [hshape, Key.parts, KeyShape.names] at hparts
    · obtain ⟨rfl, rfl⟩ : hash = name ∧ hash = name' := by
        simpa [hshape, Key.parts, KeyShape.names, eq_comm] using hparts
      have hmembers : Key.members ⟨⟨hash, first⟩, some ⟨hash, value⟩⟩ = [(hash, value)] := by
        simp [Key.members, Key.parts, Record.ofEntries, Record.merge, Record.insert]
      rw [hmembers, hshape] at hmissing
      rw [hmembers]
      intro hitem
      -- the second value under the name is the one that is sent
      have hvalue : StoreValue.null true = StoreValue.ofJson value := by
        simpa [KeyShape.keyOfMapping, KeyShape.partOf, KeyShape.hash, KeyShape.sort?, Key.item,
          Key.parts, Record.ofEntries, Record.merge, Record.insert, Record.erase, Record.get?,
          StoreValue.ofJson] using hitem
      cases value with
      | null => simp [KeyShape.missingIn, KeyShape.names, Record.get?, Json.isNull] at hmissing
      | _ => simp [StoreValue.ofJson] at hvalue

/-- A change is made under the caller's key, unless an entry is removed under a repeated name. -/
theorem Change.item_key {change : Change} {key : Key} (h : change.key table = .ok key) :
    ∃ given, table.key change.input = .ok given ∧
      (key.item = given.item ↔ table.shape.names.Nodup ∨ change.isEntryRemoval = false) := by
  cases change with
  | removeEntry input list position condition =>
    obtain ⟨given, hgiven, hagain⟩ := Traversal.bind_eq_ok h
    refine ⟨given, hgiven, ?_⟩
    by_cases hnames : table.shape.names.Nodup
    · have hsame : table.key (.mapping given.members) = .ok given :=
        keyOf_eq_ok_iff.2 (KeyShape.normalize_members hnames (normalize_of_keyOf hgiven))
      rw [hsame] at hagain
      cases hagain
      simp [hnames]
    · simp [hnames, isEntryRemoval, key_members_ne hnames hgiven hagain]
  | _ => exact ⟨key, h, by simp [isEntryRemoval]⟩

/-! ## Every run -/

/-- What the updates of a change leave alone. -/
structure KeepsKey (table : Table) (change : Change) (rounds : List Round) : Prop where
  /-- No action of an update, made at first or anew, leads to a key attribute, and only one that
  takes away leads into one. -/
  targets : ∀ round ∈ rounds, ∀ request, round.request = .update request →
    ∃ (key : Key) (plan : UpdatePlan), request = (change.write table key).request plan ∧
      ∀ clause ∈ plan.clauses, ∀ action ∈ clause.2,
        action.path.Avoids clause.1 table.shape.names
  /-- Every update has the key that the caller gives, unless an entry is removed and the key
  attributes have one name. -/
  key : ∀ round ∈ rounds, ∀ request, round.request = .update request →
    ∃ given, table.key change.input = .ok given ∧
      (request.key = given.item ↔ table.shape.names.Nodup ∨ change.isEntryRemoval = false)

/-- Whatever the store answers, a change writes to no key attribute. -/
theorem Change.keeps_key {σ : Type} (store : Store σ) (state : σ) (table : Table)
    (change : Change) : table.KeepsKey change ((change.program table).rounds store state) := by
  have hyields := (change.program table).yields_rounds store state
  generalize (change.program table).rounds store state = rounds at hyields
  by_cases hrounds : rounds = []
  · subst hrounds
    exact ⟨by simp, by simp⟩
  · obtain ⟨key, outcome, hkey, hruns, -⟩ := (yields_run hyields).resolve_left hrounds
    have hplan := Write.avoids_of_yields hruns.run (avoids_write hyields hrounds hruns)
    refine ⟨fun round hmem request hrequest => ?_, fun round hmem request hrequest => ?_⟩
    · obtain ⟨plan, heq, havoids⟩ := hplan round hmem request hrequest
      exact ⟨key, plan, heq, havoids⟩
    · obtain ⟨plan, rfl, -⟩ := hplan round hmem request hrequest
      obtain ⟨given, hgiven, hitem⟩ := item_key hkey
      refine ⟨given, hgiven, ?_⟩
      rw [← hitem, Write.request, key_write]

/-- A table whose key attributes have one name. -/
def oneNameTable : Table := ⟨"T", "P-T", .composite "id" "id", .free ["id", "id"]⟩

/-- An entry is removed under another key than the one that the caller gives. -/
theorem oneNameTable_changes_key :
    let change : Change :=
      .removeEntry (.pair (.string "a") (.string "b")) [.key "l"] 0 none
    let script : Script := ⟨[.item (some [("l", .list [.string "x"])])], []⟩
    ∃ key, oneNameTable.key change.input = .ok key ∧ key.item = [("id", .string "b")] ∧
      ∃ round ∈ (change.program oneNameTable).rounds scripted script, ∃ request,
        round.request = .update request ∧ request.key = [("id", .null true)] ∧
          request.key ≠ key.item := by
  intro change script
  have hne : [("id", StoreValue.null true)] ≠ [("id", StoreValue.string "b")] := by simp
  refine ⟨⟨⟨"id", .string "a"⟩, some ⟨"id", .string "b"⟩⟩, rfl, rfl, ?_⟩
  exact ⟨_, .head _, _, rfl, rfl, hne⟩

end Table

end ItemTable
