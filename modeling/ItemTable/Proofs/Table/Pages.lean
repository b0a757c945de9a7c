import ItemTable.Proofs.Key
import ItemTable.Store.Script
import ItemTable.Table.Items

set_option autoImplicit false

/-! # Reading page after page

A store gives a long result page by page. Pages are `Linked` if each says where the next one starts;
the first page that does not is the last one. Reading them makes one call for each, from where the
page before ended (`readPages_linked`), so a program that reads all pages before it goes on goes on
with the items of all of them, or fails with the call that fails (`ReadsAll`). -/

namespace ItemTable

/-! ## Linked pages -/

/-- Pages that are not the last one. -/
def Linked (pages : List Page) : Prop := ∀ page ∈ pages, page.last ≠ none

/-- The calls that read linked pages from a start on, and the page after them. -/
def pageCalls (read : Option Item → PageRequest) (start : Option Item) (pages : List Page) :
    List Request :=
  (start :: pages.map (·.last)).map fun start => .page (read start)

section

variable {read : Option Item → PageRequest} {isWanted : Page → Bool}

/-- Linked pages are read, each from where the one before ends, and then what comes after them. -/
theorem readPages_append {rest after : List Reply} {answer : Except StoreError (List Page)}
    (hrest : ∀ fuel start requests,
      scripted.readPages read isWanted (fuel + 1) start ⟨rest, requests⟩ =
        (answer, ⟨after, requests ++ [.page (read start)]⟩))
    {pages : List Page} (hlinked : Linked pages) (hwanted : ∀ page ∈ pages, isWanted page = true)
    {fuel : Nat} (hfuel : pages.length < fuel) (start : Option Item) (requests : List Request) :
    scripted.readPages read isWanted fuel start ⟨pages.map .page ++ rest, requests⟩ =
      (answer.map (pages ++ ·), ⟨after, requests ++ pageCalls read start pages⟩) := by
  induction pages generalizing fuel start requests with
  | nil =>
    obtain ⟨fuel, rfl⟩ : ∃ n, fuel = n + 1 := ⟨fuel - 1, by omega⟩
    rw [List.map_nil, List.nil_append, hrest]
    cases answer <;> rfl
  | cons page pages ih =>
    obtain ⟨fuel, rfl⟩ : ∃ n, fuel = n + 1 := ⟨fuel - 1, by omega⟩
    obtain ⟨hnext, hlinked⟩ := List.forall_mem_cons.1 hlinked
    obtain ⟨hpage, hwanted⟩ := List.forall_mem_cons.1 hwanted
    obtain ⟨next, hnext⟩ := Option.ne_none_iff_exists'.1 hnext
    have hanswer : scripted.answer (.page (read start))
        ⟨(page :: pages).map .page ++ rest, requests⟩ =
          (.ok page, ⟨pages.map .page ++ rest, requests ++ [.page (read start)]⟩) := rfl
    have hafter := ih hlinked hwanted (Nat.lt_of_succ_lt_succ hfuel) (some next)
      (requests ++ [.page (read start)])
    simp only [Store.readPages, hanswer, hnext, hpage, hafter]
    have hcalls : requests ++ [.page (read start)] ++ pageCalls read (some next) pages =
        requests ++ pageCalls read start (page :: pages) := by
      simp [pageCalls, hnext]
    rw [hcalls]
    cases answer <;> rfl

/-- Pages of which only the last one says that no other follows are read once each. -/
theorem readPages_linked {before : List Page} (hlinked : Linked before)
    (hwanted : ∀ page ∈ before, isWanted page = true) {final : Page} (hfinal : final.last = none)
    (rest : List Reply) {fuel : Nat} (hfuel : before.length < fuel) (requests : List Request) :
    scripted.readPages read isWanted fuel none
        ⟨(before ++ [final]).map .page ++ rest, requests⟩ =
      (.ok (before ++ [final]), ⟨rest, requests ++ pageCalls read none before⟩) := by
  have hrest : ∀ fuel start requests,
      scripted.readPages read isWanted (fuel + 1) start ⟨.page final :: rest, requests⟩ =
        (.ok [final], ⟨rest, requests ++ [.page (read start)]⟩) := by
    intro fuel start requests
    have hanswer : scripted.answer (.page (read start)) ⟨.page final :: rest, requests⟩ =
        (.ok final, ⟨rest, requests ++ [.page (read start)]⟩) := rfl
    simp only [Store.readPages, hanswer, hfinal]
  rw [List.map_append, List.append_assoc]
  exact readPages_append hrest hlinked hwanted hfuel none requests

/-- A call that fails ends the reading. -/
theorem readPages_failed {before : List Page} (hlinked : Linked before)
    (hwanted : ∀ page ∈ before, isWanted page = true) (fault : StoreError) (rest : List Reply)
    {fuel : Nat} (hfuel : before.length < fuel) (requests : List Request) :
    scripted.readPages read isWanted fuel none
        ⟨before.map .page ++ .failed fault :: rest, requests⟩ =
      (.error fault, ⟨rest, requests ++ pageCalls read none before⟩) := by
  have hrest : ∀ fuel start requests,
      scripted.readPages read isWanted (fuel + 1) start ⟨.failed fault :: rest, requests⟩ =
        (.error fault, ⟨rest, requests ++ [.page (read start)]⟩) := fun _ _ _ => rfl
  exact readPages_append hrest hlinked hwanted hfuel none requests

end

/-! ## Programs that read all pages -/

/-- The items of pages, in order. -/
def itemsOf (pages : List Page) : List Item := pages.flatMap (·.items)

variable {α β : Type}

/-- A program reads all pages of a read and goes on with their items. -/
structure ReadsAll (program : Program α) (read : Option Item → PageRequest)
    (isWanted : Page → Bool) (goOn : List Item → Program α) : Prop where
  /-- Every page is asked for once, and what comes after is told by the items of all pages. -/
  complete : ∀ (before : List Page) (final : Page) (rest : List Reply) (requests : List Request),
    Linked before → final.last = none → (∀ page ∈ before ++ [final], isWanted page = true) →
    program.run scripted ⟨(before ++ [final]).map .page ++ rest, requests⟩ =
      (goOn (itemsOf (before ++ [final]))).run scripted
        ⟨rest, requests ++ pageCalls read none before⟩
  /-- A call that fails is the last one, and its failure the program's. -/
  broken : ∀ (before : List Page) (fault : StoreError) (rest : List Reply)
      (requests : List Request),
    Linked before → (∀ page ∈ before, isWanted page = true) →
    program.run scripted ⟨before.map .page ++ .failed fault :: rest, requests⟩ =
      (.error (.store fault), ⟨rest, requests ++ pageCalls read none before⟩)

theorem Program.run_askPages_bind {σ : Type} (store : Store σ) (read : Option Item → PageRequest)
    (isWanted : Page → Bool) (f : List Page → Program β) (state : σ) :
    (askPages read isWanted >>= f).run store state =
      match store.readPages read isWanted (store.supply state + 1) none state with
      | (.ok found, state) => (f found).run store state
      | (.error fault, state) => (.error (.store fault), state) := by
  rw [run_bind]
  have hrun : (askPages read isWanted).run store state =
      ((store.readPages read isWanted (store.supply state + 1) none state).1.mapError .store,
        (store.readPages read isWanted (store.supply state + 1) none state).2) := rfl
  rw [hrun]
  rcases store.readPages read isWanted (store.supply state + 1) none state
    with ⟨fault | found, after⟩ <;> rfl

/-- The pages of a script are fewer than those that may be read. -/
theorem length_lt_fuel (pages : List Page) (rest : List Reply) (requests : List Request) :
    pages.length < scripted.supply ⟨pages.map .page ++ rest, requests⟩ + 1 := by
  have hsupply : scripted.supply ⟨pages.map .page ++ rest, requests⟩ =
      pages.length + rest.length := by
    rw [← List.length_map Reply.page, ← List.length_append]
    rfl
  omega

/-- A program that asks for pages and goes on with the items of all of them reads them all. -/
theorem readsAll_askPages {read : Option Item → PageRequest} {isWanted : Page → Bool}
    {f : List Page → Program α} {goOn : List Item → Program α}
    (hf : ∀ pages, (∀ page ∈ pages, isWanted page = true) → f pages = goOn (itemsOf pages)) :
    ReadsAll (Program.askPages read isWanted >>= f) read isWanted goOn := by
  constructor
  · intro before final rest requests hlinked hfinal hwanted
    have hfuel := Nat.lt_of_le_of_lt (List.sublist_append_left before [final]).length_le
      (length_lt_fuel (before ++ [final]) rest requests)
    have hbefore : ∀ page ∈ before, isWanted page = true := fun page hmem =>
      hwanted page (List.mem_append_left _ hmem)
    rw [Program.run_askPages_bind, readPages_linked hlinked hbefore hfinal rest hfuel requests]
    dsimp only
    rw [hf _ hwanted]
  · intro before fault rest requests hlinked hwanted
    have hfuel := length_lt_fuel before (.failed fault :: rest) requests
    rw [Program.run_askPages_bind, readPages_failed hlinked hwanted fault rest hfuel requests]

/-! ## Documents -/

/-- The documents of pages are those of their items. -/
theorem mapM_documents {pages : List Page} (h : ∀ page ∈ pages, page.documents.isOk = true) :
    ∃ documents, pages.mapM Page.documents = .ok documents ∧
      (itemsOf pages).mapM StoreValue.membersOfItem = .ok documents.flatten := by
  induction pages with
  | nil => exact ⟨[], rfl, rfl⟩
  | cons page pages ih =>
    obtain ⟨hpage, hpages⟩ := List.forall_mem_cons.1 h
    obtain ⟨others, hothers, hrest⟩ := ih hpages
    cases hfirst : page.documents with
    | error e =>
      rw [hfirst] at hpage
      cases hpage
    | ok first =>
      refine ⟨first :: others, ?_, ?_⟩
      · rw [List.mapM_cons, hfirst, hothers]
        rfl
      · rw [itemsOf, List.flatMap_cons, List.mapM_append]
        change (do
          let documents ← page.documents
          let rest ← (itemsOf pages).mapM StoreValue.membersOfItem
          pure (documents ++ rest)) = _
        rw [hfirst, hrest]
        rfl

/-! ## Operations -/

namespace KeyShape

/-- The query for a key asks that each key attribute has the key's value. -/
theorem condition?_ofKey {shape : KeyShape} {key : Key}
    (h : key.parts.map (·.name) = shape.names) (index : String) :
    (Query.ofKey index key).condition? shape =
      some (key.parts.map fun part => ⟨part.name, .compare .eq part.value⟩) := by
  obtain ⟨⟨hash, value⟩, sort⟩ := key
  cases shape with
  | simple name =>
    cases sort with
    | some part => simp [Key.parts, names] at h
    | none =>
      obtain rfl : hash = name := by simpa [Key.parts, names] using h
      rfl
  | composite first second =>
    cases sort with
    | none => simp [Key.parts, names] at h
    | some part =>
      obtain ⟨rfl, rfl⟩ : hash = first ∧ part.name = second := by
        simpa [Key.parts, names] using h
      rfl

end KeyShape

namespace Table

/-- The read of an index under a key, from a start. -/
def indexRead (table : Table) (index : String) (key : Key) (start : Option Item) : PageRequest :=
  let condition := Condition.compile
    (key.parts.map fun part => ⟨part.name, .compare .eq part.value⟩)
  .query
    { table := table.physicalName
      index := some index
      condition := condition.text
      projection := none
      names := condition.names
      values := condition.values
      start := start
      limit := none
      forward := none }

/-- The deletion of items by their keys, if there are any. -/
def deleteAll (table : Table) (items : List Item) : Program Nat :=
  if items = [] then pure 0
  else do
    let _ ← Program.ask (.batchDelete table.physicalName (items.map table.shape.project))
    pure items.length

theorem readsAll_scanItems (table : Table) (f : List Item → Program α) :
    ReadsAll (table.scanItems >>= f) (.scan table.physicalName) (fun _ => true) f := by
  rw [scanItems, Program.bind_assoc]
  exact readsAll_askPages fun pages _ => rfl

theorem readsAll_truncate (table : Table) :
    ReadsAll table.truncate (.scan table.physicalName) (fun _ => true) table.deleteAll := by
  have htruncate : table.truncate = table.scanItems >>= table.deleteAll := by
    unfold truncate
    congr
    funext items
    cases items <;> simp [deleteAll]
  rw [htruncate]
  exact table.readsAll_scanItems table.deleteAll

theorem readsAll_getByIndex {table : Table} {index : String} {shape : KeyShape}
    {input : KeyInput} {key : Key} (hshape : table.indexShape index = .ok shape)
    (hkey : table.keyOf shape input = .ok key) :
    ReadsAll (table.getByIndex index input) (table.indexRead index key)
      (fun page => page.documents.isOk)
      (fun items => Program.convert (items.mapM StoreValue.membersOfItem)) := by
  have hnames := KeyShape.names_of_normalize (normalize_of_keyOf hkey)
  have hgoOn : ∀ pages : List Page, (∀ page ∈ pages, page.documents.isOk = true) →
      (Program.convert (pages.mapM Page.documents) >>= fun documents => pure documents.flatten) =
        Program.convert ((itemsOf pages).mapM StoreValue.membersOfItem) := by
    intro pages hpages
    obtain ⟨documents, hdocuments, hitems⟩ := mapM_documents hpages
    rw [hdocuments, hitems]
    rfl
  have hprogram : table.getByIndex index input =
      Program.askPages (table.indexRead index key) (fun page => page.documents.isOk) >>=
        fun pages => Program.convert (pages.mapM Page.documents) >>= fun documents =>
          pure documents.flatten := by
    unfold getByIndex
    rw [hshape]
    change (Program.ofExcept (table.keyOf shape input) >>= _) = _
    rw [hkey]
    change (Program.ofExcept ((Query.ofKey index key).request shape _ _) >>= _) = _
    rw [Query.request, KeyShape.condition?_ofKey hnames]
    rfl
  rw [hprogram]
  exact readsAll_askPages hgoOn

/-- Scans, reads of an index and truncations ask for every page once, each from where the one before
ends, and go on with the items of all pages: the first two give their documents, and the last one
deletes them by their key attributes. A call that fails ends them. -/
theorem pages_read_once (table : Table) :
    ReadsAll table.scan (.scan table.physicalName) (fun _ => true)
        (fun items => Program.convert (items.mapM StoreValue.membersOfItem)) ∧
      ReadsAll table.truncate (.scan table.physicalName) (fun _ => true) table.deleteAll ∧
      (∀ item name, (table.shape.project item).get? name =
        if name ∈ table.shape.names then item.get? name else none) ∧
      ∀ index shape input key, table.indexShape index = .ok shape →
        table.keyOf shape input = .ok key → key.parts.map (·.name) = shape.names ∧
          ReadsAll (table.getByIndex index input) (table.indexRead index key)
            (fun page => page.documents.isOk)
            (fun items => Program.convert (items.mapM StoreValue.membersOfItem)) := by
  refine ⟨table.readsAll_scanItems _, table.readsAll_truncate, ?_, ?_⟩
  · intro item name
    exact Record.get?_ofEntries_of_names item table.shape.names name
  · intro index shape input key hshape hkey
    exact ⟨KeyShape.names_of_normalize (normalize_of_keyOf hkey), readsAll_getByIndex hshape hkey⟩

/-- A table with an index by kind. -/
def kindTable : Table :=
  ⟨"T", "P-T", .simple "id", { Rules.free ["id"] with indexes := [("byKind", ["kind"])] }⟩

/-- A page without items between two others is read like them, and the items of all pages are
found. -/
theorem pages_read_once_emptyPage :
    kindTable.indexShape "byKind" = .ok (.simple "kind") ∧
      kindTable.keyOf (.simple "kind") (.scalar (.string "k")) =
        .ok ⟨⟨"kind", .string "k"⟩, none⟩ ∧
      (kindTable.getByIndex "byKind" (.scalar (.string "k"))).run scripted
          ⟨[.page ⟨[[("id", .string "a")]], some [("id", .string "a")]⟩,
            .page ⟨[], some [("id", .string "b")]⟩,
            .page ⟨[[("id", .string "c")]], none⟩], []⟩ =
        (.ok [[("id", .string "a")], [("id", .string "c")]],
          ⟨[], [none, some [("id", .string "a")], some [("id", .string "b")]].map fun start =>
            .page (.query
              { table := "P-T"
                index := some "byKind"
                condition := "#n0 = :v0"
                projection := none
                names := [("#n0", "kind")]
                values := [(":v0", .string "k")]
                start := start
                limit := none
                forward := none })⟩) := by
  refine ⟨rfl, rfl, ?_⟩
  obtain ⟨-, -, -, hindex⟩ := kindTable.pages_read_once
  obtain ⟨-, hread⟩ := hindex "byKind" (.simple "kind") (.scalar (.string "k"))
    ⟨⟨"kind", .string "k"⟩, none⟩ rfl rfl
  have hlinked : Linked [⟨[[("id", .string "a")]], some [("id", .string "a")]⟩,
      ⟨[], some [("id", .string "b")]⟩] := by
    simp [Linked]
  exact hread.complete _ ⟨[[("id", .string "c")]], none⟩ [] [] hlinked rfl (by decide)

end Table

end ItemTable
