import ItemTable.Proofs.Key
import ItemTable.Proofs.Number.Decimal
import ItemTable.Proofs.Rounds
import ItemTable.Proofs.StoreValue.ReadBack
import ItemTable.Table.Read
import Mathlib.Data.List.Induction
import Mathlib.Data.List.Nodup
import Mathlib.Data.List.Perm.Basic

set_option autoImplicit false

/-! # Batches matched with their answers

A batch asks once for each key tuple, with the first key that has it (`Table.uniqueKeys_eq`), and
hands out the answered items under the tuples of their documents (`Table.arrange_spec`). A key
value has one text before it is stored and after it is read back, since what a numeral is read as is
stored under the same text again (`StoreValue.keyText_ofJson`). So an item that carries a key's
stored values has the key's tuple, and no answer to a batch is lost. -/

namespace ItemTable

open Traversal (forall₂_of_mapM mapM_of_forall₂ forall₂_imp_of_mem nodup_of_forall₂
  exists_of_mem_mapM exists_of_mem_right)

/-- Whether a document is a string or a number. -/
def Json.isKeyValue : Json → Bool
  | .string _ | .number _ => true
  | _ => false

/-- The text of a stored key value, once it is read back. -/
def StoreValue.keyText (stored : StoreValue) : String :=
  match stored.toJson with
  | .ok value => Key.component value
  | .error _ => ""

/-! ## Texts of key values -/

namespace Key

theorem component_number {n m : Number} (h : StoreValue.numberOfNumeral n.numeral = .ok m) :
    component (.number n) = m.text := by
  have hread : (StoreValue.ofJson (.number n)).toJson = .ok (.number m) := by
    rw [StoreValue.ofJson, StoreValue.toJson, h]
    rfl
  unfold component
  simp only [hread]
  rfl

end Key

/-- The text of a key value is the same when the value comes back from the store. -/
theorem StoreValue.keyText_ofJson {value : Json} (h : value.isKeyValue = true) :
    keyText (ofJson value) = Key.component value := by
  cases value with
  | string s => rfl
  | number n =>
    obtain ⟨m, hm, hsettled⟩ := numberOfNumeral_settled n
    have hread : (ofJson (.number n)).toJson = .ok (.number m) := by
      rw [ofJson, toJson, hm]
      rfl
    rw [keyText, hread, Key.component_number hm]
    exact Key.component_number hsettled
  | _ => cases h

namespace Key

variable {key other : Key}

/-- A key's texts are those of its stored values. -/
theorem tuple_eq (hnames : (key.parts.map (·.name)).Nodup)
    (hvalues : ∀ part ∈ key.parts, part.value.isKeyValue = true) :
    key.tuple = (key.parts.map (·.name)).map fun name =>
      ((key.item.get? name).map StoreValue.keyText).getD "" := by
  rw [tuple, List.map_map]
  refine List.map_congr_left ?_
  intro part hpart
  rw [Function.comp_apply, get?_item hnames hpart, Option.map_some, Option.getD_some,
    StoreValue.keyText_ofJson (hvalues part hpart)]

/-- Keys with different tuples are stored differently. -/
theorem exists_get?_ne {names : List String} (hnodup : names.Nodup)
    (hkey : key.parts.map (·.name) = names) (hother : other.parts.map (·.name) = names)
    (hvalues : ∀ part ∈ key.parts, part.value.isKeyValue = true)
    (hvalues' : ∀ part ∈ other.parts, part.value.isKeyValue = true)
    (hne : key.tuple ≠ other.tuple) :
    ∃ name ∈ names, key.item.get? name ≠ other.item.get? name := by
  by_contra hsame
  refine hne ?_
  rw [tuple_eq (hkey ▸ hnodup) hvalues, tuple_eq (hother ▸ hnodup) hvalues', hkey, hother]
  refine List.map_congr_left ?_
  intro name hname
  have hget : key.item.get? name = other.item.get? name := by
    by_contra hget
    exact hsame ⟨name, hname, hget⟩
  rw [hget]

end Key

namespace Table

variable {shape : KeyShape} {keys : List Key} {key : Key} {documents : List (Record Json)}

/-- An item that carries a key has the key's tuple. -/
theorem tupleOf_eq_tuple {item : Item} {document : Record Json}
    (hdocument : StoreValue.membersOfItem item = .ok document) (hnodup : shape.names.Nodup)
    (hnames : key.parts.map (·.name) = shape.names)
    (hvalues : ∀ part ∈ key.parts, part.value.isKeyValue = true)
    (hitem : shape.project item = key.item) : tupleOf shape document = key.tuple := by
  rw [tupleOf, ← hnames, Key.tuple, List.map_map]
  refine List.map_congr_left ?_
  intro part hpart
  have hentry : (part.name, StoreValue.ofJson part.value) ∈ key.item := by
    rw [Key.item_eq_map (hnames ▸ hnodup)]
    exact List.mem_map_of_mem hpart
  have hget := (KeyShape.project_eq_item_iff hnames item).1 hitem _ hentry
  obtain ⟨value, hvalue, hmember⟩ := StoreValue.get?_of_membersOfItem hdocument hget
  have htext := StoreValue.keyText_ofJson (hvalues part hpart)
  rw [StoreValue.keyText, hvalue] at htext
  rw [Function.comp_apply, hmember, Option.getD_some]
  exact htext

/-! ## The keys that are sent -/

theorem uniqueKeys_append (keys : List Key) (key : Key) :
    uniqueKeys (keys ++ [key]) =
      if (uniqueKeys keys).any (·.tuple == key.tuple) then uniqueKeys keys
      else uniqueKeys keys ++ [key] := by
  simp [uniqueKeys, List.foldl_append]

theorem eraseDups_append_singleton (tuples : List (List String)) (tuple : List String) :
    (tuples ++ [tuple]).eraseDups =
      if tuple ∈ tuples then tuples.eraseDups else tuples.eraseDups ++ [tuple] := by
  rw [List.eraseDups_append]
  split_ifs with hmem
  · simp [List.removeAll, hmem]
  · simp [List.removeAll, hmem, List.eraseDups_cons]

theorem nodup_eraseDups (tuples : List (List String)) : tuples.eraseDups.Nodup := by
  induction tuples using List.reverseRecOn with
  | nil => exact List.nodup_nil
  | append_singleton tuples tuple ih =>
    rw [eraseDups_append_singleton]
    split_ifs with hmem
    · exact ih
    · refine List.nodup_append.2 ⟨ih, List.nodup_singleton _, ?_⟩
      intro other hother last hlast heq
      rw [List.mem_singleton.1 hlast] at heq
      exact hmem (heq ▸ List.mem_eraseDups.1 hother)

/-- One key is kept for each tuple, in the order in which the tuples first come. -/
theorem tuples_uniqueKeys (keys : List Key) :
    (uniqueKeys keys).map Key.tuple = (keys.map Key.tuple).eraseDups := by
  -- from the end, as the keys are gathered by a fold from the left
  induction keys using List.reverseRecOn with
  | nil => rfl
  | append_singleton keys key ih =>
    have hany : (uniqueKeys keys).any (·.tuple == key.tuple) = true ↔
        key.tuple ∈ keys.map Key.tuple := by
      rw [← List.mem_eraseDups, ← ih, List.any_eq_true, List.mem_map]
      simp
    rw [uniqueKeys_append, List.map_append, List.map_singleton, eraseDups_append_singleton, ← ih]
    by_cases hmem : key.tuple ∈ keys.map Key.tuple
    · rw [if_pos (hany.2 hmem), if_pos hmem]
    · rw [if_neg fun h => hmem (hany.1 h), if_neg hmem, List.map_append, List.map_singleton]

/-- A key that is kept is the first one with its tuple. -/
theorem find?_of_mem_uniqueKeys (h : key ∈ uniqueKeys keys) :
    keys.find? (·.tuple == key.tuple) = some key := by
  induction keys using List.reverseRecOn with
  | nil => cases h
  | append_singleton keys last ih =>
    rw [List.find?_append]
    by_cases hmem : key ∈ uniqueKeys keys
    · rw [ih hmem]
      rfl
    · rw [uniqueKeys_append] at h
      split_ifs at h with hany
      · exact absurd h hmem
      · obtain rfl : key = last := by
          rcases List.mem_append.1 h with h | h
          · exact absurd h hmem
          · exact List.mem_singleton.1 h
        have hnone : keys.find? (·.tuple == key.tuple) = none := by
          rw [List.find?_eq_none]
          intro other hother heq
          have htuple : key.tuple ∈ (uniqueKeys keys).map Key.tuple := by
            rw [tuples_uniqueKeys, List.mem_eraseDups]
            exact eq_of_beq heq ▸ List.mem_map_of_mem hother
          obtain ⟨known, hknown, hsame⟩ := List.mem_map.1 htuple
          exact hany (List.any_eq_true.2 ⟨known, hknown, by simp [hsame]⟩)
        rw [hnone]
        simp

/-- The first key with each tuple, in the order in which the tuples first come. -/
def firstKeys (keys : List Key) : List Key :=
  (keys.map Key.tuple).eraseDups.filterMap fun tuple => keys.find? (·.tuple == tuple)

theorem uniqueKeys_eq (keys : List Key) : uniqueKeys keys = firstKeys keys := by
  rw [firstKeys, ← tuples_uniqueKeys, List.filterMap_map]
  have hsome : ∀ key ∈ uniqueKeys keys,
      ((fun tuple => keys.find? (·.tuple == tuple)) ∘ Key.tuple) key = some key :=
    fun _ h => find?_of_mem_uniqueKeys h
  rw [List.filterMap_congr hsome, List.filterMap_some]

theorem mem_of_mem_uniqueKeys (h : key ∈ uniqueKeys keys) : key ∈ keys :=
  List.mem_of_find?_eq_some (find?_of_mem_uniqueKeys h)

/-! ## The items that are handed out -/

/-- What a batch hands out for the tuples of its keys and the documents that are answered. -/
structure HandedOut (shape : KeyShape) (tuples : List (List String))
    (documents : List (Record Json)) (entries : List (List String × Record Json)) : Prop where
  /-- Each tuple that a document has comes once, where it first comes among the keys. -/
  order : entries.map (·.1) = tuples.eraseDups.filter fun tuple =>
    documents.any fun document => tupleOf shape document == tuple
  /-- A tuple's document is the last one that has the tuple. -/
  last : ∀ entry ∈ entries, ∃ before after, documents = before ++ entry.2 :: after ∧
    tupleOf shape entry.2 = entry.1 ∧ ∀ document ∈ after, tupleOf shape document ≠ entry.1

theorem lastWith_eq_some {tuple : List String} {document : Record Json}
    (h : lastWith shape tuple documents = some document) :
    ∃ before after, documents = before ++ document :: after ∧
      tupleOf shape document = tuple ∧ ∀ other ∈ after, tupleOf shape other ≠ tuple := by
  obtain ⟨htuple, after, before, hsplit, hafter⟩ := List.find?_eq_some_iff_append.1 h
  refine ⟨before.reverse, after.reverse, ?_, eq_of_beq htuple, ?_⟩
  · rw [← List.reverse_reverse documents, hsplit]
    simp
  · intro other hother
    have hother := hafter other (List.mem_reverse.1 hother)
    simpa using hother

theorem isSome_lastWith (tuple : List String) :
    (lastWith shape tuple documents).isSome =
      documents.any fun document => tupleOf shape document == tuple := by
  rw [lastWith, Bool.eq_iff_iff, List.find?_isSome]
  simp

theorem arrange_spec (shape : KeyShape) (keys : List Key) (documents : List (Record Json)) :
    HandedOut shape (keys.map Key.tuple) documents (arrange shape keys documents) where
  order := by
    rw [← tuples_uniqueKeys, arrange]
    induction uniqueKeys keys with
    | nil => rfl
    | cons key rest ih =>
      have hsome : (lastWith shape key.tuple documents).isSome =
          documents.any fun document => tupleOf shape document == key.tuple :=
        isSome_lastWith key.tuple
      rw [List.map_cons, List.filter_cons, ← hsome, ← ih]
      cases hlast : lastWith shape key.tuple documents with
      | none => simp [hlast]
      | some document => simp [hlast]
  last := by
    intro entry hentry
    obtain ⟨key, -, hkey⟩ := List.mem_filterMap.1 hentry
    obtain ⟨document, hlast, rfl⟩ := Option.map_eq_some_iff.1 hkey
    exact lastWith_eq_some hlast

/-- Where no tuple is answered twice, the order of the answers does not count. -/
theorem lastWith_perm {others : List (Record Json)} (hperm : others.Perm documents)
    (hnodup : (documents.map (tupleOf shape)).Nodup) (tuple : List String) :
    lastWith shape tuple others = lastWith shape tuple documents := by
  -- without repeats, the last document with a tuple is the one that has it
  have hiff : ∀ (items : List (Record Json)), items.Perm documents → ∀ document,
      lastWith shape tuple items = some document ↔
        document ∈ documents ∧ tupleOf shape document = tuple := by
    intro items hitems document
    constructor
    · intro h
      obtain ⟨before, after, rfl, htuple, -⟩ := lastWith_eq_some h
      exact ⟨hitems.subset (List.mem_append_right _ (.head _)), htuple⟩
    · rintro ⟨hmem, htuple⟩
      have hsome : (lastWith shape tuple items).isSome = true := by
        rw [isSome_lastWith, List.any_eq_true]
        exact ⟨document, hitems.symm.subset hmem, by simp [htuple]⟩
      obtain ⟨found, hfound⟩ := Option.isSome_iff_exists.1 hsome
      obtain ⟨before, after, rfl, hsame, -⟩ := lastWith_eq_some hfound
      have hmem' := hitems.subset (List.mem_append_right before (.head after))
      rw [hfound, List.inj_on_of_nodup_map hnodup hmem' hmem (hsame.trans htuple.symm)]
  ext document
  rw [hiff others hperm, hiff documents (List.Perm.refl _)]

/-- If every answer is to one of the keys, and none to the same, all of them are handed out. -/
theorem HandedOut.perm {tuples : List (List String)} {entries : List (List String × Record Json)}
    (h : HandedOut shape tuples documents entries)
    (hnodup : (documents.map (tupleOf shape)).Nodup)
    (hasked : ∀ document ∈ documents, tupleOf shape document ∈ tuples) :
    (entries.map (·.2)).Perm documents := by
  have htuples : (entries.map (·.2)).map (tupleOf shape) = entries.map (·.1) := by
    rw [List.map_map]
    refine List.map_congr_left ?_
    intro entry hentry
    obtain ⟨-, -, -, htuple, -⟩ := h.last entry hentry
    exact htuple
  have hentries : (entries.map (·.1)).Nodup := by
    rw [h.order]
    exact (nodup_eraseDups tuples).filter _
  refine (List.perm_ext_iff_of_nodup (List.Nodup.of_map _ (htuples ▸ hentries))
    (List.Nodup.of_map _ hnodup)).2 ?_
  intro document
  constructor
  · intro hmem
    obtain ⟨entry, hentry, rfl⟩ := List.mem_map.1 hmem
    obtain ⟨before, after, rfl, -, -⟩ := h.last entry hentry
    exact List.mem_append_right _ (.head _)
  · intro hmem
    have htuple : tupleOf shape document ∈ entries.map (·.1) := by
      rw [h.order, List.mem_filter, List.mem_eraseDups]
      exact ⟨hasked document hmem, List.any_eq_true.2 ⟨document, hmem, by simp⟩⟩
    obtain ⟨entry, hentry, hsame⟩ := List.mem_map.1 htuple
    obtain ⟨before, after, hsplit, htuple', -⟩ := h.last entry hentry
    have hmem' : entry.2 ∈ documents := hsplit ▸ List.mem_append_right _ (.head _)
    rw [← List.inj_on_of_nodup_map hnodup hmem' hmem (htuple'.trans hsame)]
    exact List.mem_map_of_mem hentry

/-! ## Runs -/

variable {σ : Type} {store : Store σ} {state : σ} {table : Table} {inputs : List KeyInput}

theorem getManyKeyed_eq (hkeys : inputs.mapM table.key = .ok keys) (hne : inputs ≠ []) :
    table.getManyKeyed inputs = (do
      let items ← Program.ask
        (.batchGet table.physicalName ((uniqueKeys keys).map Key.item))
      let documents ← Program.convert (items.mapM StoreValue.membersOfItem)
      pure (arrange table.shape keys documents)) := by
  have hempty : ¬ keys.isEmpty = true := by
    intro hempty
    rw [List.isEmpty_iff.1 hempty] at hkeys
    exact hne (List.forall₂_nil_right_iff.1 (forall₂_of_mapM hkeys))
  unfold getManyKeyed
  rw [hkeys]
  exact if_neg hempty

theorem rounds_getManyKeyed (hkeys : inputs.mapM table.key = .ok keys) (hne : inputs ≠ []) :
    (table.getManyKeyed inputs).rounds store state =
      [⟨.batchGet table.physicalName ((uniqueKeys keys).map Key.item),
        (store.answer (.batchGet table.physicalName ((uniqueKeys keys).map Key.item))
          state).1⟩] := by
  rw [getManyKeyed_eq hkeys hne, Program.rounds_ask_bind]
  cases (store.answer (.batchGet table.physicalName ((uniqueKeys keys).map Key.item)) state).1 with
  | error fault => rfl
  | ok items =>
    exact congrArg _ (Program.rounds_eq_nil_of_convert (Program.yields_rounds store _ _))

theorem run_getManyKeyed (hkeys : inputs.mapM table.key = .ok keys) (hne : inputs ≠ [])
    {items : List Item}
    (hanswer : (store.answer (.batchGet table.physicalName ((uniqueKeys keys).map Key.item))
      state).1 = .ok items)
    (hdocuments : items.mapM StoreValue.membersOfItem = .ok documents) :
    ((table.getManyKeyed inputs).run store state).1 = .ok (arrange table.shape keys documents) := by
  have hask : ∀ request : Request, (Program.ask request).run store state =
      ((store.answer request state).1.mapError .store, (store.answer request state).2) :=
    fun _ => rfl
  rw [getManyKeyed_eq hkeys hne, Program.run_bind, hask, hanswer]
  dsimp only [Except.mapError]
  rw [hdocuments]
  rfl

theorem names_of_mem (hkeys : inputs.mapM table.key = .ok keys) (h : key ∈ keys) :
    key.parts.map (·.name) = table.shape.names := by
  obtain ⟨input, -, hinput⟩ := exists_of_mem_mapM hkeys key h
  exact names_of_key hinput

/-- No two of the keys that are sent are alike. -/
theorem pairwise_sent (hnames : table.shape.names.Nodup) (hkeys : inputs.mapM table.key = .ok keys)
    (hvalues : ∀ key ∈ keys, ∀ part ∈ key.parts, part.value.isKeyValue = true) :
    ((uniqueKeys keys).map Key.item).Pairwise fun a b =>
      ∃ name ∈ table.shape.names, a.get? name ≠ b.get? name := by
  have htuples : (uniqueKeys keys).Pairwise fun a b => a.tuple ≠ b.tuple :=
    List.pairwise_map.1 (tuples_uniqueKeys keys ▸ nodup_eraseDups _)
  rw [List.pairwise_map]
  refine htuples.imp_of_mem ?_
  intro a b ha hb hne
  have ha := mem_of_mem_uniqueKeys ha
  have hb := mem_of_mem_uniqueKeys hb
  exact Key.exists_get?_ne hnames (names_of_mem hkeys ha) (names_of_mem hkeys hb) (hvalues a ha)
    (hvalues b hb) hne

/-- Items that carry the keys that are sent have the tuples of those keys. -/
theorem forall₂_tuples (hnames : table.shape.names.Nodup)
    (hkeys : inputs.mapM table.key = .ok keys)
    (hvalues : ∀ key ∈ keys, ∀ part ∈ key.parts, part.value.isKeyValue = true) {items : List Item}
    (hdocuments : items.mapM StoreValue.membersOfItem = .ok documents)
    (hcarried : ∀ item ∈ items, table.shape.project item ∈ (uniqueKeys keys).map Key.item) :
    List.Forall₂ (fun carried tuple => ∃ key ∈ uniqueKeys keys, key.item = carried ∧
      key.tuple = tuple) (items.map table.shape.project)
      (documents.map (tupleOf table.shape)) := by
  rw [List.forall₂_map_left_iff, List.forall₂_map_right_iff]
  refine forall₂_imp_of_mem (forall₂_of_mapM hdocuments) ?_
  intro item hitem document hdocument
  obtain ⟨key, hkey, hsame⟩ := List.mem_map.1 (hcarried item hitem)
  have hmem := mem_of_mem_uniqueKeys hkey
  exact ⟨key, hkey, hsame, (tupleOf_eq_tuple hdocument hnames (names_of_mem hkeys hmem)
    (hvalues key hmem) hsame.symm).symm⟩

/-- How a batch's result follows from the keys that are asked for and the items that are answered.
-/
structure Matched (table : Table) (inputs : List KeyInput) (keys : List Key) (items : List Item)
    (documents : List (Record Json)) (entries : List (List String × Record Json)) : Prop where
  handedOut : HandedOut table.shape (keys.map Key.tuple) documents entries
  /-- If no tuple is answered twice, another order of the answer gives the same result. -/
  reordered : (documents.map (tupleOf table.shape)).Nodup →
    ∀ {τ : Type} (other : Store τ) (state : τ) (items' : List Item),
      (other.answer (.batchGet table.physicalName ((firstKeys keys).map Key.item)) state).1 =
        .ok items' →
      items'.Perm items → ((table.getManyKeyed inputs).run other state).1 = .ok entries
  /-- If each item carries a key that is sent, and no two the same, no item is lost. -/
  complete : (∀ item ∈ items, table.shape.project item ∈ (firstKeys keys).map Key.item) →
    (items.map table.shape.project).Nodup → (entries.map (·.2)).Perm documents

/-- Reading many items matches keys and answers. One batch goes out. Its store keys are those of the
first request of each key tuple, and no two of them are alike. What comes back is handed out under
the requested tuples, whatever else was answered and in whatever order. -/
theorem getManyKeyed_matches (store : Store σ) (state : σ) (hnames : table.shape.names.Nodup)
    (hne : inputs ≠ []) (hkeys : inputs.mapM table.key = .ok keys)
    (hvalues : ∀ key ∈ keys, ∀ part ∈ key.parts, part.value.isKeyValue = true) :
    let request : Request := .batchGet table.physicalName ((firstKeys keys).map Key.item)
    (table.getManyKeyed inputs).rounds store state =
        [⟨request, (store.answer request state).1⟩] ∧
      (((firstKeys keys).map Key.item).Pairwise fun a b =>
        ∃ name ∈ table.shape.names, a.get? name ≠ b.get? name) ∧
      ∀ items documents, (store.answer request state).1 = .ok items →
        items.mapM StoreValue.membersOfItem = .ok documents →
        ∃ entries, ((table.getManyKeyed inputs).run store state).1 = .ok entries ∧
          Matched table inputs keys items documents entries := by
  rw [← uniqueKeys_eq]
  refine ⟨rounds_getManyKeyed hkeys hne, pairwise_sent hnames hkeys hvalues, ?_⟩
  intro items documents hanswer hdocuments
  have hspec := arrange_spec table.shape keys documents
  refine ⟨_, run_getManyKeyed hkeys hne hanswer hdocuments, hspec, ?_, ?_⟩
  · intro hnodup τ other state' items' hanswer' hperm
    rw [← uniqueKeys_eq] at hanswer'
    obtain ⟨documents', hdocuments', hperm'⟩ :=
      List.perm_comp_forall₂ hperm (forall₂_of_mapM hdocuments)
    rw [run_getManyKeyed hkeys hne hanswer' (mapM_of_forall₂ hdocuments'), arrange, arrange]
    simp only [lastWith_perm hperm' hnodup]
  · intro hcarried hnodup
    rw [← uniqueKeys_eq] at hcarried
    have htuples := forall₂_tuples hnames hkeys hvalues hdocuments hcarried
    refine hspec.perm (nodup_of_forall₂ ?_ htuples hnodup) ?_
    · rintro _ _ _ ⟨first, hfirst, rfl, rfl⟩ ⟨second, hsecond, rfl, hsame⟩
      have hdistinct := tuples_uniqueKeys keys ▸ nodup_eraseDups (keys.map Key.tuple)
      rw [List.inj_on_of_nodup_map hdistinct hfirst hsecond hsame.symm]
    · intro document hdocument
      obtain ⟨-, -, key, hkey, -, hsame⟩ :=
        exists_of_mem_right htuples _ (List.mem_map_of_mem hdocument)
      exact hsame ▸ List.mem_map_of_mem (mem_of_mem_uniqueKeys hkey)

/-- Stops of a tour, by city and number. -/
def tourTable : Table := ⟨"T", "P-T", .composite "city" "stop", .free ["city", "stop"]⟩

/-- The key of a stop as the table takes it. -/
def stopKey (city : String) (number : Number) : Key :=
  ⟨⟨"city", .string city⟩, some ⟨"stop", .number number⟩⟩

/-- One key is asked for twice, as an integer and as a whole float, and one has no item; the answer
comes in another order and has an item more. -/
theorem getManyKeyed_matches_tour :
    let one : WordInt := ⟨1, by decide, by decide⟩
    let wholeOne : Binary64 := ⟨false, 2 ^ (52 : Nat), -52, by decide⟩
    let keys := [stopKey "a" (.int one), stopKey "c" (.int one), stopKey "a" (.float wholeOne),
      stopKey "b" (.int one)]
    let inputs := keys.map fun key => KeyInput.mapping key.members
    let stored (city : String) : Item :=
      [("stop", .number "1"), ("city", .string city), ("seen", .bool true)]
    let script : Script := ⟨[.items [stored "b", stored "x", stored "a"]], []⟩
    tourTable.shape.names.Nodup ∧ inputs ≠ [] ∧ inputs.mapM tourTable.key = .ok keys ∧
      (∀ key ∈ keys, ∀ part ∈ key.parts, part.value.isKeyValue = true) ∧
      ∃ items documents entries,
        (tourTable.getManyKeyed inputs).rounds scripted script = [⟨.batchGet "P-T"
          ((firstKeys keys).map Key.item), .ok items⟩] ∧
        ((tourTable.getManyKeyed inputs).run scripted script).1 = .ok entries ∧
        Matched tourTable inputs keys items documents entries := by
  intro one wholeOne keys inputs stored script
  have hnames : tourTable.shape.names.Nodup := by decide
  have hne : inputs ≠ [] := List.cons_ne_nil _ _
  have hkeys : inputs.mapM tourTable.key = .ok keys := rfl
  have hvalues : ∀ key ∈ keys, ∀ part ∈ key.parts, part.value.isKeyValue = true := by decide
  refine ⟨hnames, hne, hkeys, hvalues, ?_⟩
  obtain ⟨hrounds, -, hmatched⟩ := getManyKeyed_matches scripted script hnames hne hkeys hvalues
  have hok : ([stored "b", stored "x", stored "a"].mapM StoreValue.membersOfItem).isOk = true := by
    decide +kernel
  cases hdocuments : [stored "b", stored "x", stored "a"].mapM StoreValue.membersOfItem with
  | error e =>
    rw [hdocuments] at hok
    cases hok
  | ok documents =>
    obtain ⟨entries, hrun, hmatched⟩ := hmatched _ documents rfl hdocuments
    exact ⟨_, documents, entries, hrounds, hrun, hmatched⟩

end Table

end ItemTable
