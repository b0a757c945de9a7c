import ItemTable.Proofs.Traversal
import ItemTable.Schema.Rules

set_option autoImplicit false

/-! # Stored forms of parts

The rules of a schema store an object as the map of its members, each as the value at its own path
is stored (`Schema.storesByParts_storeValue`), and so do free rules. So a value within a larger one
is stored as it is alone, however far down it is (`StoresByParts.walk?`). -/

namespace ItemTable

open Traversal (map_eq_ok)

/-- The part of a stored value at the end of a path of names. -/
def StoreValue.walk? : StoreValue → Path → Option StoreValue
  | value, [] => some value
  | .map entries, .key name :: rest => (Record.get? entries name).bind fun part => part.walk? rest
  | _, _ :: _ => none

/-- An object is stored as the map of its members, each as the value at its own path. -/
def StoresByParts (store : Path → Json → Except ConversionError StoreValue) : Prop :=
  ∀ path members stored, store path (.object members) = .ok stored →
    ∃ entries, stored = .map entries ∧
      ∀ name value, Record.get? members name = some value →
        ∃ part, Record.get? entries name = some part ∧
          store (path ++ [.key name]) value = .ok part

/-- Along a path of names, the stored form of a whole leads to the stored form of the part. -/
theorem StoresByParts.walk? {store : Path → Json → Except ConversionError StoreValue}
    (h : StoresByParts store) {below : Path} (hkeys : ∀ step ∈ below, step.isKey = true)
    {path : Path} {value leaf : Json} {stored : StoreValue} (hstore : store path value = .ok stored)
    (hwalk : value.walk? below = some leaf) :
    ∃ part, stored.walk? below = some part ∧ store (path ++ below) leaf = .ok part := by
  induction below generalizing path value stored with
  | nil =>
    obtain rfl : value = leaf := Option.some.inj hwalk
    exact ⟨stored, rfl, by rwa [List.append_nil]⟩
  | cons step rest ih =>
    obtain ⟨hstep, hrest⟩ := List.forall_mem_cons.1 hkeys
    cases step with
    | position index => cases hstep
    | key name =>
      obtain ⟨next, hnext, hrestwalk⟩ := Option.bind_eq_some_iff.1 hwalk
      cases value with
      | object members =>
        obtain ⟨entries, rfl, hparts⟩ := h path members stored hstore
        obtain ⟨part, hpart, hmember⟩ := hparts name next hnext
        obtain ⟨last, hlast, hleaf⟩ := ih hrest hmember hrestwalk
        refine ⟨last, ?_, ?_⟩
        · rw [StoreValue.walk?, hpart]
          exact hlast
        · rwa [List.append_assoc, List.singleton_append] at hleaf
      | _ => cases hnext

/-! ## Free rules -/

theorem StoreValue.get?_ofMembers {members : Record Json} {name : String} {value : Json}
    (h : members.get? name = some value) :
    Record.get? (StoreValue.ofMembers members) name = some (.ofJson value) := by
  induction members with
  | nil => cases h
  | cons entry rest ih =>
    obtain ⟨n, v⟩ := entry
    rw [StoreValue.ofMembers, Record.get?]
    by_cases hn : n = name
    · simp only [Record.get?, hn, if_true, Option.some.injEq] at h ⊢
      rw [h]
    · simp only [Record.get?, hn, if_false] at h ⊢
      exact ih h

theorem Rules.storesByParts_free (primaryKey : List String) :
    StoresByParts (Rules.free primaryKey).storeValue := by
  intro path members stored hstore
  cases hstore
  exact ⟨_, rfl, fun name value h => ⟨_, StoreValue.get?_ofMembers h, rfl⟩⟩

/-! ## Rules of a schema -/

namespace Schema

variable {schema : Schema}

/-- The copies of an accepted document are accepted. -/
theorem build?_eq_some {library : Draft7.Library} {document : Json}
    (h : build? library document = some schema) :
    schema = lowered library document ∧ library.accepts schema.full = true ∧
      library.accepts schema.relaxed = true := by
  unfold build? at h
  dsimp only at h
  split at h
  · next haccepts =>
    cases h
    exact ⟨rfl, Bool.and_eq_true_iff.1 haccepts⟩
  · cases h

theorem ofDocument?_of_isComplete {document : Json}
    (h : (Draft7.isComplete (document.lower true) && Draft7.isComplete (document.lower false)) =
      true) : ofDocument? document = some (lowered .pointers document) :=
  if_pos h

theorem reference?_of_resolveWithin {root node resolved : Json} {fuel : Nat}
    (h : resolveWithin root fuel node = some resolved) : reference? resolved = none := by
  induction fuel generalizing node with
  | zero => cases h
  | succ fuel ih =>
    unfold resolveWithin at h
    cases href : reference? node with
    | none =>
      rw [href] at h
      cases h
      exact href
    | some reference =>
      rw [href] at h
      obtain ⟨target, -, htarget⟩ := Option.bind_eq_some_iff.1 h
      exact ih htarget

/-- A node that stands for another one stands for itself. -/
theorem resolve?_bind_resolve? (node : Option Json) :
    (node.bind schema.resolve?).bind schema.resolve? = node.bind schema.resolve? := by
  cases hnode : node.bind schema.resolve? with
  | none => rfl
  | some resolved =>
    obtain ⟨start, -, hstart⟩ := Option.bind_eq_some_iff.1 hnode
    rw [Option.bind_some, resolve?, chainLimit, resolveWithin, reference?_of_resolveWithin hstart]

theorem storeAt_resolve (node : Option Json) (value : Json) :
    schema.storeAt (node.bind schema.resolve?) value = schema.storeAt node value := by
  cases value <;> simp only [storeAt, resolve?_bind_resolve?]

theorem descend?_append (node : Json) (path below : Path) :
    schema.descend? node (path ++ below) =
      (schema.descend? node path).bind fun last => schema.descend? last below := by
  induction path generalizing node with
  | nil => rfl
  | cons step rest ih =>
    simp only [List.cons_append, descend?]
    cases (child? node step).bind schema.resolve? with
    | none => rfl
    | some next => exact ih next

theorem nodeAt?_concat (path : Path) (step : Step) :
    schema.nodeAt? (path ++ [step]) =
      ((schema.nodeAt? path).bind (child? · step)).bind schema.resolve? := by
  rw [nodeAt?, nodeAt?, Option.bind_assoc, Option.bind_assoc]
  refine congrArg _ (funext fun root => ?_)
  rw [descend?_append]
  refine congrArg _ (funext fun last => ?_)
  simp [descend?]

/-- The node of a path stands for itself. -/
theorem nodeAt?_bind_resolve? (path : Path) :
    (schema.nodeAt? path).bind schema.resolve? = schema.nodeAt? path := by
  rcases List.eq_nil_or_concat path with rfl | ⟨start, step, rfl⟩
  · have hroot : schema.nodeAt? [] = (some schema.document).bind schema.resolve? := by
      simp [nodeAt?, descend?]
    rw [hroot, resolve?_bind_resolve?]
  · rw [List.concat_eq_append, nodeAt?_concat, resolve?_bind_resolve?]

/-- The node of a path has no reference. -/
theorem reference?_of_nodeAt? {path : Path} {node : Json} (h : schema.nodeAt? path = some node) :
    reference? node = none := by
  have hself := schema.nodeAt?_bind_resolve? path
  rw [h, Option.bind_some] at hself
  exact reference?_of_resolveWithin hself

theorem get?_storeMembers {node : Option Json} {members : Record Json} {entries : Item}
    (h : schema.storeMembers node members = .ok entries) {name : String} {value : Json}
    (hvalue : members.get? name = some value) :
    ∃ part, entries.get? name = some part ∧
      schema.storeAt (node.bind (memberNode? · name)) value = .ok part := by
  induction members generalizing entries with
  | nil => cases hvalue
  | cons member rest ih =>
    obtain ⟨n, v⟩ := member
    rw [storeMembers] at h
    cases hfirst : schema.storeAt (node.bind (memberNode? · n)) v with
    | error e =>
      rw [hfirst] at h
      cases h
    | ok part =>
      cases hrest : schema.storeMembers node rest with
      | error e =>
        rw [hfirst, hrest] at h
        cases h
      | ok entries' =>
        rw [hfirst, hrest] at h
        cases h
        by_cases hn : n = name
        · subst hn
          obtain rfl : v = value := by simpa [Record.get?] using hvalue
          exact ⟨part, by simp [Record.get?], hfirst⟩
        · rw [Record.get?, if_neg hn] at hvalue ⊢
          exact ih hrest hvalue

theorem storesByParts_storeValue (schema : Schema) : StoresByParts schema.storeValue := by
  intro path members stored hstore
  rw [storeValue, storeAt, nodeAt?_bind_resolve?] at hstore
  obtain ⟨entries, hentries, rfl⟩ := map_eq_ok hstore
  refine ⟨entries, rfl, fun name value hvalue => ?_⟩
  obtain ⟨part, hpart, hstored⟩ := get?_storeMembers hentries hvalue
  refine ⟨part, hpart, ?_⟩
  rw [storeValue, nodeAt?_concat, storeAt_resolve]
  exact hstored

end Schema

end ItemTable
