import ItemTable.Proofs.Table.Changes
import ItemTable.Proofs.Write.Explain

set_option autoImplicit false

/-! # Reports of failed guards

A change without a caller's condition reads the item after a failed condition, and tells the caller
what the item lacks or has too much of: exactly the paths of the request that the store refused, by
what the store itself reads in that request (`Table.Change.reports`). -/

namespace ItemTable

namespace Table

namespace Change

variable {table : Table} {change : Change} {key : Key}

/-- The caller's condition. -/
def condition : Change → Option Condition
  | updateAttributes _ _ options => options.condition
  | addAttributes _ _ options => options.condition
  | appendToLists _ _ options => options.condition
  | addToSets _ _ options => options.condition
  | removeFromSets _ _ options => options.condition
  | removeAttributes _ _ options => options.condition
  | removeEntry _ _ _ condition => condition

theorem direct_write (h : ∀ condition, change.condition = some condition → condition = [])
    (table : Table) (key : Key) : (change.write table key).direct = none := by
  have hwrite : (change.write table key).condition = change.condition := by cases change <;> rfl
  rw [Write.direct, hwrite]
  cases hcondition : change.condition with
  | none => rfl
  | some condition =>
    rw [h condition hcondition]
    rfl

/-- A change asks for paths that are there or for paths that are missing, and not for both. -/
theorem guards_write (h : (change.write table key).guards.requirePresent = true) :
    (change.write table key).guards.requireMissing = false := by
  cases change <;> first | rfl | cases h

/-- A change with guards on its paths writes a tree of data. -/
theorem writesTree_write
    (h : (change.write table key).guards.requirePresent = true ∨
      (change.write table key).guards.requireMissing = true) :
    (change.write table key).WritesTree := by
  have htree (append : Bool) (data : Record Json) :
      (Leaf.ofTree append (Tree.flatten data)).map Leaf.entry = Tree.flatten data := by
    simp [Leaf.ofTree, Leaf.entry, Function.comp_def]
  cases change with
  | removeAttributes => rcases h with h | h <;> cases h
  | removeEntry => rcases h with h | h <;> cases h
  | _ => exact htree _ _

/-- What a change tells after a store refused a request for its condition: the request was the last
update, its condition and the paths that it touches are read back, and its write reports of them
what the item that is read next has there. -/
def Reports (table : Table) (change : Change) (request : UpdateRequest) (after : List Round)
    (result : Except Error change.Result) : Prop :=
  ∃ key demand touched answer rest outcome,
    change.key table = .ok key ∧
    after = ⟨.get table.physicalName key.item, answer⟩ :: rest ∧
    (∀ round ∈ after, ∀ later, round.request ≠ .update later) ∧
    (change.write table key).Asked request demand touched ∧
    (change.write table key).Reported demand touched answer rest outcome ∧
    result = outcome.bind (change.finish table)

/-- Whatever the store answers, the read after a failed condition decides what a change without a
caller's condition reports. -/
theorem reports {σ : Type} (store : Store σ) (state : σ) (table : Table) (change : Change)
    (hcondition : ∀ condition, change.condition = some condition → condition = [])
    {before after : List Round} {request : UpdateRequest} {message : String}
    (hrounds : (change.program table).rounds store state
      = before ++ Write.unmet request message :: after) :
    change.Reports table request after ((change.program table).run store state).1 := by
  have hyields := (change.program table).yields_rounds store state
  rw [hrounds] at hyields
  rcases yields_run hyields with hnil | ⟨key, outcome, hkey, hruns, hresult⟩
  · simp at hnil
  · have hdirect := direct_write hcondition table key
    rcases Write.course_of_yields hruns.run with ⟨e, -, hnil, -⟩ | ⟨plan, hplan, hcourse⟩
    · simp at hnil
    · have hstage : (Write.Stage.attempt plan).IsPlanned (change.write table key) := by
        rintro _ ⟨⟩
        exact .inl hplan
      obtain ⟨plan', hplan', rfl, hexplain⟩ := hcourse.explain_of_unmet hstage rfl
      obtain ⟨demand, answer, rest, rfl, hasked, hreported⟩ :=
        hexplain.reported hplan' hdirect writesTree_write guards_write
      exact ⟨key, demand, plan'.paths, answer, rest, outcome, hkey, by cases change <;> rfl,
        hexplain.no_update (.inr ⟨_, rfl⟩), hasked, hreported, hresult⟩

/-- Attributes that are added below a map, where there must be none yet. -/
def addition : Change :=
  .addAttributes (.scalar (.string "a"))
    [("m", .object [("x", .ofInt 1), ("y", .ofInt 2)]), ("n", .ofInt 3)]
    ⟨false, true, false, none, .none⟩

/-- A table without a schema. -/
def openTable : Table := ⟨"T", "P-T", .simple "id", .free ["id"]⟩

/-- A store in which the map comes up while it is added. -/
def racing : Script :=
  ⟨[.failed (.validation StoreError.invalidDocumentPath), .item (some [("id", .string "a")]),
    .failed (.conditionFailed ""),
    .item (some [("id", .string "a"), ("m", .map [("z", .bool true)])])], []⟩

/-- The second request sets the map whole, and the map is what the caller is told of. -/
theorem reports_addition :
    (∀ condition, addition.condition = some condition → condition = []) ∧
      ∃ before request message after,
        (addition.program openTable).rounds scripted racing
          = before ++ Write.unmet request message :: after ∧
        before.length = 2 ∧
        addition.Reports openTable request after
          ((addition.program openTable).run scripted racing).1 ∧
        ∃ key, ((addition.program openTable).run scripted racing).1
          = .error (.attributeExists "T" key ["m"]) := by
  have hcondition : ∀ condition, addition.condition = some condition → condition = [] :=
    fun _ h => by cases h
  have hrounds : ∃ before request message after,
      (addition.program openTable).rounds scripted racing
        = before ++ Write.unmet request message :: after ∧ before.length = 2 :=
    ⟨[_, _], _, _, _, rfl, rfl⟩
  obtain ⟨before, request, message, after, hrounds, hlength⟩ := hrounds
  exact ⟨hcondition, before, request, message, after, hrounds, hlength,
    reports scripted racing _ addition hcondition hrounds, _, rfl⟩

/-- An item with an attribute that is a number by its tag only. -/
def garbledItem : Item := [("id", .string "a"), ("n", .number "zz")]

/-- A store that has the garbled item. -/
def garbled : Script := ⟨[.failed (.conditionFailed ""), .item (some garbledItem)], []⟩

/-- The garbled item has one of the added attributes, but it has no document, and that is what the
caller is told instead. -/
theorem addition_garbled : ∃ key request message demand touched e,
    addition.condition = none ∧ addition.key openTable = .ok key ∧
      (addition.write openTable key).guards.requireMissing = true ∧
      (addition.program openTable).rounds scripted garbled =
        [Write.unmet request message,
          ⟨.get openTable.physicalName key.item, .ok (some garbledItem)⟩] ∧
      (∀ name ∈ openTable.shape.names, garbledItem.contains name = true) ∧
      (addition.write openTable key).Asked request demand touched ∧
      (∀ judge, demand.holds judge garbledItem = false) ∧
      (StoreValue.map garbledItem).presentAt touched = [[.key "n"]] ∧
      ((addition.program openTable).run scripted garbled).1 = .error (.conversion e) := by
  let key : Key := ⟨⟨"id", .string "a"⟩, none⟩
  obtain ⟨plan, hplan, hpaths⟩ : ∃ plan, (addition.write openTable key).plan
        [((addition.write openTable key).mode, (addition.write openTable key).leaves)] = .ok plan ∧
      plan.paths = [[.key "m", .key "x"], [.key "m", .key "y"], [.key "n"]] := ⟨_, rfl, rfl⟩
  obtain ⟨demand, hasked, hholds⟩ :=
    Write.Plans.exists_asked (.inl hplan) rfl fun _ => writesTree_write (.inr rfl)
  have hpresent : (StoreValue.map garbledItem).presentAt plan.paths = [[.key "n"]] := by
    rw [hpaths]
    rfl
  have hfails : ∀ judge, demand.holds judge garbledItem = false := fun judge =>
    Bool.eq_false_iff.2 fun hdemand => by
      have hmissing := ((hholds judge garbledItem).1 hdemand).missing rfl
      rw [hpresent] at hmissing
      cases hmissing
  refine ⟨key, (addition.write openTable key).request plan, "", demand, plan.paths, _, rfl, rfl, rfl,
    ?_, by decide, hasked, hfails, hpresent, rfl⟩
  cases hplan
  rfl

end Change

end Table

end ItemTable
