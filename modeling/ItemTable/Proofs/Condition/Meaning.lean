import ItemTable.Proofs.Condition.ReadBack
import ItemTable.Proofs.Placeholder.Expressions
import ItemTable.Query

set_option autoImplicit false

/-! # What conditions say

The expression of a condition, read by the grammar of conditions and with its placeholders looked
up, is the conjunction of the condition's tests in their order. The condition of a query says the
same of its tests. Equal attributes share a placeholder, and placeholders are numbered in the order
in which they come (`Condition.says_tests`). -/

namespace ItemTable

open Condition (attributePlaceholder operandPlaceholder attributePlaceholder_inj
  operandPlaceholder_inj)
open ConditionGrammar (Spells)

/-! ## Conjunctions -/

namespace Formula

variable {α : Type}

theorem operands_of_conjunction {formulas : List (Formula α)} {formula : Formula α}
    (h : conjunction formulas = some formula) :
    formula.operands = formulas.flatMap (·.operands) := by
  induction formulas generalizing formula with
  | nil => cases h
  | cons first rest ih =>
    cases rest with
    | nil =>
      cases h
      exact (List.flatMap_singleton _ _).symm
    | cons second rest =>
      obtain ⟨tail, htail, rfl⟩ := Option.map_eq_some_iff.1 h
      rw [operands, ih htail]
      rfl

theorem names_of_conjunction {formulas : List (Formula α)} {formula : Formula α}
    (h : conjunction formulas = some formula) : formula.names = formulas.flatMap (·.names) := by
  simp only [names, Names.onPaths, operands_of_conjunction h, List.filterMap_flatMap,
    List.flatMap_assoc]

theorem values_of_conjunction {formulas : List (Formula α)} {formula : Formula α}
    (h : conjunction formulas = some formula) : formula.values = formulas.flatMap (·.values) := by
  simp only [values, operands_of_conjunction h, List.filterMap_flatMap]

/-- A conjunction means the conjunction of what its parts mean. -/
theorem meaning?_conjunction {names : Record String} {values : Item}
    {written : List (Formula String)} {meant : List (Formula StoreValue)}
    (h : List.Forall₂ (fun w m => w.meaning? names values = some m) written meant)
    {formula : Formula String} (hformula : conjunction written = some formula) :
    ∃ whole, conjunction meant = some whole ∧ formula.meaning? names values = some whole := by
  induction h generalizing formula with
  | nil => cases hformula
  | @cons w m written meant hfirst hrest ih =>
    cases hrest with
    | nil =>
      cases hformula
      exact ⟨m, rfl, hfirst⟩
    | @cons w' m' written meant hsecond hmore =>
      obtain ⟨tail, htail, rfl⟩ := Option.map_eq_some_iff.1 hformula
      obtain ⟨whole, hwhole, hmeaning⟩ := ih htail
      refine ⟨.both m whole, congrArg (Option.map (Formula.both m)) hwhole, ?_⟩
      simp [meaning?, hfirst, hmeaning]

end Formula

/-! ## Tests -/

namespace Test

theorem names_spelled (test : Test) (name : String) (first : Nat) :
    (test.spelled name first).names = [name] := by
  cases test with
  | among values =>
    simp [spelled, Formula.names, Formula.operands, Operand.reference?, Names.onPaths, Path.keys,
      Step.key?]
  | _ => rfl

/-- The values of a test are the placeholders of its operands, in order. -/
theorem values_spelled (test : Test) (name : String) (first : Nat) :
    (test.spelled name first).values
      = (List.range' first test.operands.length).map operandPlaceholder := by
  cases test with
  | among values =>
    have hvalues : ((List.range values.length).map fun i =>
        Operand.constant (operandPlaceholder (first + i))).filterMap (·.value?)
          = (List.range values.length).map fun i => operandPlaceholder (first + i) := by
      simp [List.filterMap_map, Operand.value?]
    simp only [spelled, Formula.values, Formula.operands, List.filterMap_cons, Operand.value?,
      operands, List.length_map, List.range'_eq_map_range, List.map_map]
    exact hvalues
  | _ => rfl

end Test

/-- Placeholders of values that are listed mean the values. -/
theorem Operand.mapM_meaning? {names : Record String} {values : Item} {first : Nat}
    {operands : List StoreValue}
    (h : ∀ i v, operands[i]? = some v → values.get? (operandPlaceholder (first + i)) = some v) :
    ((List.range operands.length).map fun i =>
        Operand.constant (operandPlaceholder (first + i))).mapM (·.meaning? names values)
      = some (operands.map .constant) := by
  induction operands generalizing first with
  | nil => rfl
  | cons v rest ih =>
    have hfirst : values.get? (operandPlaceholder first) = some v := h 0 v rfl
    have hrest : ∀ i v, rest[i]? = some v →
        values.get? (operandPlaceholder (first + 1 + i)) = some v := fun i v hv => by
      rw [Nat.add_right_comm]
      exact h (i + 1) v hv
    have hnumbers : ((List.range rest.length).map Nat.succ).map
          (fun i => Operand.constant (operandPlaceholder (first + i)))
        = (List.range rest.length).map
          fun i => Operand.constant (operandPlaceholder (first + 1 + i)) := by
      simp [Nat.add_right_comm, Nat.add_assoc]
    rw [List.length_cons, List.range_succ_eq_map, List.map_cons, hnumbers, List.mapM_cons,
      ih hrest]
    simp [Operand.meaning?, hfirst]

/-- A test, read back, asks what it asks of its attribute, if the attribute and the operands are
listed under their placeholders. -/
theorem AttributeTest.meaning?_spelled {names : Record String} {values : Item}
    {placeholder : String} {first : Nat} (t : AttributeTest)
    (hname : names.get? placeholder = some t.subject)
    (hvalues : ∀ i v, t.test.operands[i]? = some v →
      values.get? (operandPlaceholder (first + i)) = some v) :
    (t.test.spelled placeholder first).meaning? names values = some t.formula := by
  obtain ⟨subject, test⟩ := t
  have hpath : UpdateGrammar.path? names [.key placeholder] = some [.key subject] := by
    simp [UpdateGrammar.path?, hname]
  cases test with
  | compare comparison value =>
    have hvalue : values.get? (operandPlaceholder first) = some (.ofJson value) := hvalues 0 _ rfl
    simp [Test.spelled, Formula.meaning?, Operand.meaning?, hpath, hvalue, formula]
  | between low high =>
    have hlow : values.get? (operandPlaceholder first) = some (.ofJson low) := hvalues 0 _ rfl
    have hhigh : values.get? (operandPlaceholder (first + 1)) = some (.ofJson high) :=
      hvalues 1 _ rfl
    simp [Test.spelled, Formula.meaning?, Operand.meaning?, hpath, hlow, hhigh, formula]
  | beginsWith start =>
    have hvalue : values.get? (operandPlaceholder first) = some (.string start) := hvalues 0 _ rfl
    simp [Test.spelled, Formula.meaning?, Operand.meaning?, hpath, hvalue, formula]
  | contains value =>
    have hvalue : values.get? (operandPlaceholder first) = some (.ofJson value) := hvalues 0 _ rfl
    simp [Test.spelled, Formula.meaning?, Operand.meaning?, hpath, hvalue, formula]
  | among among =>
    have hsubject : (Operand.reference [.key placeholder]).meaning? names values
        = some (.reference [.key subject]) := by
      simp [Operand.meaning?, hpath]
    have hamong : ((List.range among.length).map fun i =>
        Operand.constant (operandPlaceholder (first + i))).mapM (·.meaning? names values)
          = some (among.map fun value => .constant (.ofJson value)) := by
      have hoperands : ((List.range (among.map StoreValue.ofJson).length).map fun i =>
          Operand.constant (operandPlaceholder (first + i))).mapM (·.meaning? names values)
            = some ((among.map StoreValue.ofJson).map .constant) :=
        Operand.mapM_meaning? hvalues
      rwa [List.length_map, List.map_map] at hoperands
    simp only [Test.spelled, Formula.meaning?, hsubject, hamong, Option.bind_eq_bind,
      Option.bind_some, formula]
  | present => simp [Test.spelled, Formula.meaning?, hpath, formula]
  | absent => simp [Test.spelled, Formula.meaning?, hpath, formula]

/-! ## Conditions -/

namespace Condition

/-- The tests as they are written, their operands numbered from `first`. -/
def spelled (attributes : List String) : Nat → Condition → List (Formula String)
  | _, [] => []
  | first, t :: rest =>
    t.test.spelled (attributePlaceholder (attributes.idxOf t.subject)) first
      :: spelled attributes (first + t.test.operands.length) rest

theorem spells_texts (attributes : List String) (first : Nat) (tests : Condition) :
    List.Forall₂ Spells (texts attributes first tests) (spelled attributes first tests) := by
  induction tests generalizing first with
  | nil => exact .nil
  | cons t rest ih => exact .cons (ConditionGrammar.spells_test t.test _ first) (ih _)

theorem names_spelled (attributes : List String) (first : Nat) (tests : Condition) :
    (spelled attributes first tests).flatMap (·.names)
      = tests.map fun t => attributePlaceholder (attributes.idxOf t.subject) := by
  induction tests generalizing first with
  | nil => rfl
  | cons t rest ih =>
    rw [spelled, List.flatMap_cons, ih, t.test.names_spelled]
    rfl

theorem values_spelled (attributes : List String) (first : Nat) (tests : Condition) :
    (spelled attributes first tests).flatMap (·.values)
      = (List.range' first (tests.flatMap (·.test.operands)).length).map operandPlaceholder := by
  induction tests generalizing first with
  | nil => rfl
  | cons t rest ih =>
    rw [spelled, List.flatMap_cons, ih, t.test.values_spelled, List.flatMap_cons,
      List.length_append, ← List.range'_append_1, List.map_append]

/-- Tests, read back, ask what they ask of their attributes. -/
theorem meaning?_spelled {names : Record String} {values : Item} {attributes : List String}
    {first : Nat} {tests : Condition}
    (hnames : ∀ t ∈ tests,
      names.get? (attributePlaceholder (attributes.idxOf t.subject)) = some t.subject)
    (hvalues : ∀ i v, (tests.flatMap (·.test.operands))[i]? = some v →
      values.get? (operandPlaceholder (first + i)) = some v) :
    List.Forall₂ (fun w m => w.meaning? names values = some m) (spelled attributes first tests)
      (tests.map (·.formula)) := by
  induction tests generalizing first with
  | nil => exact .nil
  | cons t rest ih =>
    obtain ⟨hname, hnames⟩ := List.forall_mem_cons.1 hnames
    have hvalue : ∀ i v, t.test.operands[i]? = some v →
        values.get? (operandPlaceholder (first + i)) = some v := fun i v hv => hvalues i v (by
      rw [List.flatMap_cons, List.getElem?_append_left (List.getElem?_eq_some_iff.1 hv).1, hv])
    refine .cons (t.meaning?_spelled hname hvalue) (ih hnames fun i v hv => ?_)
    rw [Nat.add_assoc]
    exact hvalues (t.test.operands.length + i) v (by
      rw [List.flatMap_cons, List.getElem?_append_right (Nat.le_add_right _ _),
        Nat.add_sub_cancel_left, hv])

/-- What a text says, read by the grammar of conditions as `written` and with its placeholders
looked up, is the conjunction of some tests in their order. -/
structure Says (tests : Condition) (text : String) (names : Record String) (values : Item)
    (written : Formula String) : Prop where
  read : ConditionGrammar.read text = some written
  meaning : ∃ meant, Formula.conjunction (tests.map (·.formula)) = some meant ∧
    written.meaning? names values = some meant
  /-- Tests share a placeholder exactly if they are of one attribute. -/
  shared : ∀ i j : Nat, written.names[i]? = written.names[j]? ↔
    (tests.map (·.subject))[i]? = (tests.map (·.subject))[j]?
  /-- The first placeholder is `#n0`, and a new one is always the next. -/
  attributes : distinct written.names
    = (List.range (distinct (tests.map (·.subject))).length).map attributePlaceholder
  /-- The placeholders of the operands are `:v0`, `:v1` and so on. -/
  operands : written.values
    = (List.range (tests.flatMap (·.test.operands)).length).map operandPlaceholder

/-- A condition in whose names and values the tests' attributes and operands are listed under their
placeholders says the tests. -/
theorem says_compile {tests : Condition} (htests : tests ≠ []) {names : Record String}
    {values : Item}
    (hnames : ∀ placeholder name, (compile tests).names.get? placeholder = some name →
      names.get? placeholder = some name)
    (hvalues : ∀ placeholder v, (compile tests).values.get? placeholder = some v →
      values.get? placeholder = some v) :
    ∃ written, tests.Says (compile tests).text names values written := by
  have hspells := spells_texts (Condition.attributes tests) 0 tests
  have htexts : texts (Condition.attributes tests) 0 tests ≠ [] := by
    obtain ⟨t, rest, rfl⟩ := List.exists_cons_of_ne_nil htests
    exact List.cons_ne_nil _ _
  obtain ⟨written, hwritten, hread⟩ := ConditionGrammar.read_conjunction hspells htexts
  have hname : ∀ t ∈ tests, names.get?
      (attributePlaceholder ((Condition.attributes tests).idxOf t.subject)) = some t.subject := by
    intro t ht
    have hmem : t.subject ∈ Condition.attributes tests := mem_distinct.2 (List.mem_map_of_mem ht)
    have hlt := List.idxOf_lt_length_of_mem hmem
    exact hnames _ _ (Record.get?_numbered (fun _ _ => attributePlaceholder_inj)
      (List.getElem?_eq_some_iff.2 ⟨hlt, List.getElem_idxOf hlt⟩))
  have hvalue : ∀ i v, (tests.flatMap (·.test.operands))[i]? = some v →
      values.get? (operandPlaceholder (0 + i)) = some v := by
    intro i v hv
    rw [Nat.zero_add]
    exact hvalues _ _ (Record.get?_numbered (fun _ _ => operandPlaceholder_inj) hv)
  obtain ⟨meant, hmeant, hmeaning⟩ :=
    Formula.meaning?_conjunction (meaning?_spelled hname hvalue) hwritten
  -- the place of an attribute among the distinct ones tells it from the others
  let place (subject : String) : String :=
    attributePlaceholder ((Condition.attributes tests).idxOf subject)
  have hplace : ∀ x ∈ tests.map (·.subject), ∀ y ∈ tests.map (·.subject),
      place x = place y → x = y := by
    intro x hx y _ heq
    exact (List.idxOf_inj (mem_distinct.2 hx)).1 (attributePlaceholder_inj heq)
  have hwrittenNames : written.names = (tests.map (·.subject)).map place := by
    rw [Formula.names_of_conjunction hwritten, names_spelled, List.map_map]
    rfl
  refine ⟨written, hread, ⟨meant, hmeant, hmeaning⟩, fun i j => ?_, ?_, ?_⟩
  · rw [hwrittenNames]
    exact getElem?_map_eq_iff hplace i j
  · rw [hwrittenNames, distinct_map hplace]
    refine List.ext_getElem (by simp) fun i hi _ => ?_
    have hnodup : (distinct (tests.map (·.subject))).Nodup := nodup_distinct _
    simp only [List.getElem_map, List.getElem_range, place]
    exact congrArg attributePlaceholder (hnodup.idxOf_getElem i (by simpa using hi))
  · rw [Formula.values_of_conjunction hwritten, values_spelled, List.range_eq_range']

/-- What holds of a query's key attributes is an equality of the partition's and, if the query
narrows the partition, the test of the sort attribute. -/
theorem condition?_eq_some {query : Query} {shape : KeyShape} {tests : Condition}
    (h : query.condition? shape = some tests) :
    (query.sort = none ∧ tests = [⟨shape.hash, .compare .eq query.partition⟩]) ∨
      ∃ test name, query.sort = some test ∧ shape.sort? = some name ∧
        tests = [⟨shape.hash, .compare .eq query.partition⟩, ⟨name, test⟩] := by
  unfold Query.condition? at h
  split at h
  · rename_i hsort
    exact .inl ⟨hsort, (Option.some.inj h).symm⟩
  · rename_i test name hsort hname
    exact .inr ⟨test, name, hsort, hname, (Option.some.inj h).symm⟩
  · cases h

/-- A query's request has the condition on the key attributes, with its names and values among the
request's. -/
theorem request_eq_ok {query : Query} {shape : KeyShape} {table physicalName : String}
    {request : QueryRequest} (h : query.request shape table physicalName = .ok request) :
    ∃ tests, query.condition? shape = some tests ∧ request.condition = (compile tests).text ∧
      request.values = (compile tests).values ∧
      ∃ more, request.names = (compile tests).names ++ more := by
  unfold Query.request at h
  split at h
  · cases h
  · rename_i tests hcondition
    refine ⟨tests, hcondition, ?_⟩
    by_cases hempty : query.projection.isEmpty = true
    · have hexpressions : query.expressions tests = (compile tests, none) := by
        rw [Query.expressions, if_pos hempty]
      rw [hexpressions] at h
      cases h
      exact ⟨rfl, rfl, [], (List.append_nil _).symm⟩
    · have hexpressions : query.expressions tests = ({ compile tests with
            names := (compile tests).names.merge (Expression.projection query.projection).names },
          some (Expression.projection query.projection)) := by
        rw [Query.expressions, if_neg hempty]
      rw [hexpressions] at h
      cases h
      exact ⟨rfl, rfl, _, merge_names_projection tests query.projection⟩

/-- The condition of a query's request says the tests of the key attributes. -/
theorem says_request {query : Query} {shape : KeyShape} {table physicalName : String}
    {request : QueryRequest} (h : query.request shape table physicalName = .ok request) :
    ∃ tests, query.condition? shape = some tests ∧
      ∃ written, Says tests request.condition request.names request.values written := by
  obtain ⟨tests, hcondition, htext, hvalues, more, hnames⟩ := request_eq_ok h
  have htests : tests ≠ [] := by
    rcases condition?_eq_some hcondition with ⟨-, rfl⟩ | ⟨test, name, -, -, rfl⟩ <;> simp
  refine ⟨tests, hcondition, ?_⟩
  rw [htext, hvalues, hnames]
  refine says_compile htests (fun placeholder name hname => ?_) fun _ _ => id
  rw [Record.get?_append, hname, Option.some_or]

/-- The expression of a condition that tests something says its tests, through names and values
that are its placeholders' and no others. The condition of a query says that the partition's
attribute is as asked and then what the query asks of the sort attribute. -/
theorem says_tests :
    (∀ tests : Condition, tests ≠ [] →
      ∃ expression, compile? tests = some expression ∧
        ∃ written, tests.Says expression.text expression.names expression.values written ∧
          expression.names.names = distinct written.names ∧
          expression.values.names = written.values) ∧
    ∀ (query : Query) (shape : KeyShape) (table physicalName : String) (request : QueryRequest),
      query.request shape table physicalName = .ok request →
      ∃ onSort : Condition,
        (query.sort = none ∧ onSort = [] ∨
          ∃ test name, query.sort = some test ∧ shape.sort? = some name ∧
            onSort = [⟨name, test⟩]) ∧
        ∃ written, Says (⟨shape.hash, .compare .eq query.partition⟩ :: onSort)
          request.condition request.names request.values written := by
  constructor
  · intro tests htests
    have hcompile : compile? tests = some (compile tests) := by
      simp [compile?, htests]
    obtain ⟨written, hsays⟩ := says_compile htests (fun _ _ => id) fun _ _ => id
    refine ⟨_, hcompile, written, hsays, ?_, ?_⟩
    · rw [names_compile, hsays.attributes]
      rfl
    · rw [names_values_compile, hsays.operands]
  · intro query shape table physicalName request h
    obtain ⟨tests, hcondition, written, hsays⟩ := says_request h
    rcases condition?_eq_some hcondition with ⟨hsort, rfl⟩ | ⟨test, name, hsort, hname, rfl⟩
    · exact ⟨[], .inl ⟨hsort, rfl⟩, written, hsays⟩
    · exact ⟨[⟨name, test⟩], .inr ⟨test, name, hsort, hname, rfl⟩, written, hsays⟩

/-- Tests of two attributes, one of them tested again, with a range and with no value to be among.
-/
def mixedTests : Condition :=
  [⟨"a", .between (.string "k") (.string "m")⟩, ⟨"b", .among []⟩,
    ⟨"a", .compare .ne (.string "l")⟩, ⟨"c", .absent⟩]

/-- A query for a part of a partition that returns one attribute. -/
def prefixQuery : Query where
  index := none
  partition := .string "p"
  sort := some (.beginsWith "s")
  projection := [[.key "c"]]
  start := none
  limit := none
  forward := none

theorem says_tests_mixedTests :
    mixedTests ≠ [] ∧
      (∃ expression, compile? mixedTests = some expression ∧
        ∃ written, mixedTests.Says expression.text expression.names expression.values written ∧
          expression.names.names = distinct written.names ∧
          expression.values.names = written.values) ∧
      ∃ request, prefixQuery.request (.composite "a" "b") "t" "tables-t" = .ok request ∧
        ∃ onSort : Condition,
          (prefixQuery.sort = none ∧ onSort = [] ∨
            ∃ test name, prefixQuery.sort = some test ∧
              (KeyShape.composite "a" "b").sort? = some name ∧ onSort = [⟨name, test⟩]) ∧
          ∃ written, Says (⟨"a", .compare .eq prefixQuery.partition⟩ :: onSort)
            request.condition request.names request.values written := by
  have htests : mixedTests ≠ [] := List.cons_ne_nil _ _
  exact ⟨htests, says_tests.1 mixedTests htests, _, rfl, says_tests.2 prefixQuery _ "t" _ _ rfl⟩

example : (compile mixedTests).text
    = "#n0 BETWEEN :v0 AND :v1 and #n1 IN () and #n0 <> :v2 and attribute_not_exists(#n2)" := by
  decide +kernel

end Condition

end ItemTable
