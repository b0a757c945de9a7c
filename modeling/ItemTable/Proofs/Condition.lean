import ItemTable.Proofs.Placeholder.Names
import ItemTable.Update

set_option autoImplicit false

/-! # Compiled conditions

The expression of a condition has a text, and its names and values join those of an update without
writing over any. So an expression with at least one guard is the conjunction of the guards and the
caller's condition. -/

namespace ItemTable

theorem intercalate_ne_empty {separator first : String} (h : first ≠ "") (rest : List String) :
    separator.intercalate (first :: rest) ≠ "" := by
  cases rest with
  | nil => simpa using h
  | cons second rest => simp [String.intercalate_cons_cons, h]

namespace Test

open Condition (operandPlaceholder)

variable (subject : String) (first : Nat)

theorem text_compare (comparison : Comparison) (value : Json) :
    (compare comparison value).text subject first
      = subject ++ " " ++ comparison.sign ++ " " ++ operandPlaceholder first := rfl

theorem text_between (low high : Json) : (between low high).text subject first
    = subject ++ " BETWEEN " ++ operandPlaceholder first ++ " AND "
      ++ operandPlaceholder (first + 1) := rfl

theorem text_beginsWith (start : String) : (beginsWith start).text subject first
    = "begins_with(" ++ subject ++ ", " ++ operandPlaceholder first ++ ")" := rfl

theorem text_contains (value : Json) : (contains value).text subject first
    = "contains(" ++ subject ++ ", " ++ operandPlaceholder first ++ ")" := rfl

theorem text_among (values : List Json) : (among values).text subject first
    = subject ++ " IN (" ++ ", ".intercalate
        ((List.range values.length).map fun i => operandPlaceholder (first + i)) ++ ")" := rfl

theorem text_present :
    present.text subject first = "attribute_exists(" ++ subject ++ ")" := rfl

theorem text_absent :
    absent.text subject first = "attribute_not_exists(" ++ subject ++ ")" := rfl

theorem text_ne_empty (test : Test) : test.text subject first ≠ "" := by
  cases test with
  | compare comparison value =>
    rw [text_compare]
    simp
  | between low high =>
    rw [text_between]
    simp
  | beginsWith start =>
    rw [text_beginsWith]
    simp
  | contains value =>
    rw [text_contains]
    simp
  | among values =>
    rw [text_among]
    simp
  | present =>
    rw [text_present]
    simp
  | absent =>
    rw [text_absent]
    simp

end Test

namespace Condition

variable {tests : Condition}

theorem text_compile_ne_empty (h : tests ≠ []) : (compile tests).text ≠ "" := by
  cases tests with
  | nil => exact absurd rfl h
  | cons t rest => exact intercalate_ne_empty (t.test.text_ne_empty _ _) _

theorem names_compile (tests : Condition) : (compile tests).names.names
    = (List.range (attributes tests).length).map attributePlaceholder :=
  Record.names_numbered _ _

theorem names_values_compile (tests : Condition) : (compile tests).values.names
    = (List.range (tests.flatMap (·.test.operands)).length).map operandPlaceholder :=
  Record.names_numbered operandPlaceholder _

theorem nodup_names_compile (tests : Condition) : (compile tests).names.names.Nodup :=
  Record.nodup_names_numbered fun _ _ => attributePlaceholder_inj

theorem nodup_values_compile (tests : Condition) : (compile tests).values.names.Nodup :=
  Record.nodup_names_numbered (f := operandPlaceholder) fun _ _ => operandPlaceholder_inj

theorem attributes_ne_nil (h : tests ≠ []) : attributes tests ≠ [] := by
  obtain ⟨t, rest, rfl⟩ := List.exists_cons_of_ne_nil h
  exact List.ne_nil_of_mem (mem_distinct.2 (.head _))

/-- The names of a condition are none of the table of names that were seen. -/
theorem disjoint_names_compile (names : Names) (tests : Condition) :
    ∀ name ∈ (compile tests).names.names, name ∉ names.table.names := by
  intro name hname htable
  rw [names_compile, List.mem_map] at hname
  rw [Names.names_table, List.mem_map] at htable
  obtain ⟨i, -, rfl⟩ := hname
  obtain ⟨j, -, heq⟩ := htable
  exact name_ne_attributePlaceholder j i heq

/-- The values of a condition are under other placeholders than those of an update. -/
theorem disjoint_values_compile (plan : UpdatePlan) (tests : Condition) :
    ∀ name ∈ (compile tests).values.names, name ∉ plan.values.names := by
  intro name hname htable
  rw [names_values_compile, List.mem_map] at hname
  rw [UpdatePlan.values, Record.names_numbered, List.mem_map] at htable
  obtain ⟨i, -, rfl⟩ := hname
  obtain ⟨j, -, heq⟩ := htable
  exact value_ne_operandPlaceholder j i heq

theorem merge_names_compile (names : Names) (tests : Condition) :
    names.table.merge (compile tests).names = names.table ++ (compile tests).names :=
  Record.merge_eq_append (nodup_names_compile tests) (disjoint_names_compile names tests)

theorem merge_values_compile (plan : UpdatePlan) (tests : Condition) :
    plan.values.merge (compile tests).values = plan.values ++ (compile tests).values :=
  Record.merge_eq_append (nodup_values_compile tests) (disjoint_values_compile plan tests)

/-- A projection adds its names to those of a condition and writes over none. -/
theorem merge_names_projection (tests : Condition) (paths : List Path) :
    (compile tests).names.merge (Expression.projection paths).names
      = (compile tests).names ++ (Expression.projection paths).names := by
  refine Record.merge_eq_append (Names.nodup_names_table _) fun name htable hname => ?_
  exact disjoint_names_compile _ tests name hname htable

/-! ## Guards -/

/-- The texts of guards, those of paths that have to exist first. -/
def guardTexts (existing missing : List Path) (names : Names) : List String :=
  existing.map (fun path => "attribute_exists(" ++ names.reference path ++ ")")
    ++ missing.map (fun path => "attribute_not_exists(" ++ names.reference path ++ ")")

theorem guardTexts_ne_empty {existing missing : List Path} {names : Names} :
    ∀ text ∈ guardTexts existing missing names, text ≠ "" := by
  intro text htext
  rcases List.mem_append.1 htext with htext | htext <;>
    · obtain ⟨path, -, rfl⟩ := List.mem_map.1 htext
      simp

/-- A text joined to a conjunction is one more part of it. -/
theorem joinTexts_conjunction {texts : List String} {text : String} (htexts : texts ≠ [])
    (hnonempty : ∀ t ∈ texts, t ≠ "") (htext : text ≠ "") :
    Expression.joinTexts conjunction (conjunction.intercalate texts) text
      = conjunction.intercalate (texts ++ [text]) := by
  obtain ⟨first, rest, rfl⟩ := List.exists_cons_of_ne_nil htexts
  have hfirst : conjunction.intercalate (first :: rest) ≠ "" :=
    intercalate_ne_empty (hnonempty first (.head _)) rest
  rw [Expression.joinTexts, if_neg hfirst, if_neg htext,
    String.intercalate_append_of_ne_nil htexts (List.cons_ne_nil _ _), String.intercalate_singleton]

/-- Guards and the caller's condition make the conjunction of all of them. -/
theorem guarded_eq {existing missing : List Path} (names : Names) (condition : Option Condition)
    (hguards : guardTexts existing missing names ≠ []) :
    guarded existing missing names (condition.bind compile?) = some
      { text := conjunction.intercalate (guardTexts existing missing names
          ++ ((condition.bind compile?).map (·.text)).toList)
        names := ((condition.bind compile?).map (·.names)).getD []
        values := ((condition.bind compile?).map (·.values)).getD [] } := by
  have htexts : ∀ text ∈ guardTexts existing missing names, text ≠ "" := guardTexts_ne_empty
  have hguarded (direct : Option Expression) : guarded existing missing names direct =
      let whole := Expression.join conjunction
        (.ofText (conjunction.intercalate (guardTexts existing missing names)))
        (direct.getD (.ofText ""))
      if whole.text = "" then none else some whole := rfl
  obtain ⟨first, rest, hcons⟩ := List.exists_cons_of_ne_nil hguards
  have hfirst : first ≠ "" := htexts first (hcons ▸ .head _)
  have hintercalate : conjunction.intercalate (guardTexts existing missing names) ≠ "" := by
    rw [hcons]
    exact intercalate_ne_empty hfirst rest
  rw [hguarded]
  -- a condition without tests compiles to nothing, and the guards stand alone
  by_cases hdirect : ∃ tests, condition = some tests ∧ tests ≠ []
  · obtain ⟨tests, rfl, htests⟩ := hdirect
    have hcompile : (some tests).bind compile? = some (compile tests) := by
      simp [compile?, htests]
    simp only [hcompile, Option.getD_some, Option.map_some, Option.toList_some, Expression.join,
      Expression.ofText, joinTexts_conjunction hguards htexts (text_compile_ne_empty htests)]
    rw [if_neg, Record.merge_eq_append (nodup_names_compile tests) (by simp [Record.names]),
      Record.merge_eq_append (nodup_values_compile tests) (by simp [Record.names])]
    · rfl
    · rw [hcons]
      exact intercalate_ne_empty hfirst _
  · have hcompile : condition.bind compile? = none := by
      cases condition with
      | none => rfl
      | some tests =>
        have hnil : tests = [] := by simpa using hdirect
        simp [compile?, hnil]
    simp [hcompile, Expression.join, Expression.joinTexts, Expression.ofText, hintercalate,
      Record.merge]

end Condition

end ItemTable
