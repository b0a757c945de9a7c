import ItemTable.Proofs.Condition
import ItemTable.Proofs.Placeholder.Scan

set_option autoImplicit false

/-! # Placeholders of expressions

The placeholders in a reference are those of the names on its path. From this come the placeholders
in the texts of projections, of conditions and guards, and of update plans. -/

namespace ItemTable

open Placeholder

/-! ## References -/

namespace Names

variable (names : Names)

theorem opens_stepText (isFirst : Bool) (step : Step) :
    opens (names.stepText isFirst step) = true := by
  cases step with
  | key name =>
    have hname := (isPlaceholder_name (names.seen.idxOf name)).opens
    cases isFirst with
    | true => exact opens_append rfl hname
    | false => exact opens_append rfl hname
  | position index => exact opens_append (opens_separator_append (by decide) rfl) rfl

theorem placeholdersIn_stepText (isFirst : Bool) (step : Step) :
    placeholdersIn (names.stepText isFirst step) = (step.key?.map names.placeholder).toList := by
  cases step with
  | key name =>
    have hplain : isPlain (if isFirst then "" else ".") = true := by cases isFirst <;> rfl
    rw [stepText, placeholdersIn_append_of_plain hplain]
    exact (isPlaceholder_name _).placeholdersIn
  | position index =>
    refine placeholdersIn_of_plain _ (List.all_eq_true.2 fun c hc => ?_)
    simp only [stepText, String.toList_append, Nat.toList_repr, List.mem_append] at hc
    rcases hc with (hc | hc) | hc
    · obtain rfl : c = '[' := by simpa using hc
      rfl
    · rw [isMark_of_isWordChar (isWordChar_of_mem_toDigits hc)]
      rfl
    · obtain rfl : c = ']' := by simpa using hc
      rfl

theorem opens_rest (rest : Path) :
    ∀ text ∈ rest.map (names.stepText false), opens text = true := by
  intro text htext
  obtain ⟨step, -, rfl⟩ := List.mem_map.1 htext
  exact names.opens_stepText false step

theorem placeholdersIn_rest (rest : Path) :
    (rest.map (names.stepText false)).flatMap placeholdersIn
      = rest.keys.map names.placeholder := by
  induction rest with
  | nil => rfl
  | cons step rest ih =>
    rw [List.map_cons, List.flatMap_cons, ih, placeholdersIn_stepText]
    cases hkey : step.key? <;> simp [Path.keys, hkey]

/-- A reference has the placeholders of the names on its path, in order. -/
theorem placeholdersIn_reference (path : Path) :
    placeholdersIn (names.reference path) = path.keys.map names.placeholder := by
  cases path with
  | nil => rfl
  | cons step rest =>
    rw [reference, placeholdersIn_append (opens_intercalate rfl (names.opens_rest rest)),
      placeholdersIn_concat (names.opens_rest rest), placeholdersIn_rest, placeholdersIn_stepText]
    cases hkey : step.key? <;> simp [Path.keys, hkey]

theorem opens_reference (path : Path) : opens (names.reference path) = true := by
  cases path with
  | nil => rfl
  | cons step rest =>
    exact opens_append (names.opens_stepText true step)
      (opens_intercalate rfl (names.opens_rest rest))

end Names

/-! ## Conditions -/

namespace Test

/-- A test has the placeholders of its subject and of its operands. -/
theorem placeholdersIn_text (test : Test) {subject : String} (h : IsPlaceholder subject)
    (first : Nat) : placeholdersIn (test.text subject first) =
      subject :: (List.range test.operands.length).map fun i =>
        Condition.operandPlaceholder (first + i) := by
  have hoperand (i : Nat) := isPlaceholder_operand i
  cases test with
  | compare comparison value =>
    have hsign : opens comparison.sign = true ∧ isPlain comparison.sign = true := by
      cases comparison <;> exact ⟨rfl, rfl⟩
    rw [text_compare, placeholdersIn_append (hoperand _).opens, placeholdersIn_append rfl,
      placeholdersIn_append hsign.1, placeholdersIn_append rfl, h.placeholdersIn,
      (hoperand _).placeholdersIn, placeholdersIn_of_plain _ hsign.2]
    rfl
  | between low high =>
    rw [text_between, placeholdersIn_append (hoperand _).opens, placeholdersIn_append rfl,
      placeholdersIn_append (hoperand _).opens, placeholdersIn_append rfl, h.placeholdersIn,
      (hoperand _).placeholdersIn, (hoperand _).placeholdersIn]
    rfl
  | beginsWith start =>
    rw [text_beginsWith, placeholdersIn_append rfl, placeholdersIn_append (hoperand _).opens,
      placeholdersIn_append rfl, placeholdersIn_append h.opens, h.placeholdersIn,
      (hoperand _).placeholdersIn]
    rfl
  | contains value =>
    rw [text_contains, placeholdersIn_append rfl, placeholdersIn_append (hoperand _).opens,
      placeholdersIn_append rfl, placeholdersIn_append h.opens, h.placeholdersIn,
      (hoperand _).placeholdersIn]
    rfl
  | among values =>
    have hlist : ∀ text ∈ (List.range values.length).map fun i =>
        Condition.operandPlaceholder (first + i), IsPlaceholder text := by
      intro text htext
      obtain ⟨i, -, rfl⟩ := List.mem_map.1 htext
      exact hoperand _
    rw [text_among, placeholdersIn_append rfl,
      placeholdersIn_append (opens_intercalate rfl fun text htext => (hlist text htext).opens),
      placeholdersIn_append rfl, placeholdersIn_intercalate (by decide) rfl rfl,
      flatMap_placeholdersIn hlist, h.placeholdersIn]
    simp [operands, placeholdersIn_of_plain " IN (" rfl, placeholdersIn_of_plain ")" rfl]
  | present =>
    rw [text_present, placeholdersIn_append rfl, placeholdersIn_append h.opens, h.placeholdersIn]
    rfl
  | absent =>
    rw [text_absent, placeholdersIn_append rfl, placeholdersIn_append h.opens, h.placeholdersIn]
    rfl

end Test

/-- What holds below a sum holds below the first number, or beyond it below the second. -/
theorem exists_lt_add {m n : Nat} {P : Nat → Prop} :
    (∃ i, i < m + n ∧ P i) ↔ (∃ i, i < m ∧ P i) ∨ ∃ i, i < n ∧ P (m + i) := by
  constructor
  · rintro ⟨i, hi, h⟩
    by_cases hm : i < m
    · exact .inl ⟨i, hm, h⟩
    · exact .inr ⟨i - m, by omega, by rwa [Nat.add_sub_cancel' (Nat.not_lt.1 hm)]⟩
  · rintro (⟨i, hi, h⟩ | ⟨i, hi, h⟩)
    · exact ⟨i, by omega, h⟩
    · exact ⟨m + i, by omega, h⟩

namespace Condition

variable {token : String}

/-- Tests have the placeholders of their subjects and of their operands, numbered on. -/
theorem mem_placeholdersIn_texts (attributes : List String) (first : Nat) (tests : Condition) :
    token ∈ (texts attributes first tests).flatMap placeholdersIn ↔
      (∃ t ∈ tests, token = attributePlaceholder (attributes.idxOf t.subject)) ∨
        ∃ i, i < (tests.flatMap (·.test.operands)).length ∧
          token = operandPlaceholder (first + i) := by
  induction tests generalizing first with
  | nil => simp [texts]
  | cons t rest ih =>
    rw [texts, List.flatMap_cons, List.mem_append, ih, List.flatMap_cons, List.length_append,
      exists_lt_add, t.test.placeholdersIn_text (isPlaceholder_attribute _)]
    simp only [List.mem_cons, List.mem_map, List.mem_range, exists_eq_or_imp, Nat.add_assoc,
      eq_comm (a := token)]
    grind

/-- A compiled condition has the placeholders that its names and its values are listed under. -/
theorem mem_placeholdersIn_compile (tests : Condition) :
    token ∈ placeholdersIn (compile tests).text ↔
      token ∈ (compile tests).names.names ∨ token ∈ (compile tests).values.names := by
  have htext : placeholdersIn (compile tests).text
      = (texts (attributes tests) 0 tests).flatMap placeholdersIn :=
    placeholdersIn_intercalate (by decide) rfl rfl _
  have hattributes : (∃ t ∈ tests,
      token = attributePlaceholder ((attributes tests).idxOf t.subject)) ↔
        ∃ i, i < (attributes tests).length ∧ token = attributePlaceholder i := by
    constructor
    · rintro ⟨t, ht, rfl⟩
      have hmem : t.subject ∈ attributes tests := mem_distinct.2 (List.mem_map_of_mem ht)
      exact ⟨_, List.idxOf_lt_length_of_mem hmem, rfl⟩
    · rintro ⟨i, hi, rfl⟩
      obtain ⟨t, ht, hsubject⟩ := List.mem_map.1 (mem_distinct.1 (List.getElem_mem hi))
      have hnodup : (attributes tests).Nodup := nodup_distinct _
      exact ⟨t, ht, by rw [hsubject, hnodup.idxOf_getElem]⟩
  rw [htext, mem_placeholdersIn_texts, hattributes, names_compile, names_values_compile]
  simp [eq_comm]

/-- Guards have the placeholders of the names on their paths. -/
theorem mem_placeholdersIn_guardTexts (existing missing : List Path) (names : Names) :
    token ∈ (guardTexts existing missing names).flatMap placeholdersIn ↔
      ∃ name ∈ Names.onPaths (existing ++ missing), token = names.placeholder name := by
  have hguard (path : Path) :
      placeholdersIn ("attribute_exists(" ++ names.reference path ++ ")")
          = path.keys.map names.placeholder ∧
        placeholdersIn ("attribute_not_exists(" ++ names.reference path ++ ")")
          = path.keys.map names.placeholder := by
    have hreference := names.placeholdersIn_reference path
    constructor <;>
      rw [placeholdersIn_append rfl, placeholdersIn_append (names.opens_reference path), hreference,
        placeholdersIn_of_plain _ rfl, placeholdersIn_of_plain ")" rfl, List.nil_append,
        List.append_nil]
  simp only [guardTexts, Names.onPaths, List.flatMap_append, List.flatMap_map, hguard,
    List.mem_append, List.mem_flatMap, List.mem_map]
  grind

end Condition

end ItemTable
