import ItemTable.Proofs.Draft7.Comes
import ItemTable.Proofs.Draft7.Required

set_option autoImplicit false

/-! # Where a check comes to

`Draft7.Leads` strings together steps that a check takes in any case, so what a schema at the end
refuses breaks the document (`Draft7.Leads.violations_ne_nil`), and what breaks nothing is of the
type that is named there (`Draft7.Leads.isOfType`). -/

namespace ItemTable

namespace Draft7

section

variable {library : Library} {root schema schema' value part : Json} {scope there : Scope}
  {steps steps' : Path} {words : List String}

/-! ## Steps that are taken in any case -/

/-- A check comes in any case from a schema and a value to another schema and a part of the value.
-/
inductive Leads (library : Library) (root : Json) :
    Scope → Json → Json → Path → Scope → Json → Json → Prop
  | here (scope : Scope) (schema value : Json) :
    Leads library root scope schema value [] scope schema value
  | onward {scope there last : Scope} {schema value schema' part schema'' part' : Json}
    {steps steps' : Path} {words : List String}
    (hpasses : Passes library root scope schema value .always steps words there schema' part)
    (h : Leads library root there schema' part steps' last schema'' part') :
    Leads library root scope schema value (steps ++ steps') last schema'' part'

theorem Leads.trans {last : Scope} {schema'' part' : Json}
    (h : Leads library root scope schema value steps there schema' part)
    (h' : Leads library root there schema' part steps' last schema'' part') :
    Leads library root scope schema value (steps ++ steps') last schema'' part' := by
  induction h with
  | here => exact h'
  | onward hpasses _ ih =>
    rw [List.append_assoc]
    exact .onward hpasses (ih h')

theorem Leads.of_passes
    (h : Passes library root scope schema value .always steps words there schema' part) :
    Leads library root scope schema value steps there schema' part := by
  have hleads := Leads.onward h (.here there schema' part)
  rwa [List.append_nil] at hleads

theorem Leads.comes (h : Leads library root scope schema value steps there schema' part)
    (hcomes : Comes library root scope schema) : Comes library root there schema' := by
  induction h with
  | here => exact hcomes
  | onward hpasses _ ih => exact ih (hcomes.passes hpasses)

/-- What is refused at the end is refused at the beginning. -/
theorem Leads.refused (h : Leads library root scope schema value steps there schema' part)
    (hrefused : ∀ room, Refused library root room there schema' part) (room : Nat) :
    Refused library root room scope schema value := by
  induction h generalizing room with
  | here => exact hrefused room
  | onward hpasses _ ih =>
    exact refused_of_succ (fun room => (ih hrefused room).of_passes hpasses) room

/-- What is refused at the end breaks the document. -/
theorem Leads.violations_ne_nil
    (h : Leads library root (library.outermost root) root value steps there schema' part)
    (hrefused : ∀ room, Refused library root room there schema' part) :
    violations library root value ≠ [] := by
  obtain ⟨v, hv⟩ := h.refused hrefused library.room .root
  exact List.ne_nil_of_mem hv

/-! ## Types at the end -/

theorem isOfType_string_iff {dialect : Dialect} :
    isOfType dialect value "string" = true ↔ ∃ text, value = .string text := by
  cases value <;> simp [isOfType]

theorem isOfType_number_iff {dialect : Dialect} :
    isOfType dialect value "number" = true ↔ ∃ n, value = .number n := by
  cases value <;> simp [isOfType]

/-- All types but `integer` are the same in all dialects. -/
theorem isOfType_eq_seven (dialect : Dialect) {name : String} (hname : name ≠ "integer") :
    isOfType dialect value name = isOfType .seven value name := by
  have hinteger : (name == "integer") = false := by simpa using hname
  cases value with
  | number n => simp [isOfType, hinteger]
  | _ => rfl

/-- A value of another type than a schema names is refused by it. -/
theorem refused_of_type {members : Record Json} {name : String}
    (hasks : Asks scope.dialect members "type" (.string name))
    (hwrong : isOfType scope.dialect value name = false) (room : Nat) :
    Refused library root (room + 1) scope (.object members) value := by
  intro place
  refine ⟨⟨place.keyword "type", value, .notOfType [name]⟩, ?_⟩
  rw [mem_violationsWithin_plain hasks.plain]
  refine ⟨"type", _, hasks, ?_⟩
  have hown : anyValue scope.dialect (place.keyword "type") value "type" (.string name) =
      [⟨place.keyword "type", value, .notOfType [name]⟩] := by
    simp [anyValue, typeNames, isOfTypes, expect, hwrong]
  simp [keywordViolations, hown]

/-- If a value breaks nothing, what its check comes to in any case is of the type that is named
there. -/
theorem Leads.isOfType {members : Record Json} {name : String}
    (h : Leads library root (library.outermost root) root value steps scope (.object members) part)
    (hasks : Asks scope.dialect members "type" (.string name))
    (hvalid : violations library root value = []) :
    isOfType scope.dialect part name = true := by
  by_contra hwrong
  refine h.violations_ne_nil (refused_of_succ fun room => ?_) hvalid
  exact refused_of_type hasks (Bool.eq_false_iff.2 hwrong) room

/-- If a value breaks nothing, the elements of an array that its check comes to in any case are of
the type that is named for them there. -/
theorem Leads.isOfType_elements {members : Record Json} {elements : List Json} {name : String}
    (h : Leads library root (library.outermost root) root value steps scope (.object members)
      (.array elements))
    (hasks : Asks scope.dialect members "items" (.object [("type", .string name)]))
    (hknows : scope.dialect.knows "type" = true) (hvalid : violations library root value = []) :
    ∀ x ∈ elements, Draft7.isOfType scope.dialect x name = true := by
  intro x hx
  obtain ⟨i, hi⟩ := List.mem_iff_getElem?.1 hx
  have hinner : (library.within scope (.object [("type", .string name)])).dialect = scope.dialect :=
    rfl
  have hstep : Leads library root scope (.object members) (.array elements) [.position i]
      (library.within scope (.object [("type", .string name)])) (.object [("type", .string name)])
      x :=
    .of_passes (.keyword hasks (.element rfl hi))
  rw [← hinner]
  refine (h.trans hstep).isOfType ⟨?_, .head _, ?_⟩ hvalid
  · intro reference href
    simp [Record.get?] at href
  · rwa [hinner]

end

end Draft7

end ItemTable
