import ItemTable.Proofs.Condition.Meaning
import ItemTable.Proofs.StoreValue.Locate
import ItemTable.Proofs.Update.ReadBack

set_option autoImplicit false

/-! # Guards read back

A condition holds of an item or not. The conjunction of guards, read by the grammar of conditions,
holds of the items that have something at all of the paths that have to exist and nothing at any of
the paths that have to be missing (`Condition.holds_guards`). -/

namespace ItemTable

open ConditionGrammar (Spells)

namespace Formula

variable (judge : Formula StoreValue → Bool) (item : Item)

/-- Whether a condition holds of an item; `judge` decides about the tests that look at values. -/
def holds : Formula StoreValue → Bool
  | .present path => ((StoreValue.map item).locate? path).isSome
  | .absent path => ((StoreValue.map item).locate? path).isNone
  | .both left right => left.holds && right.holds
  | .either left right => left.holds || right.holds
  | .not inner => !inner.holds
  | test => judge test

/-- A conjunction holds if all of its parts do. -/
theorem holds_of_conjunction {formulas : List (Formula StoreValue)} {formula : Formula StoreValue}
    (h : conjunction formulas = some formula) :
    formula.holds judge item = formulas.all (·.holds judge item) := by
  induction formulas generalizing formula with
  | nil => cases h
  | cons first rest ih =>
    cases rest with
    | nil =>
      cases h
      exact (Bool.and_true _).symm
    | cons second rest =>
      obtain ⟨tail, htail, rfl⟩ := Option.map_eq_some_iff.1 h
      rw [holds, ih htail]
      rfl

end Formula

namespace Condition

variable {existing missing : List Path} {names : Names}

/-- Guards as they are written, those of paths that have to exist first. -/
def spelledGuards (existing missing : List Path) (names : Names) : List (Formula String) :=
  existing.map (fun path => .present (names.spell path))
    ++ missing.map fun path => .absent (names.spell path)

theorem spells_guardTexts
    (hpaths : ∀ path ∈ existing ++ missing, ∃ name rest, path = .key name :: rest) :
    List.Forall₂ Spells (guardTexts existing missing names)
      (spelledGuards existing missing names) := by
  have hreference (path : Path) := names.read_reference path
  obtain ⟨hexisting, hmissing⟩ := List.forall_mem_append.1 hpaths
  refine List.rel_append ?_ ?_
  · rw [Traversal.forall₂_map_map]
    intro path hpath
    obtain ⟨name, rest, rfl⟩ := hexisting path hpath
    exact ConditionGrammar.spells_exists (hreference _) (names.opens_reference _)
  · rw [Traversal.forall₂_map_map]
    intro path hpath
    obtain ⟨name, rest, rfl⟩ := hmissing path hpath
    exact ConditionGrammar.spells_notExists (hreference _) (names.opens_reference _)

theorem meaning?_spelledGuards (hcovers : ∀ path ∈ existing ++ missing, names.Covers path)
    (values : Item) :
    List.Forall₂ (fun w m => w.meaning? names.table values = some m)
      (spelledGuards existing missing names) (existing.map .present ++ missing.map .absent) := by
  have hpath {path : Path} (hpath : path ∈ existing ++ missing) :=
    UpdateGrammar.path?_spell (hcovers path hpath)
  refine List.rel_append ?_ ?_
  · rw [Traversal.forall₂_map_map]
    intro path hmem
    simp [Formula.meaning?, hpath (List.mem_append_left _ hmem)]
  · rw [Traversal.forall₂_map_map]
    intro path hmem
    simp [Formula.meaning?, hpath (List.mem_append_right _ hmem)]

/-- Guards, joined to a conjunction and read back, hold of the items that have something at the one
paths and nothing at the others. -/
theorem holds_guards (hguards : guardTexts existing missing names ≠ [])
    (hpaths : ∀ path ∈ existing ++ missing, ∃ name rest, path = .key name :: rest)
    (hcovers : ∀ path ∈ existing ++ missing, names.Covers path) (values : Item) :
    ∃ written demand,
      ConditionGrammar.read (conjunction.intercalate (guardTexts existing missing names))
        = some written ∧
      written.meaning? names.table values = some demand ∧
      ∀ judge item, demand.holds judge item = true ↔
        (∀ path ∈ existing, ((StoreValue.map item).locate? path).isSome) ∧
          ∀ path ∈ missing, ((StoreValue.map item).locate? path).isNone := by
  obtain ⟨written, hwritten, hread⟩ :=
    ConditionGrammar.read_conjunction (spells_guardTexts hpaths) hguards
  obtain ⟨demand, hdemand, hmeaning⟩ :=
    Formula.meaning?_conjunction (meaning?_spelledGuards hcovers values) hwritten
  refine ⟨written, demand, hread, hmeaning, fun judge item => ?_⟩
  rw [Formula.holds_of_conjunction judge item hdemand, List.all_append, List.all_map, List.all_map,
    Bool.and_eq_true, List.all_eq_true, List.all_eq_true]
  rfl

end Condition

end ItemTable
