import ItemTable.Proofs.Draft7.Trace
import ItemTable.Proofs.Tree.Keeps

set_option autoImplicit false

/-! # Required names that are kept

If an object keeps all of its names, it keeps the required ones. So a name that a new document
lacks, at a place where it keeps what an old one had, was lacking in the old one as well, unless it
is asked for on a condition that came to hold with the new document
(`Draft7.Reaches.refused_or_comesToHold`). -/

namespace ItemTable

namespace Draft7

open Json (Keeps)

/-! ## The last word of a schema path -/

/-- A position is no word with a letter. -/
theorem repr_not_mem {words : List String}
    (hwords : ∀ word ∈ words, word.toList.all Char.isDigit = false) (i : Nat) :
    words.contains (Nat.repr i) = false := by
  rw [List.contains_eq_mem, decide_eq_false_iff_not]
  intro hmem
  have hdigits : (Nat.repr i).toList.all Char.isDigit = true := by
    rw [Nat.toList_repr, List.all_eq_true]
    intro c hc
    exact Nat.isDigit_of_mem_toDigits (by decide) (by decide) hc
  rw [hwords _ hmem] at hdigits
  cases hdigits

/-- The last word of a path is that of its last part with words. -/
theorem last_of_append {words words' : List String} {word : String}
    (h : (words ++ words').getLast? = some word) :
    words'.getLast? = some word ∨ (words' = [] ∧ words.getLast? = some word) := by
  cases words' with
  | nil =>
    rw [List.append_nil] at h
    exact .inr ⟨rfl, h⟩
  | cons first rest =>
    rw [List.getLast?_append_cons] at h
    exact .inl h

/-- A path that leads on to a required name, and is not used up, ends in that name. -/
theorem required_of_append {words words' : List String}
    (h : words ++ words' = [] ∨ (words ++ words').getLast? = some "required") :
    words' = [] ∨ words'.getLast? = some "required" := by
  rcases h with hempty | hlast
  · exact .inl (List.append_eq_nil_iff.1 hempty).2
  · rcases last_of_append hlast with hlast | ⟨hempty, -⟩
    · exact .inr hlast
    · exact .inl hempty

/-! ## Values that are no objects -/

section

variable {library : Library} {root schema schema' value part : Json} {scope there : Scope}
  {place : Place} {needs : Need} {steps steps' : Path} {words words' : List String} {room : Nat}

/-- Nothing is required of a string. -/
theorem Reaches.not_required_of_string
    (h : Reaches library root room scope schema place value steps words) {text : String}
    (hvalue : value = .string text) : words.getLast? ≠ some "required" := by
  induction h with
  | here hown =>
    subst hvalue
    cases hown with
    | never => simp
    | keyword _ hfinds =>
      cases hfinds with
      | other hne => simpa using hne
  | @onward _ _ _ _ _ _ part _ _ _ _ words words' hpasses _ _ ih =>
    subst hvalue
    have hwords : part = .string text ∧ ∀ word ∈ words, word ≠ "required" := by
      cases hpasses with
      | reference => simp
      | keyword _ hhands =>
        cases hhands with
        | @each _ _ _ i _ =>
          have hposition : ["required"].contains (Nat.repr i) = false :=
            repr_not_mem (by decide) i
          simpa using hposition
        | _ => simp
    intro hlast
    rcases last_of_append hlast with hlast | ⟨-, hlast⟩
    · exact ih hwords.1 hlast
    · exact hwords.2 _ (List.mem_of_getLast? hlast) rfl

/-- Nothing is required of the names of an object. -/
theorem Passes.not_through_names
    (h : Passes library root scope schema value needs steps words there schema' part)
    (hreaches : Reaches library root room there schema' place part steps' words')
    (hlast : words ++ words' = [] ∨ (words ++ words').getLast? = some "required") :
    words ≠ ["propertyNames"] := by
  rintro rfl
  obtain ⟨-, text, htext⟩ := h.string_of_names rfl
  rcases last_of_append (hlast.resolve_left (by simp)) with hlast | ⟨-, hlast⟩
  · exact hreaches.not_required_of_string htext hlast
  · simp at hlast

end

/-! ## Values that are refused -/

/-- A check with room for this many nested steps finds something, at whatever place it is made. -/
def Refused (library : Library) (root : Json) (room : Nat) (scope : Scope) (schema value : Json) :
    Prop :=
  ∀ place, ∃ v, v ∈ violationsWithin library root room scope schema place value

section

variable {library : Library} {root schema schema' value part : Json} {scope there : Scope}
  {steps : Path} {words : List String} {room : Nat}

/-- With no room left, all is refused. -/
theorem refused_of_succ
    (h : ∀ room, Refused library root (room + 1) scope schema value) (room : Nat) :
    Refused library root room scope schema value := by
  cases room with
  | zero => exact fun place => ⟨_, List.mem_singleton.2 rfl⟩
  | succ room => exact h room

theorem Refused.of_passes
    (hpasses : Passes library root scope schema value .always steps words there schema' part)
    (h : Refused library root room there schema' part) :
    Refused library root (room + 1) scope schema value := by
  intro place
  obtain ⟨v, hv⟩ := h (place.onward steps words)
  exact ⟨v, mem_of_passes hpasses trivial hv⟩

theorem refused_of_lacking {members present : Record Json} {argument : Json} {name : String}
    (hasks : Asks scope.dialect members "required" argument)
    (hname : name ∈ argument.stringElements) (hlacks : present.contains name = false) :
    Refused library root (room + 1) scope (.object members) (.object present) := by
  intro place
  obtain ⟨v, hv⟩ := exists_of_lacking hname hlacks
  exact ⟨v, (mem_violationsWithin_plain hasks.plain).2 ⟨_, _, hasks, hv⟩⟩

end

/-! ## Handing on again -/

section

variable {library : Library} {root schema schema' new old part part' : Json} {scope there : Scope}
  {check : Check} {place : Place} {needs : Need} {steps : Path} {words : List String}

/-- What is handed on is handed on from any document that has a part there, if the condition holds
of it. -/
theorem Hands.again {siblings : Record Json} {keyword : String} {argument : Json}
    (h : Hands siblings new keyword argument needs steps words schema part)
    (hwords : words ≠ ["propertyNames"]) (hneeds : needs.Holds check place old)
    (hold : old.walk? steps = some part') :
    Hands siblings old keyword argument needs steps words schema part' := by
  have hkey : ∀ {name : String}, old.walk? [.key name] = some part' →
      ∃ members, old = .object members ∧ Record.get? members name = some part' ∧
        (name, part') ∈ members := by
    intro name h
    rw [Json.walk?_singleton] at h
    obtain ⟨members, rfl, hget⟩ := Json.child?_key_eq_some.1 h
    exact ⟨members, rfl, hget, Record.mem_of_get?_eq_some hget⟩
  have hposition : ∀ {i : Nat}, old.walk? [.position i] = some part' →
      ∃ elements, old = .array elements ∧ elements[i]? = some part' := by
    intro i h
    rw [Json.walk?_singleton] at h
    exact Json.child?_position_eq_some.1 h
  cases h with
  | property hgoverned hschema _ =>
    obtain ⟨members, rfl, hget, -⟩ := hkey hold
    exact .property hgoverned hschema hget
  | pattern hgoverned hschema _ hfound =>
    obtain ⟨members, rfl, -, hmem⟩ := hkey hold
    exact .pattern hgoverned hschema hmem hfound
  | governedProperty hgoverned _ hschema =>
    obtain ⟨members, rfl, -, hmem⟩ := hkey hold
    exact .governedProperty hgoverned hmem hschema
  | governedPattern hgoverned _ hschema hfound =>
    obtain ⟨members, rfl, -, hmem⟩ := hkey hold
    exact .governedPattern hgoverned hmem hschema hfound
  | governedOther hgoverned _ hexpected hargument =>
    obtain ⟨members, rfl, -, hmem⟩ := hkey hold
    exact .governedOther hgoverned hmem hexpected hargument
  | element hargument _ =>
    obtain ⟨elements, rfl, hx⟩ := hposition hold
    exact .element hargument hx
  | tuple hschema _ =>
    obtain ⟨elements, rfl, hx⟩ := hposition hold
    exact .tuple hschema hx
  | further hitems hargument _ =>
    obtain ⟨elements, rfl, hx⟩ := hposition hold
    exact .further hitems hargument hx
  | each hschema =>
    obtain rfl := Option.some.inj hold
    exact .each hschema
  | name => exact absurd rfl hwords
  | consequence hschema =>
    obtain rfl := Option.some.inj hold
    exact .consequence hschema
  | alternative hschema =>
    obtain rfl := Option.some.inj hold
    exact .alternative hschema
  | dependent hschema harray =>
    obtain rfl := Option.some.inj hold
    obtain ⟨members, rfl, -⟩ := hneeds
    exact .dependent hschema harray

theorem Passes.again
    (h : Passes library root scope schema new needs steps words there schema' part)
    (hwords : words ≠ ["propertyNames"]) (hneeds : needs.Holds check place old)
    (hold : old.walk? steps = some part') :
    Passes library root scope schema old needs steps words there schema' part' := by
  cases h with
  | reference href htarget =>
    obtain rfl := Option.some.inj hold
    exact .reference href htarget
  | keyword hasks hhands => exact .keyword hasks (hhands.again hwords hneeds hold)

end

/-! ## Kept names -/

/-- On the way of a check to what it finds in a new document there is a schema that is asked on a
condition, which holds of the new document there, but not of the old one. -/
inductive ComesToHold (library : Library) (root : Json) :
    Nat → Scope → Json → Place → Json → Json → Path → List String → Prop
  | here {room : Nat} {scope there : Scope} {schema old new schema' part : Json} {place : Place}
    {needs : Need} {steps steps' : Path} {words words' : List String}
    (hpasses : Passes library root scope schema new needs steps words there schema' part)
    (hnew : needs.Holds (insideOf library scope (violationsWithin library root room)) place new)
    (hold : ¬ needs.Holds (insideOf library scope (violationsWithin library root room)) place old)
    (hreaches : Reaches library root room there schema' (place.onward steps words) part steps'
      words') :
    ComesToHold library root (room + 1) scope schema place old new (steps ++ steps')
      (words ++ words')
  | onward {room : Nat} {scope there : Scope} {schema old new schema' part part' : Json}
    {place : Place} {needs : Need} {steps steps' : Path} {words words' : List String}
    (hpasses : Passes library root scope schema new needs steps words there schema' part)
    (hnew : needs.Holds (insideOf library scope (violationsWithin library root room)) place new)
    (hwalk : old.walk? steps = some part')
    (h : ComesToHold library root room there schema' (place.onward steps words) part' part steps'
      words') :
    ComesToHold library root (room + 1) scope schema place old new (steps ++ steps')
      (words ++ words')

/-- What is not allowed in the new document, or lacks a required name there, is found in the old one
as well if the names there are kept, unless a condition came to hold. -/
theorem Reaches.refused_or_comesToHold {library : Library} {root schema new old : Json}
    {scope : Scope} {place : Place} {steps : Path} {words : List String} {room : Nat}
    (h : Reaches library root room scope schema place new steps words) (hnew : new.isProper = true)
    (hlast : words = [] ∨ words.getLast? = some "required") (hkeeps : Keeps old new steps) :
    (∃ v, v ∈ violationsWithin library root room scope schema place old) ∨
      ComesToHold library root room scope schema place old new steps words := by
  induction h generalizing old with
  | @here _ _ _ _ place _ hown =>
    refine .inl ?_
    cases hown with
    | never => exact ⟨_, List.mem_singleton.2 rfl⟩
    | keyword hasks hfinds =>
      cases hfinds with
      | other hne => simp [hne] at hlast
      | @lacking members argument name hname hlacks =>
        cases hkeeps with
        | @here others _ hnames =>
          have hold : others.contains name = false := by
            refine Bool.eq_false_iff.2 fun hcontains => ?_
            have hmem := hnames name (Record.contains_eq_true_iff.1 hcontains)
            rw [Record.contains_eq_true_iff.2 hmem] at hlacks
            cases hlacks
          exact refused_of_lacking hasks hname hold place
  | @onward room scope _ _ _ _ _ place needs _ _ _ _ hpasses hneeds hreaches ih =>
    have hwords := hpasses.not_through_names hreaches hlast
    have hpart := hpasses.walk? hnew hwords
    obtain ⟨part', hpart', hrest⟩ := hkeeps.append hpart
    by_cases hold : needs.Holds (insideOf library scope (violationsWithin library root room)) place
        old
    · rcases ih (Json.isProper_of_walk? hnew hpart) (required_of_append hlast) hrest with
        ⟨v, hv⟩ | hholds
      · exact .inl ⟨v, mem_of_passes (hpasses.again hwords hold hpart') hold hv⟩
      · exact .inr (.onward hpasses hneeds hpart' hholds)
    · exact .inr (.here hpasses hneeds hold hreaches)

end Draft7

end ItemTable
