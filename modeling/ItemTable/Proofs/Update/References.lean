import ItemTable.Proofs.Update.Grammar

set_option autoImplicit false

/-! # Lists of references

A projection is a list of references with commas between them, and so is what comes after the
keyword `remove`. A path is spelled by any steps that it has, but a reference begins with the
placeholder of a name. So a list of spelled paths is read exactly if all the paths begin with names,
and then as the paths (`ReferenceList.read_texts`, `UpdateGrammar.read_removal`). -/

namespace ItemTable

/-! ## The grammar of lists -/

namespace ReferenceList

open UpdateGrammar (reference?)

/-- The references that tokens start with, at most `fuel` of them, and the tokens after them. -/
def references? : Nat → List Token → Option (List Path × List Token)
  | 0, _ => none
  | fuel + 1, tokens =>
    match reference? tokens with
    | none => none
    | some (reference, .sign ',' :: rest) =>
      (references? fuel rest).map fun (references, rest) => (reference :: references, rest)
    | some (reference, rest) => some ([reference], rest)

/-- The references of a text; every token is part of one or sets two apart. -/
def read (text : String) : Option (List Path) :=
  let tokens := Token.read text
  match references? tokens.length tokens with
  | some (references, []) => some references
  | _ => none

end ReferenceList

namespace UpdateGrammar

/-- The actions of a removal are references. -/
theorem actions?_remove (fuel : Nat) (tokens : List Token) :
    actions? .remove fuel tokens = (ReferenceList.references? fuel tokens).map
      fun (references, rest) => (references.map .remove, rest) := by
  induction fuel generalizing tokens with
  | zero => rfl
  | succ fuel ih =>
    rw [actions?, action?, ReferenceList.references?]
    rcases reference? tokens with _ | ⟨reference, rest⟩
    · rfl
    · dsimp only
      split
      · next heq => cases heq
      · next heq =>
        cases heq
        simp [ih, Function.comp_def]
      · next hcomma heq =>
        cases heq
        split
        · next heq => cases heq
        · next heq =>
          cases heq
          exact (hcomma _ rfl).elim
        · next heq =>
          cases heq
          rfl

end UpdateGrammar

/-! ## Paths in their references -/

namespace Path

/-- Whether a path begins with a name, as references do. -/
def startsWithName (path : Path) : Bool := path.head?.any Step.isKey

theorem startsWithName_iff {path : Path} :
    path.startsWithName = true ↔ ∃ name rest, path = .key name :: rest := by
  rcases path with _ | ⟨_ | _, rest⟩ <;> simp [startsWithName, Step.isKey]

end Path

namespace ReferenceList

open UpdateGrammar (EndsReference reference? reference?_append)

variable (names : Names) {path : Path} {paths : List Path} {rest : List Token}

theorem reference?_of_startsWithName (h : path.startsWithName = true) (hrest : EndsReference rest) :
    reference? (Token.read (names.reference path) ++ rest) = some (names.spell path, rest) := by
  obtain ⟨name, below, rfl⟩ := Path.startsWithName_iff.1 h
  rw [names.read_reference]
  exact reference?_append hrest _ _

/-- Where a path begins with a position or not at all, no reference is read. -/
theorem reference?_of_not_startsWithName (h : path.startsWithName = false)
    (hrest : ∀ name, rest.head? ≠ some (.name name)) :
    reference? (Token.read (names.reference path) ++ rest) = none := by
  rw [names.read_reference]
  rcases path with _ | ⟨_ | index, below⟩
  · rcases rest with _ | ⟨token, rest⟩
    · rfl
    · cases token with
      | name placeholder => exact absurd rfl (hrest placeholder)
      | _ => rfl
  · cases h
  · rfl

/-- A reference that stands alone. -/
theorem reference?_read (path : Path) :
    reference? (Token.read (names.reference path)) =
      if path.startsWithName then some (names.spell path, []) else none := by
  rw [← List.append_nil (Token.read (names.reference path))]
  cases h : path.startsWithName with
  | true => exact reference?_of_startsWithName names h (by simp [EndsReference])
  | false => exact reference?_of_not_startsWithName names h (by simp)

/-- The text of paths in a list. -/
def text (paths : List Path) : String := ", ".intercalate (paths.map names.reference)

theorem read_text_cons (path next : Path) (more : List Path) :
    Token.read (text names (path :: next :: more)) =
      Token.read (names.reference path) ++ .sign ',' :: Token.read (text names (next :: more)) := by
  have htext : text names (path :: next :: more)
      = names.reference path ++ (", " ++ text names (next :: more)) := by
    rw [← String.append_assoc]
    exact String.intercalate_cons_cons
  rw [htext, Token.read_append (Placeholder.opens_separator_append (by decide) rfl),
    Token.read_comma]

/-- A list of paths is read exactly if all of them begin with names. -/
theorem references?_text (hne : paths ≠ []) {fuel : Nat}
    (hfuel : (Token.read (text names paths)).length ≤ fuel) :
    references? fuel (Token.read (text names paths)) =
      if paths.all Path.startsWithName then some (paths.map names.spell, []) else none := by
  induction paths generalizing fuel with
  | nil => exact absurd rfl hne
  | cons path more ih =>
    cases fuel with
    | zero =>
      -- no token is left, but a path that begins with a name has one
      have hempty : Token.read (names.reference path) = [] := by
        have hnil := List.length_eq_zero_iff.1 (Nat.le_zero.1 hfuel)
        cases more with
        | nil => exact (congrArg Token.read String.intercalate_singleton).symm.trans hnil
        | cons next more => simp [read_text_cons] at hnil
      have hread := reference?_read names path
      rw [hempty] at hread
      cases h : path.startsWithName with
      | true => simp [h, reference?] at hread
      | false => simp [references?, h]
    | succ fuel =>
      cases more with
      | nil =>
        have htext : text names [path] = names.reference path := String.intercalate_singleton
        rw [htext, references?, reference?_read]
        cases h : path.startsWithName <;> simp [h]
      | cons next more =>
        rw [read_text_cons] at hfuel ⊢
        rw [references?]
        cases h : path.startsWithName with
        | true =>
          have hlength : (Token.read (text names (next :: more))).length ≤ fuel := by
            simp only [List.length_append, List.length_cons] at hfuel
            omega
          rw [reference?_of_startsWithName names h (by simp [EndsReference])]
          simp only [ih (List.cons_ne_nil _ _) hlength]
          cases hmore : (next :: more).all Path.startsWithName <;> simp [List.all_cons, h, hmore]
        | false =>
          rw [reference?_of_not_startsWithName names h (by simp)]
          simp [h]

/-- A list of paths is read as these paths if all of them begin with names, and not at all
otherwise. -/
theorem read_texts (hne : paths ≠ []) :
    read (text names paths) =
      if paths.all Path.startsWithName then some (paths.map names.spell) else none := by
  unfold read
  dsimp only
  rw [references?_text names hne (Nat.le_refl _)]
  cases paths.all Path.startsWithName <;> rfl

end ReferenceList

/-- A clause that removes a list of paths is read as one that removes these paths if all of them
begin with names, and not at all otherwise. -/
theorem UpdateGrammar.read_removal (names : Names) {paths : List Path} (hne : paths ≠ []) :
    read ("remove " ++ ReferenceList.text names paths) =
      if paths.all Path.startsWithName then
        some [(.remove, (paths.map names.spell).map .remove)]
      else none := by
  have hkeyword : Token.read "remove " = [.word "remove"] := by decide +kernel
  have hopens : Placeholder.opens (ReferenceList.text names paths) = true := by
    refine Placeholder.opens_intercalate rfl fun text htext => ?_
    obtain ⟨path, -, rfl⟩ := List.mem_map.1 htext
    exact names.opens_reference path
  have hmode : mode? "remove" = some .remove := by decide +kernel
  unfold read
  rw [Token.read_append hopens, hkeyword]
  simp only [List.singleton_append, List.length_cons, clauses?, hmode, actions?_remove,
    ReferenceList.references?_text names hne (Nat.le_refl _)]
  cases paths.all Path.startsWithName with
  | false => rfl
  | true =>
    simp only [if_true, Option.map_some]
    unfold clauses?
    rfl

end ItemTable
