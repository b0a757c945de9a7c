import ItemTable.Proofs.Tree.Leaves

set_option autoImplicit false

/-! # Objects that writes keep

A leaf that is put into a tree writes the place where its path ends. Every object above and beside
that place keeps its names, and one step in the tree leads on where it led before
(`Tree.insert_keeps`). The one exception are lists: a list that a leaf's path leads through by a
name gives way to an object, and its elements are gone for good (`Json.IsCutOff`). So what is still
there after any number of writes, none of them at it or above it, is kept (`Tree.insertAll_keeps`).
-/

namespace ItemTable

namespace Json

/-- The same way leads to an object in an old and in a new document, and the new one has all names
of the old one. -/
inductive Keeps : Json → Json → Path → Prop
  | here {old new : Record Json} (hnames : ∀ name ∈ old.names, name ∈ new.names) :
    Keeps (.object old) (.object new) []
  | inside {old new part part' : Json} {step : Step} {rest : Path}
    (hold : old.child? step = some part) (hnew : new.child? step = some part')
    (hrest : Keeps part part' rest) : Keeps old new (step :: rest)

section

variable {old mid new part : Json} {path below : Path}

theorem Keeps.append (h : Keeps old new (path ++ below)) (hnew : new.walk? path = some part) :
    ∃ part', old.walk? path = some part' ∧ Keeps part' part below := by
  induction path generalizing old new with
  | nil =>
    obtain rfl := Option.some.inj hnew
    exact ⟨old, rfl, h⟩
  | cons step rest ih =>
    cases h with
    | inside hold hnext hrest =>
      rw [Json.walk?, hnext, Option.bind_some] at hnew
      obtain ⟨part', hpart', hbelow⟩ := ih hrest hnew
      refine ⟨part', ?_, hbelow⟩
      rw [Json.walk?, hold]
      exact hpart'

/-- A document keeps each of its objects. -/
theorem keeps_self {members : Record Json} (h : old.walk? path = some (.object members)) :
    Keeps old old path := by
  induction path generalizing old with
  | nil =>
    obtain rfl := Option.some.inj h
    exact .here fun _ hname => hname
  | cons step rest ih =>
    obtain ⟨next, hnext, hrest⟩ := Option.bind_eq_some_iff.1 h
    exact .inside hnext hnext (ih hrest)

theorem Keeps.trans (h : Keeps old mid path) (h' : Keeps mid new path) : Keeps old new path := by
  induction h generalizing new with
  | here hnames =>
    cases h' with
    | here hnames' => exact .here fun name hname => hnames' name (hnames name hname)
  | inside hold hmid _ ih =>
    cases h' with
    | inside hmid' hnew hrest =>
      obtain rfl := Option.some.inj (hmid.symm.trans hmid')
      exact .inside hold hnew (ih hrest)

/-- What is kept is an object still. -/
theorem Keeps.walk? (h : Keeps old new path) :
    ∃ members, new.walk? path = some (.object members) := by
  induction h with
  | here => exact ⟨_, rfl⟩
  | inside _ hnew _ ih =>
    obtain ⟨members, hmembers⟩ := ih
    refine ⟨members, ?_⟩
    rw [Json.walk?, hnew]
    exact hmembers

/-- A path asks for an element of an object, so it leads nowhere. -/
def IsCutOff (value : Json) (path : Path) : Prop :=
  ∃ above i below members, path = above ++ .position i :: below ∧
    value.walk? above = some (.object members)

theorem IsCutOff.walk? (h : IsCutOff old path) : old.walk? path = none := by
  obtain ⟨above, i, below, members, rfl, habove⟩ := h
  rw [walk?_append, habove]
  rfl

theorem IsCutOff.of_append (h : IsCutOff old path) : IsCutOff old (path ++ below) := by
  obtain ⟨above, i, further, members, rfl, habove⟩ := h
  exact ⟨above, i, further ++ below, members, by simp, habove⟩

theorem IsCutOff.cons {step : Step} (hchild : old.child? step = some part)
    (h : IsCutOff part path) : IsCutOff old (step :: path) := by
  obtain ⟨above, i, below, members, rfl, habove⟩ := h
  refine ⟨step :: above, i, below, members, rfl, ?_⟩
  rw [Json.walk?, hchild]
  exact habove

end

end Json

namespace Tree

open Json (Keeps IsCutOff)

variable {tree : Record Json} {path at_ : Path} {value : Json} {name : String}

theorem child?_insert_self (tree : Record Json) (name : String) (value : Json) :
    (Json.object (Record.insert tree name value)).child? (.key name) = some value :=
  (Record.get?_insert tree name name value).trans (if_pos rfl)

theorem child?_insert_of_ne {step : Step} (hstep : step ≠ .key name) :
    (Json.object (Record.insert tree name value)).child? step = (Json.object tree).child? step := by
  cases step with
  | key other =>
    have hne : name ≠ other := fun heq => hstep (heq ▸ rfl)
    exact (Record.get?_insert tree name other value).trans (if_neg hne)
  | position => rfl

/-- Under every other name, and at the object itself, a new member changes nothing. -/
theorem keeps_insert_of_ne {members : Record Json} (hne : ∀ rest, at_ ≠ .key name :: rest)
    (h : (Json.object tree).walk? at_ = some (.object members)) :
    Keeps (.object tree) (.object (Record.insert tree name value)) at_ := by
  cases at_ with
  | nil => exact .here fun _ hname => Record.mem_names_insert.2 (.inl hname)
  | cons step rest =>
    have hstep : step ≠ .key name := fun heq => hne rest (heq ▸ rfl)
    obtain ⟨part, hpart, hrest⟩ := Option.bind_eq_some_iff.1 h
    refine .inside hpart ?_ (Json.keeps_self hrest)
    rw [child?_insert_of_ne hstep]
    exact hpart

/-- Where there is no object, only the elements of a list lie below. -/
theorem exists_position_of_walk? {old : Json} {members : Record Json}
    (hobject : ∀ others, old ≠ .object others) (h : old.walk? at_ = some (.object members)) :
    ∃ i rest, at_ = .position i :: rest := by
  cases at_ with
  | nil => exact absurd (Option.some.inj h) (hobject members)
  | cons step rest =>
    cases step with
    | position i => exact ⟨i, rest, rfl⟩
    | key name =>
      obtain ⟨part, hpart, -⟩ := Option.bind_eq_some_iff.1 h
      obtain ⟨others, heq, -⟩ := Json.child?_key_eq_some.1 hpart
      exact absurd heq (hobject others)

/-- A leaf keeps every object that is not at its place or below, unless it cuts the object off. -/
theorem insert_keeps {members : Record Json} (hpath : ¬ path <+: at_)
    (h : (Json.object tree).walk? at_ = some (.object members)) :
    Keeps (.object tree) (.object (insert tree path value)) at_ ∨
      IsCutOff (.object (insert tree path value)) at_ := by
  induction path generalizing tree at_ with
  | nil => exact absurd List.nil_prefix hpath
  | cons step below ih =>
    cases step with
    | position i => exact .inl (Json.keeps_self h)
    | key name =>
      by_cases hunder : ∃ rest, at_ = .key name :: rest
      · obtain ⟨rest, rfl⟩ := hunder
        rw [List.cons_prefix_cons, and_iff_right rfl] at hpath
        cases below with
        | nil => exact absurd List.nil_prefix hpath
        | cons next further =>
          -- the leaf goes further down, as the way to the object does
          obtain ⟨part, hpart, hrest⟩ := Option.bind_eq_some_iff.1 h
          have hchild := child?_insert_self tree name
            (.object (insert (branch tree name) (next :: further) value))
          by_cases hobject : ∃ old, part = .object old
          · obtain ⟨old, rfl⟩ := hobject
            have hbranch : branch tree name = old := by
              have hget : tree.get? name = some (.object old) := hpart
              rw [branch, hget]
              rfl
            rw [hbranch] at hchild
            rw [insert, hbranch]
            rcases ih hpath hrest with hkept | hcut
            · exact .inl (.inside hpart hchild hkept)
            · exact .inr (hcut.cons hchild)
          · -- only the elements of a list lie below, and the list gives way to an object
            obtain ⟨i, rest, rfl⟩ :=
              exists_position_of_walk? (fun old heq => hobject ⟨old, heq⟩) hrest
            rw [insert]
            exact .inr (.cons hchild ⟨[], i, rest, _, rfl, rfl⟩)
      · have hne : ∀ rest, at_ ≠ .key name :: rest := fun rest heq => hunder ⟨rest, heq⟩
        cases below with
        | nil => exact .inl (keeps_insert_of_ne hne h)
        | cons next further =>
          rw [insert]
          exact .inl (keeps_insert_of_ne hne h)

theorem isCutOff_insert (hpath : ¬ path <+: at_) (h : IsCutOff (.object tree) at_) :
    IsCutOff (.object (insert tree path value)) at_ := by
  obtain ⟨above, i, below, members, rfl, habove⟩ := h
  have hpath' : ¬ path <+: above := fun hstart =>
    hpath (hstart.trans (List.prefix_append _ _))
  rcases insert_keeps hpath' habove with hkept | hcut
  · obtain ⟨members', hmembers'⟩ := hkept.walk?
    exact ⟨above, i, below, members', rfl, hmembers'⟩
  · exact hcut.of_append

theorem isCutOff_insertAll {leaves : List (Path × Json)}
    (hleaves : ∀ leaf ∈ leaves, ¬ leaf.1 <+: at_) (h : IsCutOff (.object tree) at_) :
    IsCutOff (.object (insertAll tree leaves)) at_ := by
  induction leaves generalizing tree with
  | nil => exact h
  | cons leaf leaves ih =>
    obtain ⟨hleaf, hrest⟩ := List.forall_mem_cons.1 hleaves
    exact ih hrest (isCutOff_insert hleaf h)

/-- Leaves keep every object that is still there and that none of them replaces. -/
theorem insertAll_keeps {leaves : List (Path × Json)} {members : Record Json} {found : Json}
    (hleaves : ∀ leaf ∈ leaves, ¬ leaf.1 <+: at_)
    (hold : (Json.object tree).walk? at_ = some (.object members))
    (hnew : (Json.object (insertAll tree leaves)).walk? at_ = some found) :
    Keeps (.object tree) (.object (insertAll tree leaves)) at_ := by
  induction leaves generalizing tree members with
  | nil => exact Json.keeps_self hold
  | cons leaf leaves ih =>
    obtain ⟨hleaf, hrest⟩ := List.forall_mem_cons.1 hleaves
    rw [insertAll_cons] at hnew ⊢
    rcases insert_keeps hleaf hold with hkept | hcut
    · obtain ⟨members', hmembers'⟩ := hkept.walk?
      exact hkept.trans (ih hrest hmembers' hnew)
    · -- what is cut off once is not there at the end
      rw [(isCutOff_insertAll hrest hcut).walk?] at hnew
      cases hnew

/-! ## Proper documents -/

theorem isProper_recordInsert (htree : (Json.object tree).isProper = true)
    (hvalue : value.isProper = true) :
    (Json.object (Record.insert tree name value)).isProper = true := by
  induction tree with
  | nil => exact Json.isProper_cons.2 ⟨List.not_mem_nil, hvalue, rfl⟩
  | cons m rest ih =>
    obtain ⟨other, part⟩ := m
    obtain ⟨hother, hpart, hrest⟩ := Json.isProper_cons.1 htree
    rw [Record.insert]
    split
    · exact Json.isProper_cons.2 ⟨hother, hvalue, hrest⟩
    · next hne =>
      have hnew : other ∉ (Record.insert rest name value).names := by
        intro hmem
        rcases Record.mem_names_insert.1 hmem with hmem | heq
        · exact hother hmem
        · exact hne heq
      exact Json.isProper_cons.2 ⟨hnew, hpart, ih hrest⟩

theorem isProper_branch (htree : (Json.object tree).isProper = true) (name : String) :
    (Json.object (branch tree name)).isProper = true := by
  unfold branch
  cases hget : tree.get? name with
  | none => rfl
  | some part =>
    have hpart := Json.isProper_of_mem_object htree (Record.mem_of_get?_eq_some hget)
    cases part with
    | object => exact hpart
    | _ => rfl

theorem isProper_insert (htree : (Json.object tree).isProper = true)
    (hvalue : value.isProper = true) : (Json.object (insert tree path value)).isProper = true := by
  induction path generalizing tree with
  | nil => exact htree
  | cons step below ih =>
    cases step with
    | position => exact htree
    | key name =>
      cases below with
      | nil => exact isProper_recordInsert htree hvalue
      | cons next further => exact isProper_recordInsert htree (ih (isProper_branch htree name))

theorem isProper_insertAll {leaves : List (Path × Json)}
    (htree : (Json.object tree).isProper = true)
    (hleaves : ∀ leaf ∈ leaves, leaf.2.isProper = true) :
    (Json.object (insertAll tree leaves)).isProper = true := by
  induction leaves generalizing tree with
  | nil => exact htree
  | cons leaf leaves ih =>
    obtain ⟨hleaf, hrest⟩ := List.forall_mem_cons.1 hleaves
    exact ih (isProper_insert htree hleaf) hrest

/-- The values of a proper document's leaves are proper. -/
theorem isProper_of_mem_flatten {data : Record Json} {leaf : Path × Json}
    (hdata : (Json.object data).isProper = true) (h : leaf ∈ flatten data) :
    leaf.2.isProper = true :=
  Json.isProper_of_walk? hdata (walk?_of_mem_flatten hdata h)

end Tree

end ItemTable
