import ItemTable.Proofs.Json.ByName
import ItemTable.Proofs.Tree.Rebuild
import Mathlib.Data.List.TakeWhile

set_option autoImplicit false

/-! # Laws of putting a value into a tree

At a path of keys, what is put in is found, every way apart leads where it led, and what is put in
later replaces what was there; two values whose paths do not run through each other come in either
order to the same tree, up to the order of members (`Tree.insert_lawful`).

A path with a position is followed up to the first one. No value is put, but the keys before the
position are opened all the same: objects come where they lead to none (`Tree.insert_position_eq`),
so a tree is left as it was only where they lead to one (`Tree.insert_at_position`). -/

namespace ItemTable

namespace Record

variable {α : Type} {r : Record α} {name other : String} {value : α}

/-- A name that is given the value it has. -/
theorem insert_of_get? (h : r.get? name = some value) : r.insert name value = r := by
  induction r with
  | nil => simp [get?] at h
  | cons e rest ih =>
    obtain ⟨n, v⟩ := e
    by_cases hn : n = name
    · simp_all [get?, insert]
    · rw [get?, if_neg hn] at h
      rw [insert, if_neg hn, ih h]

/-- Values of two names come in either order to the same entries. -/
theorem perm_insert_insert (r : Record α) (hne : name ≠ other) (value value' : α) :
    ((r.insert name value).insert other value').Perm
      ((r.insert other value').insert name value) := by
  induction r with
  | nil => simp [insert, hne, hne.symm, List.Perm.swap]
  | cons e rest ih =>
    obtain ⟨n, v⟩ := e
    by_cases hn : n = name
    · have ho : n ≠ other := fun heq => hne (hn.symm.trans heq)
      simp [insert, hn, hne]
    · by_cases ho : n = other
      · simp [insert, ho, hne.symm]
      · simpa [insert, hn, ho] using ih

end Record

namespace Json

variable {value value' : Json} {name : String}

theorem membersRearranged_self (members : Record Json) : MembersRearranged members members := by
  induction members with
  | nil => exact .nil
  | cons m rest ih => exact .cons m.1 (.same m.2) ih

theorem MembersRearranged.insert (tree : Record Json) (h : Rearranged value value') :
    MembersRearranged (Record.insert tree name value) (Record.insert tree name value') := by
  induction tree with
  | nil => exact .cons name h .nil
  | cons m rest ih =>
    obtain ⟨n, part⟩ := m
    simp only [Record.insert]
    split
    · exact .cons n h (membersRearranged_self rest)
    · exact .cons n (.same part) ih

/-- The members of the object a way leads to; there are none if it leads to something else. -/
def membersAt (value : Json) (way : Path) : Record Json := ((value.walk? way).bind object?).getD []

end Json

namespace Path

/-- The keys a path begins with, up to its first position. -/
def keyStart (path : Path) : Path := path.takeWhile Step.isKey

@[simp] theorem keyStart_key (name : String) (path : Path) :
    keyStart (.key name :: path) = .key name :: path.keyStart := rfl

@[simp] theorem keyStart_position (index : Nat) (path : Path) :
    keyStart (.position index :: path) = [] := rfl

theorem isKey_of_mem_keyStart {path : Path} {step : Step} (h : step ∈ path.keyStart) :
    step.isKey = true :=
  List.mem_takeWhile_imp h

end Path

namespace Tree

open Json (Rearranged membersAt)

variable {tree : Record Json} {path other : Path} {value value' : Json} {name : String}

/-- What is put in twice below one name changes the object there twice. -/
theorem insert_insert_key (tree : Record Json) (name : String) (hpath : path ≠ [])
    (hother : other ≠ []) (value value' : Json) :
    insert (insert tree (.key name :: path) value) (.key name :: other) value' =
      Record.insert tree name
        (.object (insert (insert (branch tree name) path value) other value')) := by
  obtain ⟨step, rest, rfl⟩ := List.exists_cons_of_ne_nil hpath
  exact insert_insert_below tree _ name hother value'

/-! ## One place -/

/-- What is put in at one place later replaces what was put in there before. -/
theorem insert_insert_self (tree : Record Json) (path : Path) (value value' : Json) :
    insert (insert tree path value) path value' = insert tree path value' := by
  induction path generalizing tree with
  | nil => rfl
  | cons step below ih =>
    cases step with
    | position => rfl
    | key name =>
      cases below with
      | nil => exact Record.insert_insert tree name value value'
      | cons next further =>
        rw [insert_insert_key _ _ (List.cons_ne_nil _ _) (List.cons_ne_nil _ _), ih, insert]

/-- A value that is put in where it is found changes nothing. -/
theorem insert_of_walk? (hkeys : ∀ step ∈ path, step.isKey = true)
    (h : (Json.object tree).walk? path = some value) : insert tree path value = tree := by
  induction path generalizing tree with
  | nil => rfl
  | cons step below ih =>
    obtain ⟨hstep, hbelow⟩ := List.forall_mem_cons.1 hkeys
    obtain ⟨part, hpart, hrest⟩ := Option.bind_eq_some_iff.1 h
    cases step with
    | position => cases hstep
    | key name =>
      cases below with
      | nil =>
        obtain rfl := Option.some.inj hrest
        exact Record.insert_of_get? hpart
      | cons next further =>
        cases next with
        | position => exact absurd (hbelow _ (.head _)) Bool.false_ne_true
        | key name' =>
          -- a key leads on from an object only
          obtain ⟨_, hnext, -⟩ := Option.bind_eq_some_iff.1 hrest
          obtain ⟨members, rfl, -⟩ := Json.child?_key_eq_some.1 hnext
          have hget : tree.get? name = some (.object members) := hpart
          have hbranch : branch tree name = members := by simp [branch, hget, Json.object?]
          rw [insert, hbranch, ih hbelow hrest, Record.insert_of_get? hget]

/-! ## Two places -/

/-- A path that begins with a name changes the value there and looks at no other one. -/
theorem exists_insert_key (tree : Record Json) (name : String) (rest : Path) (value : Json) :
    ∃ part, insert tree (.key name :: rest) value = Record.insert tree name part ∧
      ∀ other sibling, other ≠ name →
        insert (Record.insert tree other sibling) (.key name :: rest) value =
          Record.insert (Record.insert tree other sibling) name part := by
  cases rest with
  | nil => exact ⟨value, rfl, fun _ _ _ => rfl⟩
  | cons next further =>
    refine ⟨_, rfl, fun other sibling hne => ?_⟩
    simp [insert, branch, Record.get?_insert, hne]

/-- Two values whose paths do not run through each other come in either order to the same tree, up
to the order of members. -/
theorem insert_comm (tree : Record Json) (hpath : ∀ step ∈ path, step.isKey = true)
    (hother : ∀ step ∈ other, step.isKey = true) (hapart : path.conflicts other = false) :
    Rearranged (.object (insert (insert tree path value) other value'))
      (.object (insert (insert tree other value') path value)) := by
  induction path generalizing tree other with
  | nil => simp [Path.conflicts] at hapart
  | cons step below ih =>
    rcases other with _ | ⟨step', below'⟩
    · simp [Path.conflicts] at hapart
    obtain ⟨hstep, hbelow⟩ := List.forall_mem_cons.1 hpath
    obtain ⟨hstep', hbelow'⟩ := List.forall_mem_cons.1 hother
    cases step with
    | position => cases hstep
    | key name =>
      cases step' with
      | position => cases hstep'
      | key name' =>
        by_cases hname : name = name'
        · -- both lead through one name, so they part further down
          subst hname
          rw [Path.conflicts_cons] at hapart
          rcases below with _ | ⟨next, further⟩
          · simp [Path.conflicts] at hapart
          rcases below' with _ | ⟨next', further'⟩
          · simp [Path.conflicts] at hapart
          rw [insert_insert_key _ _ (List.cons_ne_nil _ _) (List.cons_ne_nil _ _),
            insert_insert_key _ _ (List.cons_ne_nil _ _) (List.cons_ne_nil _ _)]
          exact .object (.insert tree (ih _ hbelow hbelow' hapart)) (.refl _)
        · -- each changes the value of its own name
          obtain ⟨part, hpart, hpartAfter⟩ := exists_insert_key tree name below value
          obtain ⟨part', hpart', hpartAfter'⟩ := exists_insert_key tree name' below' value'
          rw [hpart, hpart', hpartAfter' name part hname, hpartAfter name' part' (Ne.symm hname)]
          exact .object (Json.membersRearranged_self _)
            (Record.perm_insert_insert tree hname part part')

/-- What is put in at a path of keys is found there; every way of keys apart leads where it led;
what is put in at the path later replaces it; and with what is put in apart the order does not
matter, but for the order of members. -/
theorem insert_lawful (tree : Record Json) (value : Json) (hpath : path ≠ [])
    (hkeys : ∀ step ∈ path, step.isKey = true) :
    (Json.object (insert tree path value)).walk? path = some value ∧
      (∀ way : Path, (∀ step ∈ way, step.isKey = true) → path.conflicts way = false →
        (Json.object (insert tree path value)).walk? way = (Json.object tree).walk? way) ∧
      (∀ later, insert (insert tree path value) path later = insert tree path later) ∧
      ∀ (apart : Path) (beside : Json), (∀ step ∈ apart, step.isKey = true) →
        path.conflicts apart = false →
        Rearranged (.object (insert (insert tree path value) apart beside))
          (.object (insert (insert tree apart beside) path value)) :=
  ⟨walk?_insert_self tree value hpath hkeys,
    fun _ hway hapart => walk?_insert_of_apart tree value hway hapart,
    insert_insert_self tree path value,
    fun _ _ hother hapart => insert_comm tree hkeys hother hapart⟩

/-- A tree where a list and a null stand in the way of some paths. -/
def shelf : Record Json :=
  [("books", .array [.object [("title", .string "A")]]), ("owner", .null),
    ("size", .object [("width", .string "8"), ("height", .string "9")])]

theorem shelf_insert_lawful :
    (Path.ofKeys ["books", "first", "title"] ≠ [] ∧
      ∀ step ∈ Path.ofKeys ["books", "first", "title"], step.isKey = true) ∧
    (Json.object (insert shelf (.ofKeys ["books", "first", "title"]) .null)).walk?
        (.ofKeys ["books", "first", "title"]) = some .null ∧
      (∀ way : Path, (∀ step ∈ way, step.isKey = true) →
        (Path.ofKeys ["books", "first", "title"]).conflicts way = false →
        (Json.object (insert shelf (.ofKeys ["books", "first", "title"]) .null)).walk? way =
          (Json.object shelf).walk? way) ∧
      (∀ later, insert (insert shelf (.ofKeys ["books", "first", "title"]) .null)
          (.ofKeys ["books", "first", "title"]) later =
        insert shelf (.ofKeys ["books", "first", "title"]) later) ∧
      ∀ (apart : Path) (beside : Json), (∀ step ∈ apart, step.isKey = true) →
        (Path.ofKeys ["books", "first", "title"]).conflicts apart = false →
        Rearranged
          (.object (insert (insert shelf (.ofKeys ["books", "first", "title"]) .null) apart beside))
          (.object
            (insert (insert shelf apart beside) (.ofKeys ["books", "first", "title"]) .null)) := by
  have hpath : Path.ofKeys ["books", "first", "title"] ≠ [] := by decide
  have hkeys : ∀ step ∈ Path.ofKeys ["books", "first", "title"], step.isKey = true := by decide
  exact ⟨⟨hpath, hkeys⟩, insert_lawful shelf .null hpath hkeys⟩

/-! ## Paths with positions -/

theorem membersAt_key (tree : Record Json) (name : String) :
    membersAt (.object tree) [.key name] = branch tree name := by
  simp [membersAt, branch, Json.walk?_singleton, Json.child?, Json.member?]

theorem membersAt_branch (tree : Record Json) (name next : String) (rest : Path) :
    membersAt (.object (branch tree name)) (.key next :: rest) =
      membersAt (.object tree) (.key name :: .key next :: rest) := by
  rw [membersAt, walk?_branch, membersAt]

/-- At a path with a position nothing is put in but the objects on the way to the position, and
they keep what they have. -/
theorem insert_position_eq (tree : Record Json) (value : Json)
    (hposition : ∃ step ∈ path, step.isKey = false) :
    insert tree path value =
      insert tree path.keyStart (.object (membersAt (.object tree) path.keyStart)) := by
  induction path generalizing tree with
  | nil => simp at hposition
  | cons step below ih =>
    cases step with
    | position => rfl
    | key name =>
      have hbelow : ∃ step ∈ below, step.isKey = false := by simpa [Step.isKey] using hposition
      have hinner := ih (branch tree name) hbelow
      rcases below with _ | ⟨next, further⟩
      · simp at hbelow
      cases next with
      | position =>
        rw [insert, insert, Path.keyStart_key, Path.keyStart_position, membersAt_key, insert]
      | key name' =>
        rw [Path.keyStart_key, membersAt_branch] at hinner
        rw [insert, hinner, Path.keyStart_key, Path.keyStart_key, insert]

/-- At a path with a position no value is put in, only the objects on the way to the position; so
the tree is left as it was just if the keys before the position lead to an object already. -/
theorem insert_at_position (tree : Record Json) (value : Json)
    (hposition : ∃ step ∈ path, step.isKey = false) :
    insert tree path value =
        insert tree path.keyStart (.object (membersAt (.object tree) path.keyStart)) ∧
      (insert tree path value = tree ↔
        ∃ members, (Json.object tree).walk? path.keyStart = some (.object members)) := by
  have heq := insert_position_eq tree value hposition
  have hkeys : ∀ step ∈ path.keyStart, step.isKey = true := fun _ => Path.isKey_of_mem_keyStart
  refine ⟨heq, fun hself => ?_, ?_⟩
  · by_cases hnil : path.keyStart = []
    · exact ⟨tree, by rw [hnil, Json.walk?]⟩
    · have hfound := walk?_insert_self tree (.object (membersAt (.object tree) path.keyStart))
        hnil hkeys
      rw [← heq, hself] at hfound
      exact ⟨_, hfound⟩
  · rintro ⟨members, hmembers⟩
    have hat : membersAt (.object tree) path.keyStart = members := by
      simp [membersAt, hmembers, Json.object?]
    rw [heq, hat, insert_of_walk? hkeys hmembers]

theorem shelf_insert_at_position :
    (∃ step ∈ [Step.key "books", .position 0, .key "title"], step.isKey = false) ∧
      insert shelf [.key "books", .position 0, .key "title"] .null =
        insert shelf [.key "books"] (.object []) ∧
      (insert shelf [.key "books", .position 0, .key "title"] .null = shelf ↔
        ∃ members, (Json.object shelf).walk? [.key "books"] = some (.object members)) := by
  have hposition : ∃ step ∈ [Step.key "books", .position 0, .key "title"],
      step.isKey = false := by decide
  exact ⟨hposition, insert_at_position shelf .null hposition⟩

/-- What stands under a key before a position is lost where it is not an object, as a list is. -/
theorem insert_below_list_clears :
    insert [("a", .array [.null])] [.key "a", .position 0] (.bool true) = [("a", .object [])] ∧
      ¬ ∀ (tree : Record Json) (path : Path) (value : Json),
        (∃ step ∈ path, step.isKey = false) → insert tree path value = tree := by
  refine ⟨rfl, fun hall => ?_⟩
  have hsame := hall [("a", .array [.null])] [.key "a", .position 0] (.bool true) (by decide)
  simp [insert, Record.insert] at hsame

end Tree

end ItemTable
