import ItemTable.Proofs.Placeholder.Words

set_option autoImplicit false

/-! # Names that were seen

Seeing more names keeps the placeholders of those that were seen before. In the table of names that
were seen one by one, each name's placeholder leads back to it. -/

namespace ItemTable

namespace Names

variable {names : Names} {paths : List Path} {name other : String}

/-! ## Seeing names -/

theorem mem_see : other ∈ (names.see name).seen ↔ other ∈ names.seen ∨ other = name := by
  unfold see
  split
  · rename_i hname
    constructor
    · exact .inl
    · rintro (hother | rfl)
      · exact hother
      · exact hname
  · simp

theorem nodup_see (h : names.seen.Nodup) : (names.see name).seen.Nodup := by
  unfold see
  split
  · exact h
  · rename_i hname
    refine List.nodup_append.2 ⟨h, by simp, ?_⟩
    rintro x hx y hy rfl
    obtain rfl := List.mem_singleton.1 hy
    exact hname hx

theorem seen_see (names : Names) (name : String) :
    ∃ rest, (names.see name).seen = names.seen ++ rest := by
  unfold see
  split
  · exact ⟨[], (List.append_nil _).symm⟩
  · exact ⟨[name], rfl⟩

/-- The names on a list of paths. -/
def onPaths (paths : List Path) : List String := paths.flatMap Path.keys

theorem mem_seePaths :
    other ∈ (names.seePaths paths).seen ↔ other ∈ names.seen ∨ other ∈ onPaths paths := by
  unfold seePaths
  rw [← onPaths]
  induction onPaths paths generalizing names with
  | nil => simp
  | cons name rest ih => rw [List.foldl_cons, ih, mem_see, List.mem_cons, or_assoc]

theorem nodup_seePaths (h : names.seen.Nodup) : (names.seePaths paths).seen.Nodup := by
  unfold seePaths
  induction paths.flatMap Path.keys generalizing names with
  | nil => exact h
  | cons name rest ih => exact ih (nodup_see h)

theorem seen_seePaths (names : Names) (paths : List Path) :
    ∃ rest, (names.seePaths paths).seen = names.seen ++ rest := by
  unfold seePaths
  induction paths.flatMap Path.keys generalizing names with
  | nil => exact ⟨[], (List.append_nil _).symm⟩
  | cons name rest ih =>
    obtain ⟨first, hfirst⟩ := names.seen_see name
    obtain ⟨second, hsecond⟩ := ih (names.see name)
    exact ⟨first ++ second, by rw [List.foldl_cons, hsecond, hfirst, List.append_assoc]⟩

theorem nodup_empty : empty.seen.Nodup := List.nodup_nil

/-- Every name on the path was seen, so each has a placeholder. -/
def Covers (names : Names) (path : Path) : Prop := ∀ name ∈ path.keys, name ∈ names.seen

theorem covers_seePaths (names : Names) {paths : List Path} :
    ∀ path ∈ paths, (names.seePaths paths).Covers path := fun path hpath _ hname =>
  mem_seePaths.2 (.inr (List.mem_flatMap.2 ⟨path, hpath, hname⟩))

theorem Covers.seePaths {path : Path} (h : names.Covers path) (paths : List Path) :
    (names.seePaths paths).Covers path := fun name hname => mem_seePaths.2 (.inl (h name hname))

/-! ## Placeholders of names -/

theorem placeholder_seePaths (h : name ∈ names.seen) :
    (names.seePaths paths).placeholder name = names.placeholder name := by
  obtain ⟨rest, hrest⟩ := names.seen_seePaths paths
  rw [placeholder, placeholder, hrest, List.idxOf_append, if_pos h]

theorem names_table (names : Names) :
    names.table.names = (List.range names.seen.length).map Placeholder.name :=
  Record.names_numbered Placeholder.name names.seen

theorem nodup_names_table (names : Names) : names.table.names.Nodup :=
  Record.nodup_names_numbered fun _ _ => Placeholder.name_inj

/-- The table gives back the name of a placeholder. -/
theorem get?_table (h : name ∈ names.seen) :
    names.table.get? (names.placeholder name) = some name := by
  have hlt := List.idxOf_lt_length_of_mem h
  exact Record.get?_numbered (fun _ _ => Placeholder.name_inj)
    (List.getElem?_eq_some_iff.2 ⟨hlt, List.getElem_idxOf hlt⟩)

/-- The table is about the placeholders of the names that were seen. -/
theorem mem_names_table (hnodup : names.seen.Nodup) {token : String} :
    token ∈ names.table.names ↔ ∃ name ∈ names.seen, token = names.placeholder name := by
  rw [names_table, List.mem_map]
  constructor
  · rintro ⟨i, hi, rfl⟩
    have hi := List.mem_range.1 hi
    exact ⟨names.seen[i], List.getElem_mem hi, by rw [placeholder, hnodup.idxOf_getElem]⟩
  · rintro ⟨name, hname, rfl⟩
    exact ⟨_, List.mem_range.2 (List.idxOf_lt_length_of_mem hname), rfl⟩

end Names

end ItemTable
