set_option autoImplicit false

/-! # Ordered records

A `Record α` gives names values and remembers the order in which the names first came. Objects,
items and placeholder tables are records. Every operation says what it does to a look-up. -/

namespace ItemTable

/-- The strings without repeats, each at its first place. -/
def distinct (xs : List String) : List String :=
  xs.foldl (fun acc x => if x ∈ acc then acc else acc ++ [x]) []

/-- Names with one value each, in the order in which the names came. -/
abbrev Record (α : Type) := List (String × α)

namespace Record

variable {α : Type}

/-- The names, in order. -/
def names (r : Record α) : List String := r.map (·.1)

/-- The value under `name`. -/
def get? : Record α → String → Option α
  | [], _ => none
  | (n, v) :: rest, name => if n = name then some v else get? rest name

/-- Whether `name` has a value. -/
def contains (r : Record α) (name : String) : Bool := (r.get? name).isSome

/-- Gives `name` a value: a known name keeps its place, a new one goes to the end. -/
def insert : Record α → String → α → Record α
  | [], name, value => [(name, value)]
  | (n, v) :: rest, name, value =>
    if n = name then (n, value) :: rest else (n, v) :: insert rest name value

/-- Takes `name` out; the other names keep their order. -/
def erase : Record α → String → Record α
  | [], _ => []
  | (n, v) :: rest, name => if n = name then rest else (n, v) :: erase rest name

/-- Takes `name` out and moves the last entry into its place. -/
def swapErase : Record α → String → Record α
  | [], _ => []
  | (n, v) :: rest, name =>
    if n = name then
      match rest.getLast? with
      | none => []
      | some last => last :: rest.dropLast
    else (n, v) :: swapErase rest name

/-- All entries of `s` put into `r`, in order. -/
def merge (r s : Record α) : Record α := s.foldl (fun acc e => acc.insert e.1 e.2) r

/-- The record of a list of entries: of entries with one name the last value counts. -/
def ofEntries (entries : List (String × α)) : Record α := merge [] entries

/-- Puts an entry before the first name that is not smaller. -/
def insertSorted (entry : String × α) : Record α → Record α
  | [] => [entry]
  | e :: rest => if e.1 < entry.1 then e :: insertSorted entry rest else entry :: e :: rest

/-- The entries by name, in the order of code points. -/
def sort (r : Record α) : Record α := r.foldr insertSorted []

theorem get?_insert (r : Record α) (name other : String) (value : α) :
    (r.insert name value).get? other = if name = other then some value else r.get? other := by
  induction r with
  | nil => simp [insert, get?]
  | cons e rest ih =>
    obtain ⟨n, v⟩ := e
    by_cases hn : n = name
    · subst hn
      by_cases ho : n = other <;> simp [insert, get?, ho]
    · by_cases ho : n = other
      · subst ho
        simp [insert, get?, hn, Ne.symm hn]
      · simp [insert, get?, hn, ho, ih]

theorem get?_eq_none_iff (r : Record α) (name : String) :
    r.get? name = none ↔ name ∉ r.names := by
  induction r with
  | nil => simp [get?, names]
  | cons e rest ih =>
    obtain ⟨n, v⟩ := e
    by_cases h : n = name
    · simp [get?, names, h]
    · have h' : ¬ name = n := fun g => h g.symm
      simp only [get?, h, if_false, ih, names, List.map_cons, List.mem_cons, h', false_or]

theorem names_insert_of_mem (r : Record α) (name : String) (value : α) (h : name ∈ r.names) :
    (r.insert name value).names = r.names := by
  induction r with
  | nil => simp [names] at h
  | cons e rest ih =>
    obtain ⟨n, v⟩ := e
    by_cases hn : n = name
    · simp [insert, names, hn]
    · have : name ∈ names rest := by
        simpa [names, Ne.symm hn] using h
      simpa [insert, names, hn] using ih this

theorem names_insert_of_not_mem (r : Record α) (name : String) (value : α)
    (h : name ∉ r.names) : (r.insert name value).names = r.names ++ [name] := by
  induction r with
  | nil => simp [insert, names]
  | cons e rest ih =>
    obtain ⟨n, v⟩ := e
    simp only [names, List.map_cons, List.mem_cons, not_or] at h
    have hn : n ≠ name := fun g => h.1 g.symm
    simpa [insert, names, hn] using ih h.2

end Record

end ItemTable
