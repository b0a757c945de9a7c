import ItemTable.Record

set_option autoImplicit false

/-! # Merging records

Records without a name in common are merged by putting one after the other, and in general the
entries that come last count (`Record.get?_merge`). A name that is taken out leaves the other names
their values, also where the last entry moves into the gap (`Record.get?_swapErase`). Numbered
entries make a record in which every number's name has its own value. Of strings that repeat, the
first occurrences stay, in their order (`distinct_eq_eraseDups`). -/

namespace ItemTable

/-! ## First occurrences -/

section Lists

variable {α β : Type} [BEq α] [LawfulBEq α] [BEq β] [LawfulBEq β]

theorem eraseDups_of_forall_eq {a : α} {xs : List α} (hne : xs ≠ []) (h : ∀ x ∈ xs, x = a) :
    xs.eraseDups = [a] := by
  obtain ⟨x, xs, rfl⟩ := List.exists_cons_of_ne_nil hne
  obtain ⟨rfl, hxs⟩ := List.forall_mem_cons.1 h
  have hnone : xs.filter (fun b => !b == x) = [] := by
    refine List.filter_eq_nil_iff.2 fun b hb => ?_
    simp [hxs b hb]
  rw [List.eraseDups_cons, hnone, List.eraseDups_nil]

theorem nodup_eraseDups (xs : List α) : xs.eraseDups.Nodup := by
  match xs with
  | [] => exact List.nodup_nil
  | x :: xs =>
    rw [List.eraseDups_cons]
    refine List.nodup_cons.2 ⟨?_, nodup_eraseDups _⟩
    rw [List.mem_eraseDups, List.mem_filter]
    simp
termination_by xs.length
decreasing_by
  exact Nat.lt_succ_of_le (List.length_filter_le ..)

theorem eraseDups_of_nodup {xs : List α} (h : xs.Nodup) : xs.eraseDups = xs := by
  induction xs with
  | nil => rfl
  | cons x xs ih =>
    obtain ⟨hx, hxs⟩ := List.nodup_cons.1 h
    have hkept : xs.filter (fun b => !b == x) = xs := by
      refine List.filter_eq_self.2 fun b hb => ?_
      have hne : b ≠ x := fun heq => hx (heq ▸ hb)
      simp [hne]
    rw [List.eraseDups_cons, hkept, ih hxs]

/-- Where no two elements are mapped to one, the first occurrences are mapped to the first
occurrences. -/
theorem eraseDups_map {f : α → β} {xs : List α} (hf : ∀ x ∈ xs, ∀ y ∈ xs, f x = f y → x = y) :
    (xs.map f).eraseDups = xs.eraseDups.map f := by
  match xs with
  | [] => rfl
  | x :: xs =>
    have hbeq : ∀ y ∈ xs, (f y == f x) = (y == x) := fun y hy => by
      rw [Bool.eq_iff_iff, beq_iff_eq, beq_iff_eq]
      exact ⟨hf y (.tail _ hy) x (.head _), congrArg f⟩
    have hfilter : (xs.map f).filter (fun b => !b == f x) =
        (xs.filter fun a => !a == x).map f := by
      rw [List.filter_map]
      congr 1
      exact List.filter_congr fun y hy => congrArg not (hbeq y hy)
    have hrest : ∀ y ∈ xs.filter (fun a => !a == x), ∀ z ∈ xs.filter (fun a => !a == x),
        f y = f z → y = z := fun y hy z hz =>
      hf y (.tail _ (List.mem_filter.1 hy).1) z (.tail _ (List.mem_filter.1 hz).1)
    rw [List.map_cons, List.eraseDups_cons, List.eraseDups_cons, hfilter, eraseDups_map hrest,
      List.map_cons]
termination_by xs.length
decreasing_by
  exact Nat.lt_succ_of_le (List.length_filter_le ..)

theorem eraseDups_append_of_disjoint {xs ys : List α} (h : ∀ y ∈ ys, y ∉ xs) :
    (xs ++ ys).eraseDups = xs.eraseDups ++ ys.eraseDups := by
  have hys : ys.removeAll xs = ys := by
    refine List.filter_eq_self.2 fun y hy => ?_
    simp [h y hy]
  rw [List.eraseDups_append, hys]

theorem removeAll_append_singleton (xs ys : List α) (a : α) :
    xs.removeAll (ys ++ [a]) = (xs.removeAll ys).filter fun b => !b == a := by
  rw [List.removeAll, List.removeAll, List.filter_filter]
  refine List.filter_congr fun b _ => ?_
  by_cases hb : b = a <;> simp [hb]

end Lists

/-! ## Distinct strings -/

/-- After the strings that were there before come the first occurrences of the others. -/
theorem distinct_from_eq (acc xs : List String) :
    xs.foldl (fun acc x => if x ∈ acc then acc else acc ++ [x]) acc =
      acc ++ (xs.removeAll acc).eraseDups := by
  induction xs generalizing acc with
  | nil => exact (List.append_nil acc).symm
  | cons x xs ih =>
    rw [List.foldl_cons, ih, List.cons_removeAll]
    by_cases hx : x ∈ acc
    · simp [hx]
    · simp [hx, List.eraseDups_cons, removeAll_append_singleton]

/-- The distinct strings are the first occurrences. -/
theorem distinct_eq_eraseDups (xs : List String) : distinct xs = xs.eraseDups := by
  rw [distinct, distinct_from_eq, List.nil_append, List.removeAll_nil]

theorem nodup_distinct (xs : List String) : (distinct xs).Nodup := by
  rw [distinct_eq_eraseDups]
  exact nodup_eraseDups xs

theorem mem_distinct {xs : List String} {s : String} : s ∈ distinct xs ↔ s ∈ xs := by
  rw [distinct_eq_eraseDups, List.mem_eraseDups]

/-- Strings that do not repeat are all kept. -/
theorem distinct_of_nodup {xs : List String} (h : xs.Nodup) : distinct xs = xs := by
  rw [distinct_eq_eraseDups, eraseDups_of_nodup h]

/-- Where no two strings are mapped to one, the distinct ones are mapped to the distinct ones. -/
theorem distinct_map {f : String → String} {xs : List String}
    (hf : ∀ x ∈ xs, ∀ y ∈ xs, f x = f y → x = y) : distinct (xs.map f) = (distinct xs).map f := by
  rw [distinct_eq_eraseDups, distinct_eq_eraseDups, eraseDups_map hf]

/-- Where no two strings are mapped to one, places have one image exactly if they have one string.
-/
theorem getElem?_map_eq_iff {f : String → String} {xs : List String}
    (hf : ∀ x ∈ xs, ∀ y ∈ xs, f x = f y → x = y) (i j : Nat) :
    (xs.map f)[i]? = (xs.map f)[j]? ↔ xs[i]? = xs[j]? := by
  rw [List.getElem?_map, List.getElem?_map]
  cases hi : xs[i]? with
  | none => cases xs[j]? <;> simp
  | some x =>
    cases hj : xs[j]? with
    | none => simp
    | some y =>
      rw [Option.map_some, Option.map_some, Option.some.injEq, Option.some.injEq]
      exact ⟨hf x (List.mem_of_getElem? hi) y (List.mem_of_getElem? hj), congrArg f⟩

namespace Record

variable {α : Type} {r s : Record α}

theorem names_append (r s : Record α) : names (r ++ s) = r.names ++ s.names := List.map_append

theorem nodup_names_append (hr : r.names.Nodup) (hs : s.names.Nodup)
    (h : ∀ name ∈ s.names, name ∉ r.names) : (names (r ++ s)).Nodup := by
  rw [names_append]
  refine List.nodup_append.2 ⟨hr, hs, ?_⟩
  rintro name hname other hother rfl
  exact h name hother hname

theorem contains_eq_true_iff {name : String} : r.contains name = true ↔ name ∈ r.names := by
  have h := get?_eq_none_iff r name
  unfold contains
  cases hget : r.get? name with
  | none => simpa [hget] using h
  | some value => simpa [hget] using h

theorem mem_names_iff {name : String} : name ∈ r.names ↔ ∃ value, r.get? name = some value := by
  rw [← Option.ne_none_iff_exists', ne_eq, get?_eq_none_iff, Decidable.not_not]

theorem mem_names_insert {name other : String} {value : α} :
    other ∈ (r.insert name value).names ↔ other ∈ r.names ∨ other = name := by
  by_cases hname : name ∈ r.names
  · rw [names_insert_of_mem r name value hname]
    constructor
    · exact .inl
    · rintro (hother | rfl)
      · exact hother
      · exact hname
  · rw [names_insert_of_not_mem r name value hname]
    simp

theorem mem_names_merge {name : String} :
    name ∈ (r.merge s).names ↔ name ∈ r.names ∨ name ∈ s.names := by
  induction s generalizing r with
  | nil => simp [merge, names]
  | cons e rest ih =>
    have hmerge : r.merge (e :: rest) = (r.insert e.1 e.2).merge rest := rfl
    rw [hmerge, ih, mem_names_insert, or_assoc]
    simp [names]

theorem insert_of_not_mem {name : String} {value : α} (h : name ∉ r.names) :
    r.insert name value = r ++ [(name, value)] := by
  induction r with
  | nil => rfl
  | cons e rest ih =>
    obtain ⟨n, v⟩ := e
    simp only [names, List.map_cons, List.mem_cons, not_or] at h
    rw [insert, if_neg fun hn => h.1 hn.symm, ih h.2, List.cons_append]

theorem insert_insert (r : Record α) (name : String) (value value' : α) :
    (r.insert name value).insert name value' = r.insert name value' := by
  induction r with
  | nil => simp [insert]
  | cons e rest ih =>
    obtain ⟨n, v⟩ := e
    by_cases hn : n = name
    · simp [insert, hn]
    · simp [insert, hn, ih]

/-- Nothing is written over where the names are distinct. -/
theorem merge_eq_append (hs : s.names.Nodup) (h : ∀ name ∈ s.names, name ∉ r.names) :
    r.merge s = r ++ s := by
  induction s generalizing r with
  | nil => exact (List.append_nil r).symm
  | cons e rest ih =>
    obtain ⟨n, v⟩ := e
    obtain ⟨hn, hrest⟩ := List.nodup_cons.1 hs
    have hinsert : r.insert n v = r ++ [(n, v)] := insert_of_not_mem (h n (.head _))
    have hmerge : r.merge ((n, v) :: rest) = (r.insert n v).merge rest := rfl
    rw [hmerge, hinsert, ih hrest, List.append_assoc, List.singleton_append]
    intro name hname hmem
    rw [names_append, List.mem_append] at hmem
    rcases hmem with hmem | hmem
    · exact h name (.tail _ hname) hmem
    · obtain rfl : name = n := List.mem_singleton.1 hmem
      exact hn hname

theorem ofEntries_of_nodup {entries : List (String × α)} (h : (names entries).Nodup) :
    ofEntries entries = entries :=
  merge_eq_append h fun _ _ hmem => nomatch hmem

/-- Entries that give each name one value give it that value, wherever the name stood before. -/
theorem get?_merge_of_values {f : String → Option α} (h : ∀ e ∈ s, f e.1 = some e.2)
    (name : String) : (r.merge s).get? name = if name ∈ s.names then f name else r.get? name := by
  induction s generalizing r with
  | nil => rfl
  | cons e rest ih =>
    obtain ⟨n, v⟩ := e
    obtain ⟨hfirst, hrest⟩ := List.forall_mem_cons.1 h
    have hmerge : r.merge ((n, v) :: rest) = (r.insert n v).merge rest := rfl
    rw [hmerge, ih hrest, get?_insert]
    have hnames : name ∈ names ((n, v) :: rest) ↔ n = name ∨ name ∈ names rest := by
      rw [names, List.map_cons, List.mem_cons, eq_comm]
      rfl
    by_cases hname : name ∈ names rest
    · rw [if_pos hname, if_pos (hnames.2 (.inr hname))]
    · rw [if_neg hname]
      by_cases hn : n = name
      · subst hn
        rw [if_pos rfl, if_pos (hnames.2 (.inl rfl))]
        exact hfirst.symm
      · have hnot : name ∉ names ((n, v) :: rest) := fun hmem => (hnames.1 hmem).elim hn hname
        rw [if_neg hn, if_neg hnot]

/-- The entries of some names say of each of them what the record says. -/
theorem get?_ofEntries_of_names (r : Record α) (selected : List String) (name : String) :
    (ofEntries (selected.filterMap fun n => (r.get? n).map fun v => (n, v))).get? name =
      if name ∈ selected then r.get? name else none := by
  have hvalues : ∀ entry ∈ selected.filterMap fun n => (r.get? n).map fun v => (n, v),
      r.get? entry.1 = some entry.2 := by
    intro entry hentry
    obtain ⟨n, -, hn⟩ := List.mem_filterMap.1 hentry
    obtain ⟨v, hv, rfl⟩ := Option.map_eq_some_iff.1 hn
    exact hv
  have hmem : name ∈ names (selected.filterMap fun n => (r.get? n).map fun v => (n, v)) ↔
      name ∈ selected ∧ r.get? name ≠ none := by
    simp only [names, List.mem_map, List.mem_filterMap, Option.map_eq_some_iff]
    constructor
    · rintro ⟨_, ⟨n, hn, v, hv, rfl⟩, rfl⟩
      exact ⟨hn, by simp [hv]⟩
    · rintro ⟨hn, hv⟩
      obtain ⟨v, hv⟩ := Option.ne_none_iff_exists'.1 hv
      exact ⟨(name, v), ⟨name, hn, v, hv, rfl⟩, rfl⟩
  rw [ofEntries, get?_merge_of_values hvalues]
  by_cases hname : name ∈ selected
  · rw [if_pos hname]
    -- a selected name is left out only if it has no value
    cases hvalue : r.get? name with
    | none => exact if_neg fun h => (hmem.1 h).2 hvalue
    | some v => exact if_pos (hmem.2 ⟨hname, by simp [hvalue]⟩)
  · rw [if_neg hname, if_neg fun h => hname (hmem.1 h).1]
    rfl

theorem nodup_names_insert (hr : r.names.Nodup) (name : String) (value : α) :
    (r.insert name value).names.Nodup := by
  by_cases hname : name ∈ r.names
  · rwa [names_insert_of_mem r name value hname]
  · rw [names_insert_of_not_mem r name value hname]
    refine List.nodup_append.2 ⟨hr, by simp, ?_⟩
    rintro other hother _ hlast rfl
    exact hname (List.mem_singleton.1 hlast ▸ hother)

theorem nodup_names_merge (hr : r.names.Nodup) : (r.merge s).names.Nodup := by
  induction s generalizing r with
  | nil => exact hr
  | cons e rest ih => exact ih (nodup_names_insert hr e.1 e.2)

theorem get?_append (r s : Record α) (name : String) :
    get? (r ++ s) name = (r.get? name).or (s.get? name) := by
  induction r with
  | nil => rfl
  | cons e rest ih =>
    obtain ⟨n, v⟩ := e
    by_cases hn : n = name
    · simp [get?, hn]
    · simp [get?, hn, ih]

theorem get?_eq_some_of_mem {name : String} {value : α} (hr : r.names.Nodup)
    (h : (name, value) ∈ r) : r.get? name = some value := by
  induction r with
  | nil => cases h
  | cons e rest ih =>
    obtain ⟨n, v⟩ := e
    obtain ⟨hn, hrest⟩ := List.nodup_cons.1 hr
    rcases List.mem_cons.1 h with h | h
    · cases h
      simp [get?]
    · have hname : name ∈ names rest := List.mem_map_of_mem h
      have hne : n ≠ name := by
        rintro rfl
        exact hn hname
      rw [get?, if_neg hne, ih hrest h]

/-- Entries with distinct names go before what was there. -/
theorem get?_merge (hs : s.names.Nodup) (name : String) :
    (r.merge s).get? name = (s.get? name).or (r.get? name) := by
  have hvalues : ∀ e ∈ s, s.get? e.1 = some e.2 := fun e he => get?_eq_some_of_mem hs he
  rw [get?_merge_of_values hvalues]
  split
  · next hname =>
    obtain ⟨e, he, rfl⟩ := List.mem_map.1 hname
    rw [hvalues e he, Option.some_or]
  · next hname => rw [(get?_eq_none_iff s name).2 hname, Option.none_or]

theorem names_map {β : Type} (f : String → α → β) (r : Record α) :
    names (r.map fun e => (e.1, f e.1 e.2)) = r.names := by
  simp [names]

theorem get?_map {β : Type} (f : String → α → β) (r : Record α) (name : String) :
    get? (r.map fun e => (e.1, f e.1 e.2)) name = (r.get? name).map (f name) := by
  induction r with
  | nil => rfl
  | cons e rest ih =>
    obtain ⟨n, v⟩ := e
    by_cases hn : n = name
    · simp [get?, hn]
    · simp [get?, hn, ih]

theorem mem_of_get?_eq_some {name : String} {value : α} (h : r.get? name = some value) :
    (name, value) ∈ r := by
  induction r with
  | nil => cases h
  | cons e rest ih =>
    obtain ⟨n, v⟩ := e
    by_cases hn : n = name
    · rw [get?, if_pos hn] at h
      cases h
      subst hn
      exact .head _
    · rw [get?, if_neg hn] at h
      exact .tail _ (ih h)

theorem mem_iff_get?_eq_some (hr : r.names.Nodup) {name : String} {value : α} :
    (name, value) ∈ r ↔ r.get? name = some value :=
  ⟨get?_eq_some_of_mem hr, mem_of_get?_eq_some⟩

theorem perm_names (h : r.Perm s) : r.names.Perm s.names := h.map _

theorem get?_of_perm (hr : r.names.Nodup) (h : r.Perm s) (name : String) :
    r.get? name = s.get? name := by
  have hs : s.names.Nodup := (perm_names h).nodup_iff.1 hr
  refine Option.ext fun value => ?_
  rw [← mem_iff_get?_eq_some hr, ← mem_iff_get?_eq_some hs, h.mem_iff]

theorem get?_append_of_disjoint (h : ∀ name ∈ s.names, name ∉ r.names) {name : String}
    {value : α} (hs : s.get? name = some value) : get? (r ++ s) name = some value := by
  have hname : name ∈ s.names := by
    refine Decidable.byContradiction fun hname => ?_
    rw [(get?_eq_none_iff s name).2 hname] at hs
    cases hs
  rw [get?_append, (get?_eq_none_iff r name).2 (h name hname), Option.none_or, hs]

/-! ## Taking a name out -/

theorem sublist_erase (r : Record α) (name : String) : (r.erase name).Sublist r := by
  induction r with
  | nil => exact List.Sublist.refl _
  | cons e rest ih =>
    rw [erase]
    split
    · exact List.sublist_cons_self _ _
    · exact List.Sublist.cons_cons _ ih

theorem get?_erase_of_ne {name other : String} (hne : name ≠ other) (r : Record α) :
    (r.erase name).get? other = r.get? other := by
  induction r with
  | nil => rfl
  | cons e rest ih =>
    obtain ⟨n, v⟩ := e
    by_cases hn : n = name
    · subst hn
      simp [erase, get?, hne]
    · simp [erase, get?, hn, ih]

theorem get?_erase_self (hr : r.names.Nodup) (name : String) : (r.erase name).get? name = none := by
  induction r with
  | nil => rfl
  | cons e rest ih =>
    obtain ⟨n, v⟩ := e
    obtain ⟨hfirst, hrest⟩ := List.nodup_cons.1 hr
    by_cases hn : n = name
    · subst hn
      rw [erase, if_pos rfl]
      exact (get?_eq_none_iff rest n).2 hfirst
    · rw [erase, if_neg hn, get?, if_neg hn, ih hrest]

/-- Moving the last entry into the gap changes the order alone. -/
theorem perm_swapErase (r : Record α) (name : String) : (r.swapErase name).Perm (r.erase name) := by
  induction r with
  | nil => exact List.Perm.refl _
  | cons e rest ih =>
    rw [swapErase, erase]
    split
    · split
      · next hlast => rw [List.getLast?_eq_none_iff.1 hlast]
      · next last hlast =>
        obtain ⟨start, rfl⟩ := List.getLast?_eq_some_iff.1 hlast
        rw [List.dropLast_concat]
        exact (List.perm_append_singleton last start).symm
    · exact List.Perm.cons e ih

theorem nodup_names_swapErase (hr : r.names.Nodup) (name : String) :
    (r.swapErase name).names.Nodup := by
  have herase : (r.erase name).names.Nodup := List.Nodup.sublist ((sublist_erase r name).map _) hr
  exact (perm_names (perm_swapErase r name)).nodup_iff.2 herase

theorem get?_swapErase (hr : r.names.Nodup) (name other : String) :
    (r.swapErase name).get? other = if name = other then none else r.get? other := by
  rw [get?_of_perm (nodup_names_swapErase hr name) (perm_swapErase r name)]
  by_cases hne : name = other
  · rw [if_pos hne, ← hne, get?_erase_self hr]
  · rw [if_neg hne, get?_erase_of_ne hne]

/-! ## Numbered entries -/

variable {f : Nat → String} {values : List α}

theorem names_numbered (f : Nat → String) (values : List α) :
    names (values.mapIdx fun i value => (f i, value)) = (List.range values.length).map f := by
  refine List.ext_getElem (by simp [names]) fun i _ _ => ?_
  simp [names]

theorem nodup_names_numbered (hf : ∀ i j, f i = f j → i = j) :
    (names (values.mapIdx fun i value => (f i, value))).Nodup := by
  rw [names_numbered]
  exact List.Pairwise.map f (fun i j hij heq => hij (hf i j heq)) List.nodup_range

theorem get?_numbered (hf : ∀ i j, f i = f j → i = j) {i : Nat} {value : α}
    (h : values[i]? = some value) :
    get? (values.mapIdx fun i value => (f i, value)) (f i) = some value := by
  refine get?_eq_some_of_mem (nodup_names_numbered hf) (List.mem_mapIdx.2 ?_)
  obtain ⟨hi, rfl⟩ := List.getElem?_eq_some_iff.1 h
  exact ⟨i, hi, rfl⟩

/-! ## Sorting -/

theorem perm_insertSorted (e : String × α) (r : Record α) : (insertSorted e r).Perm (e :: r) := by
  induction r with
  | nil => exact List.Perm.refl _
  | cons first rest ih =>
    unfold insertSorted
    by_cases h : first.1 < e.1
    · rw [if_pos h]
      exact (List.Perm.cons first ih).trans (List.Perm.swap e first rest)
    · rw [if_neg h]

/-- A sorted record has the same entries. -/
theorem perm_sort (r : Record α) : (sort r).Perm r := by
  induction r with
  | nil => exact List.Perm.refl _
  | cons e rest ih =>
    have hstep : sort (e :: rest) = insertSorted e (sort rest) := rfl
    rw [hstep]
    exact (perm_insertSorted e (sort rest)).trans (List.Perm.cons e ih)

/-- Only names decide where an entry goes. -/
theorem sort_map {β : Type} (f : String × α → String × β) (hf : ∀ e, (f e).1 = e.1)
    (r : Record α) : sort (r.map f) = (sort r).map f := by
  have hinsert : ∀ (e : String × α) (r : Record α),
      insertSorted (f e) (r.map f) = (insertSorted e r).map f := by
    intro e r
    induction r with
    | nil => rfl
    | cons first rest ih =>
      by_cases h : first.1 < e.1
      · simp [insertSorted, hf, h, ih]
      · simp [insertSorted, hf, h]
  induction r with
  | nil => rfl
  | cons e rest ih =>
    have hstep : sort (e :: rest) = insertSorted e (sort rest) := rfl
    have hstep' : sort ((e :: rest).map f) = insertSorted (f e) (sort (rest.map f)) := rfl
    rw [hstep, hstep', ih, hinsert]

theorem get?_insertSorted (e : String × α) (r : Record α) (name : String) :
    get? (insertSorted e r) name = if e.1 = name then some e.2 else r.get? name := by
  induction r with
  | nil => rfl
  | cons first rest ih =>
    unfold insertSorted
    by_cases h : first.1 < e.1
    · rw [if_pos h, get?, get?, ih]
      by_cases hfirst : first.1 = name
      · have hne : e.1 ≠ name := fun he => String.lt_irrefl _ (he ▸ hfirst ▸ h)
        rw [if_pos hfirst, if_pos hfirst, if_neg hne]
      · rw [if_neg hfirst, if_neg hfirst]
    · rw [if_neg h]
      rfl

/-- A sorted record gives its names the same values, also where a name repeats. -/
theorem get?_sort (r : Record α) (name : String) : (sort r).get? name = r.get? name := by
  induction r with
  | nil => rfl
  | cons e rest ih =>
    have hstep : sort (e :: rest) = insertSorted e (sort rest) := rfl
    rw [hstep, get?_insertSorted, ih]
    rfl

end Record

end ItemTable
