import ItemTable.Proofs.Json.Pointer
import ItemTable.Proofs.Schema.Lowering

set_option autoImplicit false

/-! # Parts of the full copy

A part of the full copy of a schema stands for the part of the document at the same place
(`Json.IsCopy`), or it was put in for a type and is inert: nothing is required by it. References
lead to such parts as well (`resolve?_of_copy`), unless they lead into a list of types in which
something repeats: there, elements are dropped, and those behind them move up. -/

namespace ItemTable

namespace Json

/-- A part of the full copy stands for a part of the document: it is that part lowered, or, where
the document holds data, the part itself. -/
def IsCopy (part copy : Json) : Prop := copy = part ∨ copy = part.lower true

/-- A schema that names a type and no more, or that is neither an object nor `false`. -/
inductive Inert : Json → Prop
  | typed (text : String) : Inert (.object [("type", .string text)])
  | plain {x : Json} (hobject : x.isObject = false) (hnever : x ≠ .bool false) : Inert x

section

variable {part copy x y : Json} {xs ys : Record Json} {name : String}

theorem isCopy_self (part : Json) : IsCopy part part := .inl rfl

theorem isCopy_lower (part : Json) : IsCopy part (part.lower true) := .inr rfl

theorem isCopy_lowerMember (name : String) (x : Json) : IsCopy x (lowerMember true name x) := by
  unfold lowerMember
  split
  · exact .inl rfl
  · exact .inr rfl

theorem IsCopy.eq_object (h : IsCopy part (.object ys)) : ∃ xs, part = .object xs := by
  rcases h with rfl | h
  · exact ⟨ys, rfl⟩
  · cases part with
    | object xs => exact ⟨xs, rfl⟩
    | _ => cases h

theorem IsCopy.eq_array {ys : List Json} (h : IsCopy part (.array ys)) :
    ∃ xs, part = .array xs := by
  rcases h with rfl | h
  · exact ⟨ys, rfl⟩
  · cases part with
    | array xs => exact ⟨xs, rfl⟩
    | _ => cases h

theorem IsCopy.isArray_eq (h : IsCopy part copy) : copy.isArray = part.isArray := by
  rcases h with rfl | rfl
  · rfl
  · exact isArray_lower true part

theorem IsCopy.isObject_eq (h : IsCopy part copy) : copy.isObject = part.isObject := by
  rcases h with rfl | rfl
  · rfl
  · cases part <;> rfl

theorem IsCopy.string?_eq (h : IsCopy part copy) : copy.string? = part.string? := by
  rcases h with rfl | rfl
  · rfl
  · cases part <;> rfl

theorem IsCopy.eq_string {text : String} (h : IsCopy part (.string text)) :
    part = .string text := by
  rcases h with rfl | h
  · rfl
  · cases part with
    | string => exact h.symm
    | _ => cases h

theorem IsCopy.stringElements_eq (h : IsCopy part copy) :
    copy.stringElements = part.stringElements := by
  rcases h with rfl | rfl
  · rfl
  · cases part with
    | array elements =>
      rw [lower_array]
      unfold stringElements
      dsimp only [array?, Option.getD_some]
      rw [List.filterMap_map]
      refine congrArg (List.filterMap · elements) (funext fun x => ?_)
      cases x <;> rfl
    | _ => rfl

/-! ## Members and elements -/

/-- What a copy has for a list of types. -/
def typesCopy (names : List Json) : Json :=
  .array ((StoreType.keptTypes [] names).map fun x => StoreType.asType (x.lower true))

/-- What a type puts into its node is inert, and an array only if it is a list of types. -/
theorem inert_of_get?_overrides {type : Option Json}
    (h : (StoreType.overrides true type).get? name = some x) :
    name ∈ StoreType.overriddenNames ∧ Inert x ∧
      (x.isArray = true → name = "type" ∧ ∃ names, type = some (.array names) ∧
        x = typesCopy names) := by
  have hname : name ∈ StoreType.overriddenNames := by
    by_contra hname
    rw [StoreType.get?_overrides_of_not_mem _ _ hname] at h
    cases h
  have hmem := StoreType.mem_overrides (Record.mem_of_get?_eq_some h)
  refine ⟨hname, ?_⟩
  dsimp only at hmem
  rcases hmem with ⟨rfl, names, htype, rfl⟩ | ⟨text, rfl⟩ | ⟨text, rfl⟩ | rfl
  · exact ⟨.plain rfl (by simp), fun _ => ⟨rfl, names, htype, rfl⟩⟩
  · exact ⟨.plain rfl (by simp), fun harray => nomatch harray⟩
  · exact ⟨.typed text, fun harray => nomatch harray⟩
  · exact ⟨.plain rfl (by simp), fun harray => nomatch harray⟩

/-- A member of the copy stands for a member of the part, or is put in for the type. -/
theorem IsCopy.get? (h : IsCopy (.object xs) (.object ys)) (hxs : xs.names.Nodup)
    (hy : ys.get? name = some y) :
    (∃ x, xs.get? name = some x ∧ IsCopy x y) ∨
      (name ∈ StoreType.overriddenNames ∧ Inert y ∧
        (y.isArray = true → name = "type" ∧ ∃ names, xs.get? "type" = some (.array names) ∧
          y = typesCopy names)) := by
  rcases h with h | h
  · cases h
    exact .inl ⟨y, hy, isCopy_self y⟩
  · rw [lower_object] at h
    cases h
    rw [get?_lowered true hxs, Option.or_eq_some_iff] at hy
    rcases hy with hy | ⟨-, hy⟩
    · exact .inr (inert_of_get?_overrides hy)
    · obtain ⟨x, hx, heq⟩ := Option.bind_eq_some_iff.1 hy
      rw [if_neg (by simp [isDropped])] at heq
      cases heq
      exact .inl ⟨x, hx, isCopy_lowerMember name x⟩

/-- Under a name that the part's type does not put in, the copy and the part have a member or
neither. -/
theorem IsCopy.rel_of_overrides (h : IsCopy (.object xs) (.object ys)) (hxs : xs.names.Nodup)
    (hname : (StoreType.overrides true (xs.get? "type")).get? name = none) :
    Option.Rel IsCopy (xs.get? name) (ys.get? name) := by
  rcases h with h | h
  · cases h
    cases xs.get? name with
    | none => exact .none
    | some x => exact .some (isCopy_self x)
  · rw [lower_object] at h
    cases h
    rw [get?_lowered true hxs, hname, Option.none_or]
    cases xs.get? name with
    | none => exact .none
    | some x =>
      rw [Option.bind_some, if_neg (by simp [isDropped])]
      exact .some (isCopy_lowerMember name x)

/-- Under a name that no type puts in, the copy and the part have a member or neither. -/
theorem IsCopy.rel (h : IsCopy (.object xs) (.object ys)) (hxs : xs.names.Nodup)
    (hname : name ∉ StoreType.overriddenNames) :
    Option.Rel IsCopy (xs.get? name) (ys.get? name) :=
  h.rel_of_overrides hxs (StoreType.get?_overrides_of_not_mem _ _ hname)

/-- The copy has all names of the part. -/
theorem IsCopy.names_subset (h : IsCopy (.object xs) (.object ys)) (hxs : xs.names.Nodup) :
    xs.names ⊆ ys.names := by
  intro name hname
  rcases h with h | h
  · cases h
    exact hname
  · rw [lower_object] at h
    cases h
    obtain ⟨x, hx⟩ := Record.mem_names_iff.1 hname
    rw [Record.mem_names_iff, get?_lowered true hxs, hx, Option.bind_some,
      if_neg (by simp [isDropped])]
    cases (StoreType.overrides true (xs.get? "type")).get? name with
    | none => exact ⟨_, rfl⟩
    | some y => exact ⟨y, rfl⟩

theorem IsCopy.nodup_names (h : IsCopy (.object xs) (.object ys)) (hxs : xs.names.Nodup) :
    ys.names.Nodup := by
  rcases h with h | h
  · cases h
    exact hxs
  · rw [lower_object] at h
    cases h
    exact nodup_names_lowered hxs

theorem IsCopy.element {xs ys : List Json} (h : IsCopy (.array xs) (.array ys)) {i : Nat}
    (hy : ys[i]? = some y) : ∃ x, xs[i]? = some x ∧ IsCopy x y := by
  rcases h with h | h
  · cases h
    exact ⟨y, hy, isCopy_self y⟩
  · rw [lower_array] at h
    cases h
    rw [List.getElem?_map] at hy
    obtain ⟨x, hx, rfl⟩ := Option.map_eq_some_iff.1 hy
    exact ⟨x, hx, isCopy_lower x⟩

end

/-! ## References -/

/-- Whether segments lead into a list of types in which something repeats. Data are no schemas, and
have no lists of types. -/
def entersRepeatedTypes : Json → List (List Char) → Bool
  | _, [] => false
  | .object members, segment :: rest =>
    if segmentName segment ∈ dataKeywords then false
    else
      match Record.get? members (segmentName segment) with
      | none => false
      | some (.array elements) =>
        (segmentName segment == "type" && !rest.isEmpty && StoreType.repeats elements) ||
          entersRepeatedTypes (.array elements) rest
      | some part => entersRepeatedTypes part rest
  | .array elements, segment :: rest =>
    match (positionOfSegment? (segmentName segment)).bind (elements[·]?) with
    | none => false
    | some part => entersRepeatedTypes part rest
  | _, _ => false

section

variable {part copy x y found : Json} {xs ys : Record Json} {name : String}
  {segments : List (List Char)}

/-- Data are copied as they are. -/
theorem IsCopy.get?_data (h : IsCopy (.object xs) (.object ys)) (hxs : xs.names.Nodup)
    (hname : name ∈ dataKeywords) : ys.get? name = xs.get? name := by
  rcases h with h | h
  · cases h
    rfl
  · rw [lower_object] at h
    cases h
    exact get?_lowered_of_data true hxs hname

/-- Inside what was put in for a type, all is inert. -/
theorem inert_of_reach? (h : Inert y) (harray : y.isArray = false ∨ segments = [])
    (hfound : Draft7.reach? y segments = some found) : Inert found := by
  cases segments with
  | nil =>
    obtain rfl : y = found := by simpa [Draft7.reach?] using hfound
    exact h
  | cons segment rest =>
    cases h with
    | typed text =>
      obtain ⟨next, hnext, hfound⟩ := Option.bind_eq_some_iff.1 hfound
      obtain rfl : Json.string text = next := by
        simp only [Record.get?] at hnext
        split at hnext
        · exact Option.some.inj hnext
        · cases hnext
      cases rest with
      | nil =>
        obtain rfl : Json.string text = found := by simpa [Draft7.reach?] using hfound
        exact .plain rfl (by simp)
      | cons => cases hfound
    | plain hobject _ =>
      cases y with
      | array => simp [isArray] at harray
      | object => cases hobject
      | _ => cases hfound

/-- The second is a copy of the first, or what a copy has for the first as a list of types, in which
nothing repeats. -/
inductive Mirrors : Json → Json → Prop
  | copy {part copy : Json} (h : IsCopy part copy) : Mirrors part copy
  | types {names : List Json} (h : StoreType.repeats names = false) :
    Mirrors (.array names) (typesCopy names)

/-- An element stands for the one at its place, or is the name of a type. -/
theorem Mirrors.element {ys : List Json} (h : Mirrors part (.array ys)) {i : Nat}
    (hy : ys[i]? = some y) : ∃ xs x, part = .array xs ∧ xs[i]? = some x ∧
      (IsCopy x y ∨ (Inert y ∧ y.isArray = false)) := by
  generalize hcopy : Json.array ys = copy at h
  cases h with
  | copy h =>
    subst hcopy
    obtain ⟨xs, rfl⟩ := h.eq_array
    obtain ⟨x, hx, hcopy⟩ := h.element hy
    exact ⟨xs, x, rfl, hx, .inl hcopy⟩
  | @types names h =>
    rw [typesCopy, StoreType.keptTypes_of_repeats h] at hcopy
    cases hcopy
    rw [List.getElem?_map] at hy
    obtain ⟨x, hx, rfl⟩ := Option.map_eq_some_iff.1 hy
    refine ⟨names, x, rfl, hx, ?_⟩
    rcases StoreType.asType_cases (x.lower true) with hsame | ⟨name, hname⟩
    · rw [hsame]
      exact .inl (isCopy_lower x)
    · rw [hname]
      exact .inr ⟨.plain rfl (by simp), rfl⟩

theorem Mirrors.isCopy (h : Mirrors part (.object ys)) : IsCopy part (.object ys) := by
  generalize hcopy : Json.object ys = copy at h
  cases h with
  | copy h => exact h
  | types => cases hcopy

/-- Segments that lead into no list of types in which something repeats lead to what stands for a
part of the document, or is inert. -/
theorem Mirrors.reach? (h : Mirrors part copy) (hpart : part.isProper = true)
    (hplain : part.indexedPlainly segments = true)
    (htypes : entersRepeatedTypes part segments = false)
    (hfound : Draft7.reach? copy segments = some found) :
    Inert found ∨ ∃ original, part.at? (segments.map segmentName) = some original ∧
      Mirrors original found := by
  -- inside what was put in all is inert; everywhere else both sides step on to the same part
  induction segments generalizing part copy with
  | nil =>
    obtain rfl : copy = found := by simpa [Draft7.reach?] using hfound
    exact .inr ⟨part, rfl, h⟩
  | cons segment rest ih =>
    obtain ⟨hsegment, hrest⟩ := indexedPlainly_cons.1 hplain
    cases copy with
    | array ys =>
      obtain ⟨next, hnext, hfound⟩ := Option.bind_eq_some_iff.1 hfound
      obtain ⟨i, hi, hnext⟩ := Option.bind_eq_some_iff.1 hnext
      obtain ⟨xs, x, rfl, hx, hnext'⟩ := h.element hnext
      rw [← positionOfSegment?_of_plain (hsegment rfl)] at hi
      have hat : (Json.array xs).segment? (segmentName segment) = some x := by
        rw [segment?, hi, Option.bind_some, hx]
      rcases hnext' with hcopy | ⟨hinert, harray⟩
      · have htypes' : entersRepeatedTypes x rest = false := by
          simpa [entersRepeatedTypes, hi, hx] using htypes
        rw [List.map_cons, at?, hat]
        exact ih (.copy hcopy) (isProper_of_mem_array hpart (List.mem_of_getElem? hx))
          (hrest x hat) htypes' hfound
      · exact .inl (inert_of_reach? hinert (.inl harray) hfound)
    | object ys =>
      have hcopy := h.isCopy
      obtain ⟨xs, rfl⟩ := hcopy.eq_object
      have hxs := (isProper_object.1 hpart).1
      obtain ⟨next, hnext, hfound⟩ := Option.bind_eq_some_iff.1 hfound
      have hnext : Record.get? ys (segmentName segment) = some next := hnext
      have hat : ∀ x, Record.get? xs (segmentName segment) = some x →
          (Json.object xs).at? ((segment :: rest).map segmentName) =
            x.at? (rest.map segmentName) := by
        intro x hx
        rw [List.map_cons, at?, segment?, hx]
        rfl
      by_cases hdata : segmentName segment ∈ dataKeywords
      · rw [hcopy.get?_data hxs hdata] at hnext
        rw [reach?_eq_at? (hrest next hnext)] at hfound
        exact .inr ⟨found, (hat next hnext).trans hfound, .copy (isCopy_self found)⟩
      · rcases hcopy.get? hxs hnext with ⟨x, hx, hcopy⟩ | ⟨-, hinert, harray⟩
        · have htypes' : entersRepeatedTypes x rest = false := by
            rw [entersRepeatedTypes, if_neg hdata, hx] at htypes
            cases x with
            | array => exact (Bool.or_eq_false_iff.1 htypes).2
            | _ => exact htypes
          rw [hat x hx]
          exact ih (.copy hcopy) (isProper_of_mem_object hpart (Record.mem_of_get?_eq_some hx))
            (hrest x hx) htypes' hfound
        · by_cases hinside : next.isArray = true ∧ rest ≠ []
          · -- inside a list of types, elements are at their places
            obtain ⟨hname, names, htype, rfl⟩ := harray hinside.1
            rw [← hname] at htype
            rw [entersRepeatedTypes, if_neg hdata, htype] at htypes
            obtain ⟨hrepeats, htypes'⟩ := Bool.or_eq_false_iff.1 htypes
            have hrepeats' : StoreType.repeats names = false := by
              simpa [hname, hinside.2] using hrepeats
            rw [hat _ htype]
            exact ih (.types hrepeats')
              (isProper_of_mem_object hpart (Record.mem_of_get?_eq_some htype)) (hrest _ htype)
              htypes' hfound
          · refine .inl (inert_of_reach? hinert ?_ hfound)
            by_cases hnextarray : next.isArray = true
            · exact .inr (by simpa [hnextarray] using hinside)
            · exact .inl (Bool.eq_false_iff.2 hnextarray)
    | _ => cases hfound

/-- What mirrors a part is inert or its copy. -/
theorem Mirrors.inert_or_isCopy (h : Mirrors part copy) : Inert copy ∨ IsCopy part copy := by
  cases h with
  | copy h => exact .inr h
  | types => exact .inl (.plain rfl (by simp [typesCopy]))

end

end Json

/-- A plain reference in the full copy leads to what stands for the part of the document that it
names, or is inert. -/
theorem resolve?_of_copy {document target : Json} {reference : String} {segments : List (List Char)}
    (hdocument : document.isProper = true) (hsegments : plainSegments? reference = some segments)
    (hplain : document.indexedPlainly segments = true)
    (htypes : document.entersRepeatedTypes segments = false)
    (h : Draft7.resolve? (document.lower true) reference = some target) :
    Json.Inert target ∨ ∃ original, Schema.target? document reference = some original ∧
      Json.IsCopy original target := by
  rw [resolve?_of_plain hsegments] at h
  rw [target?_of_plain hsegments]
  have hmirrors := Json.Mirrors.copy (Json.isCopy_lower document)
  rcases hmirrors.reach? hdocument hplain htypes h with hinert | ⟨original, horiginal, hmirrors⟩
  · exact .inl hinert
  · exact hmirrors.inert_or_isCopy.imp_right fun hcopy => ⟨original, horiginal, hcopy⟩

end ItemTable
