import ItemTable.Draft7.Reference
import ItemTable.Schema

set_option autoImplicit false

/-! # Plain pointers

A schema's references are read twice: by the validation, which undoes percent escapes and takes a
position with a sign or with leading zeros, and by the look-up of a path's node, which takes a
pointer literally. A pointer without percent signs has the same segments for both
(`resolve?_of_plain`, `target?_of_plain`), and comes to the same part of a document if the positions
in it have neither signs nor leading zeros (`Json.reach?_eq_at?`). -/

namespace ItemTable

/-! ## Segments -/

/-- Whether a segment is no number with a sign or with a leading zero. -/
def isPlainSegment : List Char → Bool
  | '+' :: digits => digits.isEmpty || !digits.all Char.isDigit
  | '0' :: digits => digits.isEmpty || !digits.all Char.isDigit
  | _ => true

/-- The name that a segment stands for. -/
def segmentName (segment : List Char) : String := String.ofList (unescapeSegment segment)

theorem all_isDigit_unescapeSegment (segment : List Char) :
    (unescapeSegment segment).all Char.isDigit = segment.all Char.isDigit := by
  fun_induction unescapeSegment segment with
  | case1 rest ih => simp
  | case2 rest ih => simp
  | case3 c rest h1 h2 ih => rw [List.all_cons, List.all_cons, ih]
  | case4 => rfl

/-- There is nothing to undo in digits. -/
theorem unescapeSegment_of_digits {segment : List Char} (h : segment.all Char.isDigit = true) :
    unescapeSegment segment = segment := by
  fun_induction unescapeSegment segment with
  | case1 rest ih => simp at h
  | case2 rest ih => simp at h
  | case3 c rest h1 h2 ih =>
    rw [List.all_cons, Bool.and_eq_true] at h
    rw [ih h.2]
  | case4 => rfl

/-- Digits without a leading zero spell a position. -/
theorem positionOfSegment?_ofList {cs : List Char} (h : cs.all Char.isDigit = true)
    (hplain : isPlainSegment cs = true) (hne : cs ≠ []) :
    positionOfSegment? (String.ofList cs) = some (digitsValue cs) := by
  have hzero : ¬ (cs.head? = some '0' ∧ 1 < cs.length) := by
    rintro ⟨hhead, hlength⟩
    obtain ⟨rest, rfl⟩ := List.head?_eq_some_iff.1 hhead
    rw [List.all_cons, Bool.and_eq_true] at h
    simp only [isPlainSegment, h.2, Bool.not_true, Bool.or_false, List.isEmpty_iff] at hplain
    simp [hplain] at hlength
  unfold positionOfSegment?
  rw [String.toList_ofList]
  cases cs with
  | nil => exact absurd rfl hne
  | cons c rest => exact if_pos ⟨h, hzero⟩

theorem positionOfSegment?_of_not_digits {cs : List Char} (h : cs.all Char.isDigit = false) :
    positionOfSegment? (String.ofList cs) = none := by
  unfold positionOfSegment?
  rw [String.toList_ofList]
  cases cs with
  | nil => rfl
  | cons c rest => exact if_neg (by simp [h])

/-- Both readers find the same position in a plain segment. -/
theorem positionOfSegment?_of_plain {segment : List Char} (h : isPlainSegment segment = true) :
    positionOfSegment? (segmentName segment) = Draft7.position? segment := by
  unfold segmentName
  by_cases hdigits : segment.all Char.isDigit = true
  · rw [unescapeSegment_of_digits hdigits]
    cases segment with
    | nil => rfl
    | cons c rest =>
      have hsign : c ≠ '+' := by
        rintro rfl
        rw [List.all_cons, Bool.and_eq_true] at hdigits
        exact absurd hdigits.1 (by decide)
      rw [positionOfSegment?_ofList hdigits h (List.cons_ne_nil c rest)]
      unfold Draft7.position?
      simp [hsign, hdigits]
  · have hnone : (unescapeSegment segment).all Char.isDigit = false := by
      rw [all_isDigit_unescapeSegment]
      exact Bool.eq_false_iff.2 hdigits
    rw [positionOfSegment?_of_not_digits hnone]
    unfold Draft7.position?
    split
    · next digits =>
      -- a sign before digits is not plain
      have hplain : (!digits.isEmpty && digits.all Char.isDigit) = false := by
        rw [isPlainSegment] at h
        revert h
        cases digits.isEmpty <;> cases digits.all Char.isDigit <;> decide
      simp [hplain]
    · simp [hdigits]

/-! ## References -/

/-- The segments of a reference that is a pointer without percent signs. -/
def plainSegments? (reference : String) : Option (List (List Char)) :=
  match reference.toList with
  | ['#'] => some []
  | '#' :: '/' :: pointer => if pointer.contains '%' then none else some (splitSlash pointer)
  | _ => none

/-- The validation reads a plain pointer segment by segment. -/
theorem resolve?_of_plain {root : Json} {reference : String} {segments : List (List Char)}
    (h : plainSegments? reference = some segments) :
    Draft7.resolve? root reference = Draft7.reach? root segments := by
  unfold plainSegments? at h
  unfold Draft7.resolve?
  split at h
  · next heq =>
    cases h
    rw [heq]
    simp [Draft7.reach?]
  · next pointer heq =>
    rw [heq]
    split at h
    · cases h
    · next hpercent =>
      cases h
      have hsame : Draft7.unescapePercent? pointer = some pointer := if_neg hpercent
      simp [hsame]
  · cases h

/-- So does the look-up of a path's node. -/
theorem target?_of_plain {root : Json} {reference : String} {segments : List (List Char)}
    (h : plainSegments? reference = some segments) :
    Schema.target? root reference = root.at? (segments.map segmentName) := by
  unfold plainSegments? at h
  unfold Schema.target?
  split at h
  · next heq =>
    cases h
    rw [heq]
    rfl
  · next pointer heq =>
    rw [heq]
    split at h
    · cases h
    · cases h
      rfl
  · cases h

namespace Json

/-- Whether the segments that are looked up in arrays are plain. -/
def indexedPlainly : Json → List (List Char) → Bool
  | _, [] => true
  | value, segment :: rest =>
    (!value.isArray || isPlainSegment segment) &&
      (value.segment? (segmentName segment)).all fun part => part.indexedPlainly rest

section

variable {value : Json} {segment : List Char} {rest : List (List Char)}

theorem indexedPlainly_cons : value.indexedPlainly (segment :: rest) = true ↔
    (value.isArray = true → isPlainSegment segment = true) ∧
      ∀ part, value.segment? (segmentName segment) = some part → part.indexedPlainly rest = true := by
  rw [indexedPlainly, Bool.and_eq_true, Option.all_eq_true]
  cases value.isArray <;> simp

/-- With plain positions, the two readers of segments come to the same part of a document. -/
theorem reach?_eq_at? {segments : List (List Char)} (h : value.indexedPlainly segments = true) :
    Draft7.reach? value segments = value.at? (segments.map segmentName) := by
  induction segments generalizing value with
  | nil => simp [Draft7.reach?, at?]
  | cons segment rest ih =>
    obtain ⟨hsegment, hrest⟩ := indexedPlainly_cons.1 h
    rw [List.map_cons, at?]
    cases value with
    | array elements =>
      have hposition := positionOfSegment?_of_plain (hsegment rfl)
      rw [segment?, hposition] at hrest ⊢
      exact Option.bind_congr fun part hpart => ih (hrest part hpart)
    | object members => exact Option.bind_congr fun part hpart => ih (hrest part hpart)
    | _ => rfl

end

end Json

end ItemTable
