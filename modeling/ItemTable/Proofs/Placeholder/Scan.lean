import ItemTable.Proofs.Placeholder.Names

set_option autoImplicit false

/-! # Placeholders in a text

A store takes a placeholder to be a mark with all letters, digits and underscores after it.
`placeholdersIn` lists them. The placeholders of a joined text are those of its parts if no part
runs into the word of a placeholder before it, which `opens` makes sure of. -/

namespace ItemTable

namespace Placeholder

/-! ## Scanning -/

/-- Whether a placeholder starts with the character. -/
def isMark (c : Char) : Bool := c == '#' || c == ':'

/-- Whether the character goes on with a placeholder. -/
def isWordChar (c : Char) : Bool := c.isAlphanum || c == '_'

/-- The placeholders among characters, in order. -/
def scan : List Char → List String
  | [] => []
  | c :: rest =>
    if isMark c then String.ofList (c :: rest.takeWhile isWordChar) :: scan rest else scan rest

/-- The placeholders in a text, in order. -/
def placeholdersIn (text : String) : List String := scan text.toList

/-- Whether a text may follow a placeholder. -/
def opens (text : String) : Bool := text.toList.head?.all (!isWordChar ·)

/-- Whether a text has no mark. -/
def isPlain (text : String) : Bool := text.toList.all (!isMark ·)

theorem isMark_of_isWordChar {c : Char} (h : isWordChar c = true) : isMark c = false := by
  refine Bool.eq_false_iff.2 fun hmark => ?_
  simp only [isMark, Bool.or_eq_true, beq_iff_eq] at hmark
  rcases hmark with rfl | rfl <;> exact absurd h (by decide)

theorem takeWhile_append_of_opens {left right : List Char}
    (h : right.head?.all (!isWordChar ·) = true) :
    (left ++ right).takeWhile isWordChar = left.takeWhile isWordChar := by
  have hright : right.takeWhile isWordChar = [] := by
    cases right with
    | nil => rfl
    | cons c right =>
      have hc : isWordChar c = false := by simpa using h
      rw [List.takeWhile_cons, hc]
      rfl
  induction left with
  | nil => exact hright
  | cons c left ih =>
    rw [List.cons_append, List.takeWhile_cons, List.takeWhile_cons, ih]

theorem scan_append {left right : List Char} (h : right.head?.all (!isWordChar ·) = true) :
    scan (left ++ right) = scan left ++ scan right := by
  induction left with
  | nil => rfl
  | cons c left ih =>
    -- a placeholder that starts at `c` ends where `right` starts, at the latest
    rw [List.cons_append, scan, scan, ih, takeWhile_append_of_opens h]
    split <;> rfl

theorem scan_append_of_plain {left right : List Char} (h : left.all (!isMark ·) = true) :
    scan (left ++ right) = scan right := by
  induction left with
  | nil => rfl
  | cons c left ih =>
    rw [List.all_cons, Bool.and_eq_true] at h
    have hmark : isMark c = false := by simpa using h.1
    rw [List.cons_append, scan, hmark, if_neg Bool.false_ne_true, ih h.2]

theorem scan_of_plain {text : List Char} (h : text.all (!isMark ·) = true) : scan text = [] := by
  have hscan : scan (text ++ []) = scan [] := scan_append_of_plain h
  rwa [List.append_nil] at hscan

/-! ## Joined texts -/

theorem placeholdersIn_append {left right : String} (h : opens right = true) :
    placeholdersIn (left ++ right) = placeholdersIn left ++ placeholdersIn right := by
  rw [placeholdersIn, String.toList_append, scan_append h]
  rfl

theorem placeholdersIn_append_of_plain {left right : String} (h : isPlain left = true) :
    placeholdersIn (left ++ right) = placeholdersIn right := by
  rw [placeholdersIn, String.toList_append, scan_append_of_plain h]
  rfl

theorem placeholdersIn_of_plain (text : String) (h : isPlain text = true) :
    placeholdersIn text = [] := scan_of_plain h

theorem opens_append {left right : String} (hleft : opens left = true)
    (hright : opens right = true) : opens (left ++ right) = true := by
  unfold opens at *
  rw [String.toList_append]
  cases h : left.toList with
  | nil => simpa using hright
  | cons c rest => simpa [h] using hleft

/-- A separator without a mark may stand after any placeholder if it starts with no word. -/
theorem opens_separator_append {separator right : String} (hne : separator ≠ "")
    (h : opens separator = true) : opens (separator ++ right) = true := by
  unfold opens at *
  rw [String.toList_append]
  cases hseparator : separator.toList with
  | nil => exact absurd (String.toList_eq_nil_iff.1 hseparator) hne
  | cons c rest => simpa [hseparator] using h

/-- The placeholders of texts with separators between them are those of the texts. -/
theorem placeholdersIn_intercalate {separator : String} (hne : separator ≠ "")
    (hopens : opens separator = true) (hplain : isPlain separator = true) (texts : List String) :
    placeholdersIn (separator.intercalate texts) = texts.flatMap placeholdersIn := by
  induction texts with
  | nil => rw [String.intercalate_nil]; rfl
  | cons first rest ih =>
    cases rest with
    | nil => simp
    | cons second rest =>
      rw [String.intercalate_cons_cons, String.append_assoc,
        placeholdersIn_append (opens_separator_append hne hopens),
        placeholdersIn_append_of_plain hplain, ih]
      rfl

theorem opens_intercalate {separator : String} (hseparator : opens separator = true)
    {texts : List String} (h : ∀ text ∈ texts, opens text = true) :
    opens (separator.intercalate texts) = true := by
  induction texts with
  | nil => rw [String.intercalate_nil]; rfl
  | cons first rest ih =>
    obtain ⟨hfirst, hrest⟩ := List.forall_mem_cons.1 h
    cases rest with
    | nil => simpa using hfirst
    | cons second rest =>
      rw [String.intercalate_cons_cons]
      exact opens_append (opens_append hfirst hseparator) (ih hrest)

/-- What is read off texts apart, is read off all of them in a row, if each may follow a
placeholder. -/
theorem concat_eq_flatMap {α : Type} {f : String → List α} (hnil : f "" = [])
    (happend : ∀ {left right : String}, opens right = true → f (left ++ right) = f left ++ f right)
    {texts : List String} (h : ∀ text ∈ texts, opens text = true) :
    f ("".intercalate texts) = texts.flatMap f := by
  induction texts with
  | nil => simpa using hnil
  | cons first rest ih =>
    obtain ⟨hfirst, hrest⟩ := List.forall_mem_cons.1 h
    have hcons : "".intercalate (first :: rest) = first ++ "".intercalate rest := by
      cases rest with
      | nil => simp
      | cons second rest => simp [String.intercalate_cons_cons]
    rw [hcons, happend (opens_intercalate rfl hrest), ih hrest]
    rfl

/-- Texts that may follow placeholders may follow one another. -/
theorem placeholdersIn_concat {texts : List String} (h : ∀ text ∈ texts, opens text = true) :
    placeholdersIn ("".intercalate texts) = texts.flatMap placeholdersIn :=
  concat_eq_flatMap rfl placeholdersIn_append h

/-! ## Single placeholders -/

/-- A text is one placeholder. -/
structure IsPlaceholder (text : String) : Prop where
  toList : ∃ mark word, text.toList = mark :: word ∧ isMark mark = true ∧
    ∀ c ∈ word, isWordChar c = true

theorem IsPlaceholder.placeholdersIn {text : String} (h : IsPlaceholder text) :
    placeholdersIn text = [text] := by
  obtain ⟨mark, word, htext, hmark, hword⟩ := h.toList
  have hplain : word.all (!isMark ·) = true := by
    refine List.all_eq_true.2 fun c hc => ?_
    rw [isMark_of_isWordChar (hword c hc)]
    rfl
  have htake : word.takeWhile isWordChar = word := by
    have h : (word ++ []).takeWhile isWordChar = word ++ [].takeWhile isWordChar :=
      List.takeWhile_append_of_pos hword
    rwa [List.append_nil, List.takeWhile_nil, List.append_nil] at h
  rw [Placeholder.placeholdersIn, htext, scan, if_pos hmark, scan_of_plain hplain, htake, ← htext,
    String.ofList_toList]

theorem IsPlaceholder.opens {text : String} (h : IsPlaceholder text) : opens text = true := by
  obtain ⟨mark, word, htext, hmark, -⟩ := h.toList
  have hword : isWordChar mark = false := by
    refine Bool.eq_false_iff.2 fun hword => ?_
    rw [isMark_of_isWordChar hword] at hmark
    cases hmark
  simp [Placeholder.opens, htext, hword]

theorem flatMap_placeholdersIn {texts : List String} (h : ∀ text ∈ texts, IsPlaceholder text) :
    texts.flatMap placeholdersIn = texts := by
  induction texts with
  | nil => rfl
  | cons first rest ih =>
    obtain ⟨hfirst, hrest⟩ := List.forall_mem_cons.1 h
    rw [List.flatMap_cons, hfirst.placeholdersIn, ih hrest]
    rfl

/-- The letters of placeholders go on with them. -/
theorem isWordChar_of_mem_word {first rank : Nat} (hfirst : first = 65 ∨ first = 97) {c : Char}
    (h : c ∈ (word rank).map fun d => Char.ofNat (first + d)) : isWordChar c = true := by
  have hletter : ∀ first ∈ [65, 97], ∀ d < 26, isWordChar (Char.ofNat (first + d)) = true := by
    decide +kernel
  obtain ⟨d, hd, rfl⟩ := List.mem_map.1 h
  exact hletter first (by simpa using hfirst) d (word_lt rank d hd)

theorem isPlaceholder_name (rank : Nat) : IsPlaceholder (name rank) :=
  ⟨'#', _, toList_name rank, by decide, fun _ => isWordChar_of_mem_word (.inl rfl)⟩

theorem isPlaceholder_value (rank : Nat) : IsPlaceholder (value rank) :=
  ⟨':', _, toList_value rank, by decide, fun _ => isWordChar_of_mem_word (.inr rfl)⟩

theorem isWordChar_of_mem_toDigits {n : Nat} {c : Char} (h : c ∈ Nat.toDigits 10 n) :
    isWordChar c = true := by
  have hdigit : c.isDigit = true := Nat.isDigit_of_mem_toDigits (by decide) (by decide) h
  simp [isWordChar, Char.isAlphanum, hdigit]

theorem isPlaceholder_attribute (i : Nat) : IsPlaceholder (Condition.attributePlaceholder i) := by
  refine ⟨'#', _, Condition.toList_attributePlaceholder i, by decide, fun c hc => ?_⟩
  rcases List.mem_cons.1 hc with rfl | hc
  · decide
  · exact isWordChar_of_mem_toDigits hc

theorem isPlaceholder_operand (i : Nat) : IsPlaceholder (Condition.operandPlaceholder i) := by
  refine ⟨':', _, Condition.toList_operandPlaceholder i, by decide, fun c hc => ?_⟩
  rcases List.mem_cons.1 hc with rfl | hc
  · decide
  · exact isWordChar_of_mem_toDigits hc

end Placeholder

end ItemTable
