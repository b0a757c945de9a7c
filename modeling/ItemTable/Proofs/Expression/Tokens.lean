import ItemTable.Proofs.Placeholder.Expressions
import Mathlib.Data.List.TakeWhile

set_option autoImplicit false

/-! # Tokens of an expression

A store reads an expression token by token: placeholders of names and of values, words, and signs of
one character; blanks only stand between tokens. `Token.read` lists the tokens of a text. The tokens
of a joined text are those of its parts if no part runs into the word before it
(`Token.read_append`), so a reference has the tokens of its steps (`Names.read_reference`). -/

namespace ItemTable

open Placeholder (isMark isWordChar opens)

/-- What an expression is made of. -/
inductive Token
  /-- The placeholder of an attribute's name, with its mark. -/
  | name (placeholder : String)
  /-- The placeholder of a value, with its mark. -/
  | value (placeholder : String)
  /-- Letters, digits and underscores that stand without a mark. -/
  | word (text : String)
  | sign (c : Char)
  deriving DecidableEq, Repr

namespace Token

/-! ## Scanning -/

/-- The token of a first character and the word characters after it. -/
def ofWord (c : Char) (word : List Char) : Token :=
  if c = '#' then .name (String.ofList (c :: word))
  else if c = ':' then .value (String.ofList (c :: word))
  else .word (String.ofList (c :: word))

/-- The tokens of characters. -/
def scan : List Char → List Token
  | [] => []
  | c :: rest =>
    if c.isWhitespace then scan rest
    else if isMark c || isWordChar c then
      ofWord c (rest.takeWhile isWordChar) :: scan (rest.dropWhile isWordChar)
    else .sign c :: scan rest
termination_by chars => chars.length
decreasing_by
  · simp
  · exact Nat.lt_succ_of_le (List.length_dropWhile_le ..)
  · simp

/-- The tokens of a text. -/
def read (text : String) : List Token := scan text.toList

theorem dropWhile_append_of_opens {left right : List Char}
    (h : right.head?.all (!isWordChar ·) = true) :
    (left ++ right).dropWhile isWordChar = left.dropWhile isWordChar ++ right := by
  have htake : (left ++ right).takeWhile isWordChar = left.takeWhile isWordChar :=
    Placeholder.takeWhile_append_of_opens h
  have hwhole := List.takeWhile_append_dropWhile (p := isWordChar) (l := left ++ right)
  have hleft := List.takeWhile_append_dropWhile (p := isWordChar) (l := left)
  rw [htake] at hwhole
  refine List.append_cancel_left (hwhole.trans ?_)
  rw [← List.append_assoc, hleft]

theorem scan_blank {c : Char} (h : c.isWhitespace = true) (rest : List Char) :
    scan (c :: rest) = scan rest := by rw [scan, if_pos h]

theorem scan_sign {c : Char} (hblank : c.isWhitespace = false)
    (hword : (isMark c || isWordChar c) = false) (rest : List Char) :
    scan (c :: rest) = .sign c :: scan rest := by
  rw [scan, hblank, if_neg Bool.false_ne_true, hword, if_neg Bool.false_ne_true]

theorem isWhitespace_of_isWord {c : Char} (h : (isMark c || isWordChar c) = true) :
    c.isWhitespace = false := by
  refine Bool.eq_false_iff.2 fun hblank => ?_
  simp only [Char.isWhitespace, Bool.or_eq_true, decide_eq_true_eq] at hblank
  rcases hblank with ((rfl | rfl) | rfl) | rfl <;> exact absurd h (by decide)

theorem scan_word {c : Char} (h : (isMark c || isWordChar c) = true) (rest : List Char) :
    scan (c :: rest)
      = ofWord c (rest.takeWhile isWordChar) :: scan (rest.dropWhile isWordChar) := by
  rw [scan, isWhitespace_of_isWord h, if_neg Bool.false_ne_true, if_pos h]

/-- A text that does not start with a word is read apart from what stands before it. -/
theorem scan_append {left right : List Char} (h : right.head?.all (!isWordChar ·) = true) :
    scan (left ++ right) = scan left ++ scan right := by
  fun_induction scan left with
  | case1 => rfl
  | case2 c rest hblank ih => rw [List.cons_append, scan_blank hblank, ih]
  | case3 c rest hblank hword ih =>
    -- the word that starts at `c` ends before `right`
    rw [List.cons_append, scan_word hword, Placeholder.takeWhile_append_of_opens h,
      dropWhile_append_of_opens h, ih, List.cons_append]
  | case4 c rest hblank hword ih =>
    replace hblank : c.isWhitespace = false := by simpa using hblank
    replace hword : (isMark c || isWordChar c) = false := by simpa using hword
    rw [List.cons_append, scan_sign hblank hword, ih, List.cons_append]

/-! ## Tokens of texts -/

theorem read_append {left right : String} (h : opens right = true) :
    read (left ++ right) = read left ++ read right := by
  rw [read, String.toList_append, scan_append h]
  rfl

/-- A first character with word characters after it is one token. -/
theorem scan_single {c : Char} {word : List Char} (hc : (isMark c || isWordChar c) = true)
    (hword : ∀ d ∈ word, isWordChar d = true) : scan (c :: word) = [ofWord c word] := by
  have htake : word.takeWhile isWordChar = word := List.takeWhile_eq_self_iff.2 hword
  have hdrop : word.dropWhile isWordChar = [] := List.dropWhile_eq_nil_iff.2 hword
  rw [scan_word hc, htake, hdrop, scan]

theorem read_empty : read "" = [] := by simp [read, scan]

/-- A text with the mark of names and then word characters is one name. -/
theorem read_of_nameMark {text : String} {word : List Char} (htext : text.toList = '#' :: word)
    (hword : ∀ d ∈ word, isWordChar d = true) : read text = [.name text] := by
  rw [read, htext, scan_single (by decide) hword, ofWord, if_pos rfl, ← htext,
    String.ofList_toList]

/-- A text with the mark of values and then word characters is one value. -/
theorem read_of_valueMark {text : String} {word : List Char} (htext : text.toList = ':' :: word)
    (hword : ∀ d ∈ word, isWordChar d = true) : read text = [.value text] := by
  rw [read, htext, scan_single (by decide) hword, ofWord, if_neg (by decide), if_pos rfl, ← htext,
    String.ofList_toList]

theorem read_name (rank : Nat) :
    read (Placeholder.name rank) = [.name (Placeholder.name rank)] :=
  read_of_nameMark (Placeholder.toList_name rank) fun _ =>
    Placeholder.isWordChar_of_mem_word (.inl rfl)

theorem read_value (rank : Nat) :
    read (Placeholder.value rank) = [.value (Placeholder.value rank)] :=
  read_of_valueMark (Placeholder.toList_value rank) fun _ =>
    Placeholder.isWordChar_of_mem_word (.inr rfl)

theorem read_comma (text : String) : read (", " ++ text) = .sign ',' :: read text := by
  have htext : (", " ++ text).toList = ',' :: ' ' :: text.toList := by
    rw [String.toList_append]
    rfl
  rw [read, htext, scan_sign (by decide) (by decide), scan_blank (by decide)]
  rfl

theorem read_blank (text : String) : read (" " ++ text) = read text := by
  have htext : (" " ++ text).toList = ' ' :: text.toList := by
    rw [String.toList_append]
    rfl
  rw [read, htext, scan_blank (by decide)]
  rfl

theorem read_close : read ")" = [.sign ')'] := by simp [read, scan, isMark, isWordChar]

theorem read_position (index : Nat) :
    read ("[" ++ Nat.repr index ++ "]") = [.sign '[', .word (Nat.repr index), .sign ']'] := by
  obtain ⟨c, word, hdigits⟩ := List.exists_cons_of_ne_nil
    (Nat.toDigits_ne_nil (n := index) (b := 10))
  have hword : ∀ d ∈ c :: word, isWordChar d = true := fun d hd =>
    Placeholder.isWordChar_of_mem_toDigits (hdigits ▸ hd)
  have hc : isWordChar c = true := hword c List.mem_cons_self
  have hmark : c ≠ '#' ∧ c ≠ ':' := by
    constructor <;> rintro rfl <;> exact absurd hc (by decide)
  have htext : ("[" ++ Nat.repr index).toList = '[' :: c :: word := by
    rw [String.toList_append, Nat.toList_repr, hdigits]
    rfl
  have hrepr : String.ofList (c :: word) = Nat.repr index := by
    rw [← hdigits, ← Nat.toList_repr, String.ofList_toList]
  have hclose : read "]" = [.sign ']'] := by simp [read, scan, isMark, isWordChar]
  rw [read_append rfl, hclose, read, htext, scan_sign (by decide) (by decide),
    scan_single (by simp [hc]) fun d hd => hword d (.tail _ hd), ofWord, if_neg hmark.1,
    if_neg hmark.2, hrepr]
  rfl

end Token

/-! ## References -/

namespace Names

/-- The step with the placeholder of its name. -/
def spellStep (names : Names) : Step → Step
  | .key name => .key (names.placeholder name)
  | .position index => .position index

/-- The path with the placeholder of each name in its place, as a reference spells it. -/
def spell (names : Names) (path : Path) : Path := path.map names.spellStep

end Names

namespace Token

/-- The tokens of a step after the first one. -/
def ofStep : Step → List Token
  | .key placeholder => [.sign '.', .name placeholder]
  | .position index => [.sign '[', .word (Nat.repr index), .sign ']']

/-- The tokens of a reference that starts with a placeholder. -/
def ofReference : Path → List Token
  | .key placeholder :: rest => .name placeholder :: rest.flatMap ofStep
  | path => path.flatMap ofStep

end Token

namespace Names

variable (names : Names)

theorem read_stepText (step : Step) :
    Token.read (names.stepText false step) = Token.ofStep (names.spellStep step) := by
  cases step with
  | key name =>
    have hsign : Token.read "." = [.sign '.'] := by
      simp [Token.read, Token.scan, isMark, isWordChar]
    have hname : Token.read (names.placeholder name) = [.name (names.placeholder name)] :=
      Token.read_name _
    have htext : names.stepText false (.key name) = "." ++ names.placeholder name := rfl
    have hopens : opens (names.placeholder name) = true :=
      (Placeholder.isPlaceholder_name _).opens
    rw [htext, Token.read_append hopens, hsign, hname]
    rfl
  | position index => exact Token.read_position index

/-- A reference is read as the placeholders and positions on its path. -/
theorem read_reference (path : Path) :
    Token.read (names.reference path) = Token.ofReference (names.spell path) := by
  cases path with
  | nil => exact Token.read_empty
  | cons step rest =>
    have hrest : Token.read ("".intercalate (rest.map (names.stepText false)))
        = (names.spell rest).flatMap Token.ofStep := by
      rw [Placeholder.concat_eq_flatMap Token.read_empty Token.read_append (names.opens_rest rest)]
      simp only [List.flatMap_map, spell, read_stepText]
    rw [reference, Token.read_append (Placeholder.opens_intercalate rfl (names.opens_rest rest)),
      hrest]
    cases step with
    | key name =>
      have hname : Token.read (names.stepText true (.key name))
          = [.name (names.placeholder name)] := by
        rw [stepText, if_pos rfl, String.empty_append]
        exact Token.read_name _
      rw [hname]
      rfl
    | position index =>
      rw [stepText, Token.read_position]
      rfl

end Names

end ItemTable
