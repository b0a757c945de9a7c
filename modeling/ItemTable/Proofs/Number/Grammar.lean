import ItemTable.Proofs.Number.Nearest
import ItemTable.Proofs.Number.Numeral

set_option autoImplicit false

/-! # The number that a text denotes

A decimal text is an optional sign, digits with a point before, among or behind them, and maybe an
exponent (`Denotes`). Reading takes a text for a finite decimal exactly if it is one, with the value
that it denotes (`denotes_iff`), so no text denotes two numbers; and it takes a text for an integer
exactly if it is an optional sign and digits (`readInteger?_eq_some_iff`). -/

namespace ItemTable

-- Powers are those of core, whatever else is imported.
attribute [local instance (high)] instPowNat

/-- An optional sign, and whether it is a minus. -/
inductive SpellsSign : List Char → Bool → Prop
  | absent : SpellsSign [] false
  | plus : SpellsSign ['+'] false
  | minus : SpellsSign ['-'] true

/-- An optional sign and digits, and the integer that they denote. -/
inductive SpellsInteger : List Char → Int → Prop
  | mk {sign digits : List Char} {neg : Bool} (hsign : SpellsSign sign neg) (hne : digits ≠ [])
    (hdigits : ∀ c ∈ digits, c.isDigit = true) :
    SpellsInteger (sign ++ digits) (if neg then -(digitsValue digits : Int) else digitsValue digits)

/-- Nothing, or a point and digits. -/
inductive SpellsFraction : List Char → List Char → Prop
  | absent : SpellsFraction [] []
  | pointed {digits : List Char} (hdigits : ∀ c ∈ digits, c.isDigit = true) :
    SpellsFraction ('.' :: digits) digits

/-- Nothing, or a mark and an integer. -/
inductive SpellsExponent : List Char → Int → Prop
  | absent : SpellsExponent [] 0
  | marked {mark : Char} {text : List Char} {e : Int} (hmark : mark = 'e' ∨ mark = 'E')
    (htext : SpellsInteger text e) : SpellsExponent (mark :: text) e

/-- Digits with a point before, among or behind them, if any, and an exponent, if any. They stand
for a natural times a power of ten. -/
inductive SpellsMagnitude : List Char → Nat → Int → Prop
  | mk {whole point fraction exponent : List Char} {e : Int}
    (hwhole : ∀ c ∈ whole, c.isDigit = true) (hpoint : SpellsFraction point fraction)
    (hne : whole ≠ [] ∨ fraction ≠ []) (hexponent : SpellsExponent exponent e) :
    SpellsMagnitude (whole ++ (point ++ exponent)) (digitsValue (whole ++ fraction))
      (e - fraction.length)

/-- A decimal text and the number that it denotes. -/
inductive Denotes : List Char → ℚ → Prop
  | mk {sign text : List Char} {neg : Bool} {coef : Nat} {exp : Int} (hsign : SpellsSign sign neg)
    (htext : SpellsMagnitude text coef exp) :
    Denotes (sign ++ text) (signed neg (coef * 10 ^ exp))

variable {cs rest : List Char} {neg : Bool}

/-! ## Signs and integers -/

theorem SpellsSign.splitSign_eq {sign : List Char} (h : SpellsSign sign neg)
    (hrest : ∀ c ∈ rest.head?, c ≠ '-' ∧ c ≠ '+') : splitSign (sign ++ rest) = (neg, rest) := by
  cases h with
  | absent =>
    rw [List.nil_append]
    unfold splitSign
    split
    · exact absurd rfl (hrest '-' rfl).1
    · exact absurd rfl (hrest '+' rfl).2
    · rfl
  | plus => rfl
  | minus => rfl

theorem spellsSign_of_splitSign (h : splitSign cs = (neg, rest)) :
    ∃ sign, cs = sign ++ rest ∧ SpellsSign sign neg := by
  unfold splitSign at h
  split at h
  · cases h
    exact ⟨['-'], rfl, .minus⟩
  · cases h
    exact ⟨['+'], rfl, .plus⟩
  · cases h
    exact ⟨[], rfl, .absent⟩

theorem ne_sign_of_isDigit {c : Char} (h : c.isDigit = true) : c ≠ '-' ∧ c ≠ '+' := by
  constructor
  · rintro rfl
    exact absurd h (by decide)
  · rintro rfl
    exact absurd h (by decide)

theorem isDigit_of_mem_head? {digits : List Char} (hdigits : ∀ c ∈ digits, c.isDigit = true)
    {c : Char} (hc : c ∈ digits.head?) : c.isDigit = true :=
  hdigits c (List.mem_of_mem_head? hc)

/-- A text is read as an integer exactly if it is a sign, if any, and digits. -/
theorem readInteger?_eq_some_iff {i : Int} : readInteger? cs = some i ↔ SpellsInteger cs i := by
  constructor
  · intro h
    obtain ⟨neg, digits, hsplit⟩ : ∃ neg digits, splitSign cs = (neg, digits) := ⟨_, _, rfl⟩
    obtain ⟨sign, rfl, hsign⟩ := spellsSign_of_splitSign hsplit
    rw [readInteger?, hsplit] at h
    dsimp only at h
    split at h
    · cases h
    · next hdigits =>
      rw [Bool.or_eq_true, not_or, List.isEmpty_iff, Bool.not_eq_true', Bool.not_eq_false,
        List.all_eq_true] at hdigits
      obtain rfl := Option.some.inj h
      exact .mk hsign hdigits.1 hdigits.2
  · rintro ⟨hsign, hne, hdigits⟩
    refine readInteger?_of_splitSign (hsign.splitSign_eq fun c hc => ?_) hne hdigits
    exact ne_sign_of_isDigit (isDigit_of_mem_head? hdigits hc)

/-! ## Digits, fractions and exponents -/

theorem splitDigits_append {digits : List Char} (rest : List Char)
    (hdigits : ∀ c ∈ digits, c.isDigit = true) (hrest : ∀ c ∈ rest.head?, c.isDigit = false) :
    splitDigits (digits ++ rest) = (digits, rest) := by
  induction digits with
  | nil =>
    cases rest with
    | nil => rfl
    | cons c rest =>
      have hc : c.isDigit = false := hrest c rfl
      simp [splitDigits, hc]
  | cons d digits ih =>
    obtain ⟨hd, hdigits⟩ := List.forall_mem_cons.1 hdigits
    have htail := ih hdigits
    simp only [splitDigits, Prod.mk.injEq] at htail ⊢
    simp [hd, htail.1, htail.2]

theorem splitDigits_eq_iff {digits : List Char} : splitDigits cs = (digits, rest) ↔
    cs = digits ++ rest ∧ (∀ c ∈ digits, c.isDigit = true) ∧
      ∀ c ∈ rest.head?, c.isDigit = false := by
  constructor
  · intro h
    cases h
    refine ⟨List.takeWhile_append_dropWhile.symm, fun c hc => ?_, fun c hc => ?_⟩
    · exact List.all_eq_true.1 List.all_takeWhile c hc
    · have hnot := List.head?_dropWhile_not Char.isDigit cs
      rw [Option.mem_def.1 hc] at hnot
      simpa using hnot
  · rintro ⟨rfl, hdigits, hrest⟩
    exact splitDigits_append rest hdigits hrest

theorem readExponent?_eq_some_iff {e : Int} : readExponent? cs = some e ↔ SpellsExponent cs e := by
  cases cs with
  | nil =>
    constructor
    · intro h
      cases h
      exact .absent
    · rintro ⟨⟩
      rfl
  | cons c text =>
    rw [readExponent?]
    constructor
    · intro h
      split at h
      · next hmark => exact .marked hmark (readInteger?_eq_some_iff.1 h)
      · cases h
    · rintro (_ | ⟨hmark, htext⟩)
      rw [if_pos hmark]
      exact readInteger?_eq_some_iff.2 htext

theorem SpellsExponent.head {exponent : List Char} {e : Int} (h : SpellsExponent exponent e) :
    ∀ c ∈ exponent.head?, c.isDigit = false ∧ c ≠ '.' := by
  cases h with
  | absent => exact nofun
  | marked hmark =>
    rintro c ⟨⟩
    rcases hmark with rfl | rfl
    · decide
    · decide

theorem spellsFraction_of_splitFraction {fraction : List Char}
    (h : splitFraction cs = (fraction, rest)) :
    ∃ point, cs = point ++ rest ∧ SpellsFraction point fraction := by
  unfold splitFraction at h
  split at h
  · obtain ⟨rfl, hdigits, -⟩ := splitDigits_eq_iff.1 h
    exact ⟨'.' :: fraction, rfl, .pointed hdigits⟩
  · cases h
    exact ⟨[], rfl, .absent⟩

theorem SpellsFraction.splitFraction_eq {point fraction : List Char}
    (h : SpellsFraction point fraction) (hrest : ∀ c ∈ rest.head?, c.isDigit = false ∧ c ≠ '.') :
    splitFraction (point ++ rest) = (fraction, rest) := by
  cases h with
  | absent =>
    rw [List.nil_append]
    unfold splitFraction
    split
    · exact absurd rfl (hrest '.' rfl).2
    · rfl
  | pointed hdigits =>
    exact splitDigits_eq_iff.2 ⟨rfl, hdigits, fun c hc => (hrest c hc).1⟩

/-! ## Decimals -/

theorem readMagnitude?_eq_some_iff {coef : Nat} {exp : Int} :
    readMagnitude? cs = some (coef, exp) ↔ SpellsMagnitude cs coef exp := by
  constructor
  · intro h
    obtain ⟨whole, after, hwhole⟩ : ∃ whole after, splitDigits cs = (whole, after) := ⟨_, _, rfl⟩
    obtain ⟨fraction, exponent, hfraction⟩ : ∃ fraction exponent,
        splitFraction after = (fraction, exponent) := ⟨_, _, rfl⟩
    rw [readMagnitude?, hwhole] at h
    dsimp only at h
    rw [hfraction] at h
    dsimp only at h
    split at h
    · cases h
    · next hempty =>
      obtain ⟨e, he, heq⟩ := Option.map_eq_some_iff.1 h
      cases heq
      obtain ⟨rfl, hdigits, -⟩ := splitDigits_eq_iff.1 hwhole
      obtain ⟨point, rfl, hpoint⟩ := spellsFraction_of_splitFraction hfraction
      refine .mk hdigits hpoint ?_ (readExponent?_eq_some_iff.1 he)
      rwa [Bool.and_eq_true, List.isEmpty_iff, List.isEmpty_iff, not_and_or] at hempty
  · rintro ⟨hwhole, hpoint, hne, hexponent⟩
    rename_i whole point fraction exponent e
    have hsplit : splitDigits (whole ++ (point ++ exponent)) = (whole, point ++ exponent) := by
      refine splitDigits_eq_iff.2 ⟨rfl, hwhole, fun c hc => ?_⟩
      cases hpoint with
      | absent => exact (hexponent.head c hc).1
      | pointed =>
        cases hc
        decide
    have hempty : ¬ (whole.isEmpty && fraction.isEmpty) = true := by
      rwa [Bool.and_eq_true, List.isEmpty_iff, List.isEmpty_iff, not_and_or]
    rw [readMagnitude?, hsplit]
    dsimp only
    rw [hpoint.splitFraction_eq hexponent.head]
    dsimp only
    rw [if_neg hempty, readExponent?_eq_some_iff.2 hexponent]
    rfl

/-- Digits are a magnitude. -/
theorem spellsMagnitude_digits {digits : List Char} (hne : digits ≠ [])
    (hdigits : ∀ c ∈ digits, c.isDigit = true) : SpellsMagnitude digits (digitsValue digits) 0 := by
  simpa using SpellsMagnitude.mk hdigits .absent (.inl hne) .absent

/-- Digits with a point among or behind them are a magnitude. -/
theorem spellsMagnitude_pointed {whole fraction : List Char} (hne : whole ≠ [])
    (hdigits : ∀ c ∈ whole ++ fraction, c.isDigit = true) {exp : Int}
    (hexp : exp = -fraction.length) :
    SpellsMagnitude (whole ++ '.' :: fraction) (digitsValue (whole ++ fraction)) exp := by
  obtain ⟨hwhole, hfraction⟩ := List.forall_mem_append.1 hdigits
  subst hexp
  simpa using SpellsMagnitude.mk hwhole (.pointed hfraction) (.inl hne) .absent

/-- A magnitude begins with a digit or the point. -/
theorem SpellsMagnitude.head {text : List Char} {coef : Nat} {exp : Int}
    (h : SpellsMagnitude text coef exp) :
    ∃ c rest, text = c :: rest ∧ (c.isDigit = true ∨ c = '.') := by
  obtain ⟨hwhole, hpoint, hne, -⟩ := h
  rename_i whole point fraction exponent e
  cases whole with
  | cons c whole => exact ⟨c, _, rfl, .inl (hwhole c (.head _))⟩
  | nil =>
    cases hpoint with
    | absent => simp at hne
    | pointed => exact ⟨'.', _, rfl, .inr rfl⟩

theorem SpellsMagnitude.head_ne_sign {text : List Char} {coef : Nat} {exp : Int}
    (h : SpellsMagnitude text coef exp) : ∀ c ∈ text.head?, c ≠ '-' ∧ c ≠ '+' := by
  obtain ⟨d, rest, rfl, hd⟩ := h.head
  rintro c ⟨⟩
  rcases hd with hd | rfl
  · exact ne_sign_of_isDigit hd
  · decide

theorem toLower_of_digit_or_point {c : Char} (hc : c.isDigit = true ∨ c = '.') : c.toLower = c := by
  rcases hc with hdigit | rfl
  · unfold Char.isDigit at hdigit
    unfold Char.toLower
    simp only [Bool.and_eq_true, decide_eq_true_eq] at hdigit
    rw [dif_neg]
    intro hupper
    exact absurd (UInt32.le_trans hupper.1 hdigit.2) (by decide)
  · rfl

/-- A magnitude is none of the words for other numbers, which begin otherwise. -/
theorem SpellsMagnitude.ne_word {text : List Char} {coef : Nat} {exp : Int}
    (h : SpellsMagnitude text coef exp) (word : String) {c : Char} {rest : List Char}
    (hword : word.toList = c :: rest) (hc : c.isDigit = false ∧ c ≠ '.') :
    String.ofList (text.map Char.toLower) ≠ word := by
  obtain ⟨d, rest', rfl, hd⟩ := h.head
  intro heq
  have hlist := congrArg String.toList heq
  rw [hword, String.toList_ofList, List.map_cons, List.cons.injEq,
    toLower_of_digit_or_point hd] at hlist
  obtain ⟨rfl, -⟩ := hlist
  rcases hd with hd | hd
  · rw [hc.1] at hd
    cases hd
  · exact hc.2 hd

/-- A magnitude with a sign is read as it is spelt. -/
theorem SpellsMagnitude.readDecimal_eq {text : List Char} {coef : Nat} {exp : Int}
    (h : SpellsMagnitude text coef exp) (hsplit : splitSign cs = (neg, text)) :
    readDecimal cs = .ok (.finite neg coef exp) := by
  have hne : cs ≠ [] := by
    rintro rfl
    obtain ⟨c, rest, rfl, -⟩ := h.head
    cases hsplit
  have hinf := h.ne_word "inf" rfl (by decide)
  have hinfinity := h.ne_word "infinity" rfl (by decide)
  have hnan := h.ne_word "nan" rfl (by decide)
  simp [readDecimal, hne, hsplit, hinf, hinfinity, hnan, readMagnitude?_eq_some_iff.2 h]

theorem spellsMagnitude_of_readDecimal {coef : Nat} {exp : Int}
    (h : readDecimal cs = .ok (.finite neg coef exp)) :
    ∃ sign text, cs = sign ++ text ∧ SpellsSign sign neg ∧ SpellsMagnitude text coef exp := by
  unfold readDecimal at h
  split at h
  · cases h
  · obtain ⟨minus, text, hsplit⟩ : ∃ minus text, splitSign cs = (minus, text) := ⟨_, _, rfl⟩
    obtain ⟨sign, rfl, hsign⟩ := spellsSign_of_splitSign hsplit
    rw [hsplit] at h
    dsimp only at h
    split at h
    · cases h
    · split at h
      · cases h
      · split at h
        · next hmagnitude =>
          cases h
          exact ⟨sign, text, rfl, hsign, readMagnitude?_eq_some_iff.1 hmagnitude⟩
        · cases h

/-- A text is read as a finite decimal exactly if it denotes one, and then as that number. -/
theorem denotes_iff {q : ℚ} : Denotes cs q ↔
    ∃ neg coef exp, readDecimal cs = .ok (.finite neg coef exp) ∧ q = signed neg (coef * 10 ^ exp) := by
  constructor
  · rintro ⟨hsign, htext⟩
    exact ⟨_, _, _, htext.readDecimal_eq (hsign.splitSign_eq htext.head_ne_sign), rfl⟩
  · rintro ⟨neg, coef, exp, h, rfl⟩
    obtain ⟨sign, text, rfl, hsign, htext⟩ := spellsMagnitude_of_readDecimal h
    exact .mk hsign htext

/-- No text denotes two numbers. -/
theorem Denotes.unique {q r : ℚ} (hq : Denotes cs q) (hr : Denotes cs r) : q = r := by
  obtain ⟨neg, coef, exp, h, rfl⟩ := denotes_iff.1 hq
  obtain ⟨neg', coef', exp', h', rfl⟩ := denotes_iff.1 hr
  rw [h] at h'
  cases h'
  rfl

/-- A text of an integer denotes the integer. -/
theorem SpellsInteger.denotes {i : Int} (h : SpellsInteger cs i) : Denotes cs i := by
  obtain ⟨hsign, hne, hdigits⟩ := h
  rename_i sign digits neg
  convert Denotes.mk hsign (spellsMagnitude_digits hne hdigits) using 1
  cases neg <;> simp [signed]

end ItemTable
