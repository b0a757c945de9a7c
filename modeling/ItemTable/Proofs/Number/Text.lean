import ItemTable.Proofs.Number.Decimal

set_option autoImplicit false

/-! # What the text of a number denotes

The JSON text of an integer denotes the integer, and that of a float the float's shortest decimal
(`Number.denotes_text`). So different numbers have different texts (`Number.text_injective`), but
two texts denote one number if they are of the two zeros, or of a float and the integer that its
decimal is (`Number.decimal_eq_iff`). -/

namespace ItemTable

-- Powers are those of core, whatever else is imported.
attribute [local instance (high)] instPowNat

/-! ## Decimals of floats -/

/-- A value that does not change with its sign is zero. -/
theorem eq_zero_of_signed_eq {neg neg' : Bool} {q : ℚ} (hneg : neg ≠ neg')
    (h : signed neg q = signed neg' q) : q = 0 := by
  cases neg with
  | false =>
    cases neg' with
    | false => exact absurd rfl hneg
    | true => exact self_eq_neg.1 h
  | true =>
    cases neg' with
    | false => exact neg_eq_self.1 h
    | true => exact absurd rfl hneg

namespace Binary64

variable {x y : Binary64} {tie : Tie}

theorem value_shortest_nonneg (x : Binary64) (tie : Tie) : 0 ≤ (x.shortest tie).value := by
  unfold Decimal.value
  positivity

theorem value_shortest_eq_zero_iff : (x.shortest tie).value = 0 ↔ x.mant = 0 := by
  constructor
  · intro hvalue
    by_contra hmant
    have hten : (10 : ℚ) ^ (x.shortest tie).exp ≠ 0 := zpow_ne_zero _ (by norm_num)
    have hcoef : (x.shortest tie).coef = 0 :=
      Nat.cast_eq_zero.1 ((mul_eq_zero.1 hvalue).resolve_right hten)
    have hpos := (x.encloses_shortest tie hmant).pos (ten_pow_ne_zero _) hmant
    rw [hcoef, Nat.zero_mul, Nat.zero_mul] at hpos
    exact Nat.not_lt_zero _ hpos
  · intro hmant
    rw [shortest, if_pos hmant, Decimal.value, Nat.cast_zero, zero_mul]

/-- Numbers of one sign and one decimal are equal. -/
theorem eq_of_value_shortest_eq (hneg : x.neg = y.neg)
    (hvalue : (x.shortest tie).value = (y.shortest tie).value) : x = y := by
  have hx : ofDecimal x.neg (x.shortest tie).coef (x.shortest tie).exp = some x :=
    ofDecimal_of_value_eq rfl
  have hy : ofDecimal y.neg (x.shortest tie).coef (x.shortest tie).exp = some y :=
    ofDecimal_of_value_eq hvalue
  rw [hneg, hy] at hx
  exact (Option.some.inj hx).symm

end Binary64

/-! ## Texts of numbers -/

/-- Two texts denote one number. -/
def SameNumber (s t : String) : Prop := ∃ q, Denotes s.toList q ∧ Denotes t.toList q

theorem SameNumber.symm {s t : String} (h : SameNumber s t) : SameNumber t s := by
  obtain ⟨q, hs, ht⟩ := h
  exact ⟨q, ht, hs⟩

/-- What spells an integer has no other characters than digits and signs. -/
theorem SpellsInteger.forall_mem {cs : List Char} {i : Int} (h : SpellsInteger cs i) :
    ∀ c ∈ cs, c.isDigit = true ∨ c = '-' ∨ c = '+' := by
  obtain ⟨hsign, -, hdigits⟩ := h
  refine List.forall_mem_append.2 ⟨fun c hc => ?_, fun c hc => .inl (hdigits c hc)⟩
  cases hsign with
  | absent => exact absurd hc List.not_mem_nil
  | plus => exact .inr (.inr (List.mem_singleton.1 hc))
  | minus => exact .inr (.inl (List.mem_singleton.1 hc))

/-- The JSON text of a float has a point or an exponent. -/
theorem Layout.json_mark (x : Binary64) :
    ∃ c ∈ (Layout.json.magnitude x).toList, c = '.' ∨ c = 'e' := by
  unfold Layout.magnitude
  dsimp only
  split_ifs
  · exact ⟨'.', by simp [Layout.json], .inl rfl⟩
  · refine ⟨'.', ?_, .inl rfl⟩
    unfold Layout.positionalText
    dsimp only
    split_ifs <;> simp [Layout.json]
  · exact ⟨'e', by simp [Layout.scientificText], .inr rfl⟩

theorem Layout.json_not_spellsInteger (x : Binary64) :
    ¬ ∃ i, SpellsInteger (Layout.json.text x).toList i := by
  rintro ⟨i, hspells⟩
  obtain ⟨c, hc, hmark⟩ := Layout.json_mark x
  have hmem : c ∈ (Layout.json.text x).toList := by
    rw [Layout.text, String.toList_append]
    exact List.mem_append_right _ hc
  have hchar := hspells.forall_mem c hmem
  rcases hmark with rfl | rfl
  · exact absurd hchar (by decide)
  · exact absurd hchar (by decide)

namespace Number

variable {n m : Number}

/-- The rational that the text of a number denotes. -/
def decimal : Number → ℚ
  | .int i => i.val
  | .float x => signed x.neg (x.shortest .toEven).value

/-- Two numbers of one decimal in two forms: an integer and a float whose shortest decimal it is, or
the two zeros. -/
inductive Twins : Number → Number → Prop
  | whole {i : WordInt} {x : Binary64} (h : (Number.float x).decimal = i.val) :
    Twins (.int i) (.float x)
  | zeros : Twins (.float (.zero false)) (.float (.zero true))

/-- The text of a number denotes its decimal. -/
theorem denotes_text (n : Number) : Denotes n.text.toList n.decimal := by
  cases n with
  | int i => exact (readInteger?_eq_some_iff.1 (readInteger?_integerText i.val)).denotes
  | float x => exact Layout.isExact_json.denotes_text x

/-- Floats of one decimal are equal, or the two zeros. -/
theorem float_eq_or_twins {x y : Binary64} (h : (Number.float x).decimal = (Number.float y).decimal) :
    x = y ∨ Twins (.float x) (.float y) ∨ Twins (.float y) (.float x) := by
  have hvalue : (x.shortest .toEven).value = (y.shortest .toEven).value := by
    have habs := congrArg abs h
    rwa [decimal, decimal, abs_signed _ (x.value_shortest_nonneg _),
      abs_signed _ (y.value_shortest_nonneg _)] at habs
  by_cases hneg : x.neg = y.neg
  · exact .inl (Binary64.eq_of_value_shortest_eq hneg hvalue)
  · rw [decimal, decimal, ← hvalue] at h
    have hzero := eq_zero_of_signed_eq hneg h
    have hx := Binary64.eq_zero_of_mant (Binary64.value_shortest_eq_zero_iff.1 hzero)
    have hy := Binary64.eq_zero_of_mant (Binary64.value_shortest_eq_zero_iff.1 (hvalue ▸ hzero))
    cases hxneg : x.neg with
    | false =>
      rw [hxneg] at hx hneg
      rw [Bool.eq_true_of_not_eq_false (Ne.symm hneg)] at hy
      rw [hx, hy]
      exact .inr (.inl .zeros)
    | true =>
      rw [hxneg] at hx hneg
      rw [Bool.eq_false_of_not_eq_true (Ne.symm hneg)] at hy
      rw [hx, hy]
      exact .inr (.inr .zeros)

theorem Twins.decimal_eq (h : Twins n m) : n.decimal = m.decimal := by
  cases h with
  | whole h => exact h.symm
  | zeros =>
    have hshortest : ∀ neg, ((Binary64.zero neg).shortest .toEven).value = 0 := fun neg =>
      Binary64.value_shortest_eq_zero_iff.2 rfl
    simp only [decimal, hshortest]
    simp [signed]

/-- Two numbers have one decimal exactly if they are equal or twins. -/
theorem decimal_eq_iff : n.decimal = m.decimal ↔ n = m ∨ Twins n m ∨ Twins m n := by
  constructor
  · intro h
    cases n with
    | int i =>
      cases m with
      | int j =>
        have hval : i.val = j.val := Int.cast_injective h
        cases i
        cases j
        cases hval
        exact .inl rfl
      | float y => exact .inr (.inl (.whole h.symm))
    | float x =>
      cases m with
      | int j => exact .inr (.inr (.whole h))
      | float y =>
        rcases float_eq_or_twins h with rfl | htwins
        · exact .inl rfl
        · exact .inr htwins
  · rintro (rfl | h | h)
    · rfl
    · exact h.decimal_eq
    · exact h.decimal_eq.symm

theorem Twins.text_ne (h : Twins n m) : n.text ≠ m.text := by
  cases h with
  | whole h =>
    rename_i i x
    intro htext
    refine Layout.json_not_spellsInteger x ⟨i.val, ?_⟩
    rw [show Layout.json.text x = integerText i.val from htext.symm]
    exact readInteger?_eq_some_iff.1 (readInteger?_integerText i.val)
  | zeros => decide

/-- Different numbers have different texts. -/
theorem text_injective (h : n.text = m.text) : n = m := by
  have hdenotes := m.denotes_text
  rw [← h] at hdenotes
  rcases decimal_eq_iff.1 (n.denotes_text.unique hdenotes) with heq | htwins | htwins
  · exact heq
  · exact absurd h htwins.text_ne
  · exact absurd h.symm htwins.text_ne

/-- Two texts denote one number exactly if the numbers that they are of are equal or twins. -/
theorem sameNumber_text_iff : SameNumber n.text m.text ↔ n = m ∨ Twins n m ∨ Twins m n := by
  rw [← decimal_eq_iff]
  constructor
  · rintro ⟨q, hn, hm⟩
    exact (n.denotes_text.unique hn).trans (m.denotes_text.unique hm).symm
  · intro h
    exact ⟨_, n.denotes_text, h ▸ m.denotes_text⟩

end Number

/-- The text of a number comes back as a number of the same value. -/
theorem StoreValue.numberOfNumeral_text (n : Number) :
    ∃ m, numberOfNumeral n.text = .ok m ∧ m.value = n.value := by
  cases n with
  | int i => exact ⟨.int i, numberOfNumeral_integerText i, rfl⟩
  | float x =>
    obtain ⟨coef, exp, hread, -, hround⟩ := Layout.isExact_json.readDecimal_text x
    have hinteger : readInteger? (Layout.json.text x).toList = none := by
      rw [Option.eq_none_iff_forall_ne_some]
      intro i hi
      exact Layout.json_not_spellsInteger x ⟨i, readInteger?_eq_some_iff.1 hi⟩
    obtain ⟨m, hm, hvalue, -⟩ := numberOfNumeral_of_readDecimal
      (by rw [hinteger, Option.bind_none]) hread hround
    exact ⟨m, hm, hvalue⟩

end ItemTable
