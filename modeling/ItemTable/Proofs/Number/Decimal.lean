import ItemTable.Number.Layout
import ItemTable.Proofs.Number.Grammar
import ItemTable.Proofs.Number.Shortest
import ItemTable.Proofs.Number.Whole

set_option autoImplicit false

/-! # Texts of floats read back

Whether a text has its point in its place or an exponent, it is a decimal of the same value as the
float's shortest one (`Layout.IsExact.spells_magnitude`), so it rounds back to the float
(`Layout.IsExact.readDecimal_text`). Whatever number is stored, it comes back as itself or as an
integer (`StoreValue.numberOfNumeral_numeral`), and from then on it stays as it is
(`StoreValue.numberOfNumeral_settled`). -/

namespace ItemTable

-- Powers are those of core, whatever else is imported.
attribute [local instance (high)] instPowNat

/-- The rational that a decimal stands for. -/
def Decimal.value (d : Decimal) : ℚ := d.coef * 10 ^ d.exp

/-- What follows a whole number does not change it. -/
def Layout.IsExact (layout : Layout) : Prop := layout.wholeSuffix = "" ∨ layout.wholeSuffix = ".0"

theorem Layout.isExact_numeral : Layout.numeral.IsExact := .inl rfl

theorem Layout.isExact_json : Layout.json.IsExact := .inr rfl

/-! ## Digits with zeros -/

theorem digitsValue_zeros_append (n : Nat) (digits : List Char) :
    digitsValue (List.replicate n '0' ++ digits) = digitsValue digits := by
  have hzeros : digitsValue (List.replicate n '0') = 10 ^ n * 0 :=
    Nat.ofDigitChars_replicate_zero
  have happend : digitsValue (List.replicate n '0' ++ digits) =
      Nat.ofDigitChars 10 digits (digitsValue (List.replicate n '0')) :=
    Nat.ofDigitChars_append 0
  rw [happend, hzeros, Nat.mul_zero]
  rfl

theorem digitsValue_append_zeros (n : Nat) (digits : List Char) :
    digitsValue (digits ++ List.replicate n '0') = digitsValue digits * 10 ^ n := by
  have happend : digitsValue (digits ++ List.replicate n '0') =
      Nat.ofDigitChars 10 (List.replicate n '0') (digitsValue digits) :=
    Nat.ofDigitChars_append 0
  rw [happend, Nat.ofDigitChars_replicate_zero, Nat.mul_comm]

theorem isDigit_zeros (n : Nat) : ∀ c ∈ List.replicate n '0', c.isDigit = true := by
  intro c hc
  rw [List.eq_of_mem_replicate hc]
  rfl

/-! ## The text of a decimal -/

section

variable (layout : Layout) (coef : Nat) {exp : Int}

/-- With places behind the point, the digits spell the decimal, whether the point stands among them
or zeros come between. -/
theorem spells_positionalText_of_neg (hexp : exp < 0) :
    SpellsMagnitude (layout.positionalText (Nat.toDigits 10 coef)
      (exp + (Nat.toDigits 10 coef).length)).toList coef exp := by
  have hdigits := isDigit_toDigits coef
  have hne : Nat.toDigits 10 coef ≠ [] := Nat.toDigits_ne_nil
  have hvalue := digitsValue_toDigits coef
  generalize Nat.toDigits 10 coef = digits at hdigits hne hvalue ⊢
  unfold Layout.positionalText
  dsimp only
  rw [if_neg (by omega : ¬ (digits.length : Int) ≤ exp + digits.length)]
  split_ifs with hsmall
  · -- zeros come between the point and the digits
    obtain ⟨zeros, hzeros⟩ : ∃ n, n = (-(exp + digits.length)).toNat := ⟨_, rfl⟩
    have hall : ∀ c ∈ ['0'] ++ (List.replicate zeros '0' ++ digits), c.isDigit = true := by
      rw [← List.append_assoc]
      exact List.forall_mem_append.2 ⟨isDigit_zeros (zeros + 1), hdigits⟩
    have hcoef : digitsValue (['0'] ++ (List.replicate zeros '0' ++ digits)) = coef := by
      rw [← List.append_assoc, ← hvalue]
      exact digitsValue_zeros_append (zeros + 1) digits
    have hplaces : exp = -(List.replicate zeros '0' ++ digits).length := by
      rw [List.length_append, List.length_replicate]
      omega
    have hspelt := spellsMagnitude_pointed (List.cons_ne_nil _ _) hall hplaces
    rw [hcoef] at hspelt
    simpa [hzeros] using hspelt
  · -- the point stands among the digits
    obtain ⟨n, hn⟩ : ∃ n, n = (exp + digits.length).toNat := ⟨_, rfl⟩
    have hsplit : digits.take n ++ digits.drop n = digits := List.take_append_drop ..
    have hwhole : digits.take n ≠ [] := by
      rw [Ne, List.take_eq_nil_iff, not_or]
      exact ⟨by omega, hne⟩
    have hplaces : exp = -(digits.drop n).length := by
      rw [List.length_drop]
      omega
    have hspelt := spellsMagnitude_pointed hwhole (hsplit.symm ▸ hdigits) hplaces
    rw [hsplit, hvalue] at hspelt
    simpa [hn] using hspelt

/-- Without places behind the point, zeros come behind the digits. -/
theorem spells_positionalText_of_nonneg (h : layout.IsExact) (hexp : 0 ≤ exp) :
    ∃ c e, SpellsMagnitude (layout.positionalText (Nat.toDigits 10 coef)
      (exp + (Nat.toDigits 10 coef).length)).toList c e ∧
      (c : ℚ) * 10 ^ e = coef * 10 ^ exp := by
  have hlength : 0 < (Nat.toDigits 10 coef).length := Nat.length_toDigits_pos
  obtain ⟨n, rfl⟩ : ∃ n : Nat, exp = n := ⟨exp.toNat, by omega⟩
  obtain ⟨digits, hdigits⟩ : ∃ digits, digits = Nat.toDigits 10 coef ++ List.replicate n '0' :=
    ⟨_, rfl⟩
  have htext : layout.positionalText (Nat.toDigits 10 coef) (n + (Nat.toDigits 10 coef).length) =
      String.ofList digits ++ layout.wholeSuffix := by
    unfold Layout.positionalText
    dsimp only
    rw [if_neg (by omega), if_pos (by omega), hdigits, Int.add_sub_cancel, Int.toNat_natCast]
  have hall : ∀ c ∈ digits, c.isDigit = true := by
    rw [hdigits]
    exact List.forall_mem_append.2 ⟨isDigit_toDigits coef, isDigit_zeros n⟩
  have hne : digits ≠ [] := by
    rw [hdigits]
    exact List.append_ne_nil_of_left_ne_nil Nat.toDigits_ne_nil _
  have hvalue : digitsValue digits = coef * 10 ^ n := by
    rw [hdigits, digitsValue_append_zeros, digitsValue_toDigits]
  rw [htext, String.toList_append, String.toList_ofList]
  rcases h with hsuffix | hsuffix
  · refine ⟨digitsValue digits, 0, ?_, ?_⟩
    · simpa [hsuffix] using spellsMagnitude_digits hne hall
    · rw [hvalue]
      push_cast
      simp
  · refine ⟨digitsValue (digits ++ ['0']), -1, ?_, ?_⟩
    · have hzero : ∀ c ∈ digits ++ ['0'], c.isDigit = true :=
        List.forall_mem_append.2 ⟨hall, isDigit_zeros 1⟩
      simpa [hsuffix] using spellsMagnitude_pointed hne hzero rfl
    · have hten : digitsValue (digits ++ ['0']) = digitsValue digits * 10 :=
        digitsValue_append_zeros 1 digits
      rw [hten, hvalue]
      push_cast
      simp

/-- With an exponent, the digits spell the decimal too. -/
theorem spells_scientificText :
    SpellsMagnitude (Layout.scientificText (Nat.toDigits 10 coef)
      (exp + (Nat.toDigits 10 coef).length)).toList coef exp := by
  have hlength : 0 < (Nat.toDigits 10 coef).length := Nat.length_toDigits_pos
  have hdigits := isDigit_toDigits coef
  have hvalue := digitsValue_toDigits coef
  generalize Nat.toDigits 10 coef = digits at hlength hdigits hvalue ⊢
  obtain ⟨first, rest, rfl⟩ := List.exists_cons_of_length_pos hlength
  obtain ⟨point, hpoint⟩ : ∃ point, point = exp + (first :: rest).length - 1 := ⟨_, rfl⟩
  have hexponent : SpellsExponent ('e' :: ((if point < 0 then "-" else "+") ++
      Nat.repr point.natAbs).toList) point := by
    refine .marked (.inl rfl) ?_
    have hsign : SpellsSign (if point < 0 then "-" else "+").toList (decide (point < 0)) := by
      split_ifs with hneg
      · rw [decide_eq_true hneg]
        exact .minus
      · rw [decide_eq_false hneg]
        exact .plus
    have hspelt := SpellsInteger.mk hsign Nat.toDigits_ne_nil (isDigit_toDigits point.natAbs)
    rw [digitsValue_toDigits] at hspelt
    rw [String.toList_append, Nat.toList_repr]
    convert hspelt using 1
    split_ifs with hneg
    · have := of_decide_eq_true hneg
      omega
    · have : ¬ point < 0 := fun h => hneg (decide_eq_true h)
      omega
  have hplaces : point - rest.length = exp := by
    rw [hpoint, List.length_cons]
    omega
  have hwhole : ∀ c ∈ [first], c.isDigit = true :=
    List.forall_mem_singleton.2 (hdigits first (.head _))
  have hfraction : SpellsFraction (if rest.isEmpty then [] else '.' :: rest) rest := by
    cases rest with
    | nil => exact .absent
    | cons c rest => exact .pointed fun c hc => hdigits c (.tail _ hc)
  have hspelt := SpellsMagnitude.mk hwhole hfraction (.inl (List.cons_ne_nil _ _)) hexponent
  rw [List.singleton_append, List.singleton_append, hvalue, hplaces] at hspelt
  convert hspelt using 1
  unfold Layout.scientificText
  cases rest <;> simp [hpoint]

end

/-! ## The text of a float -/

/-- A decimal in the interval of a number may be written in any way. -/
theorem Binary64.encloses_of_value_eq {x : Binary64} {d : Decimal} {coef : Nat} {exp : Int}
    (h : x.Encloses (d.coef * 10 ^ d.exp.toNat) (10 ^ (-d.exp).toNat))
    (hvalue : (coef : ℚ) * 10 ^ exp = d.value) :
    x.Encloses (coef * 10 ^ exp.toNat) (10 ^ (-exp).toNat) := by
  refine h.congr (ten_pow_ne_zero _) (ten_pow_ne_zero _) ?_
  have hten : (10 : ℚ) ≠ 0 := by norm_num
  rw [Decimal.value, mul_zpow_eq_div _ hten, mul_zpow_eq_div _ hten,
    div_eq_div_iff (pow_ne_zero _ hten) (pow_ne_zero _ hten)] at hvalue
  exact_mod_cast hvalue.symm

theorem Binary64.eq_zero_of_mant {x : Binary64} (hmant : x.mant = 0) : x = zero x.neg := by
  obtain ⟨neg, mant, exp, hcanonical⟩ := x
  dsimp only at hmant
  subst hmant
  obtain rfl : exp = -1074 := hcanonical.2.2.2.resolve_left (by decide)
  rfl

/-- A decimal of the same value as a float's shortest one rounds to the float. -/
theorem Binary64.ofDecimal_of_value_eq {x : Binary64} {tie : Tie} {coef : Nat} {exp : Int}
    (h : (coef : ℚ) * 10 ^ exp = (x.shortest tie).value) : ofDecimal x.neg coef exp = some x := by
  by_cases hmant : x.mant = 0
  · have hshortest : x.shortest tie = ⟨0, 0⟩ := if_pos hmant
    have hcoef : coef = 0 := by
      have hzero : (coef : ℚ) * 10 ^ exp = 0 := by
        rw [h, hshortest, Decimal.value, Nat.cast_zero, zero_mul]
      exact_mod_cast (mul_eq_zero.1 hzero).resolve_right (zpow_ne_zero _ (by norm_num))
    rw [ofDecimal, if_pos hcoef, ← eq_zero_of_mant hmant]
  · exact ofDecimal_of_encloses hmant (encloses_of_value_eq (x.encloses_shortest tie hmant) h)

namespace Layout.IsExact

variable {layout : Layout} (h : layout.IsExact) (x : Binary64)
include h

/-- The text of a float, but for its sign, spells the value of the float's shortest decimal. -/
theorem spells_magnitude : ∃ coef exp, SpellsMagnitude (layout.magnitude x).toList coef exp ∧
    (coef : ℚ) * 10 ^ exp = (x.shortest layout.tie).value := by
  unfold Layout.magnitude
  dsimp only
  split_ifs with hmant hpositional
  · have hspelt := spells_positionalText_of_nonneg layout 0 h (Int.le_refl 0)
    have hshortest : x.shortest layout.tie = ⟨0, 0⟩ := if_pos hmant
    rw [hshortest]
    exact hspelt
  · rcases Int.lt_or_le (x.shortest layout.tie).exp 0 with hneg | hnonneg
    · exact ⟨_, _, spells_positionalText_of_neg layout _ hneg, rfl⟩
    · exact spells_positionalText_of_nonneg layout _ h hnonneg
  · exact ⟨_, _, spells_scientificText _, rfl⟩

theorem splitSign_text :
    splitSign (layout.text x).toList = (x.neg, (layout.magnitude x).toList) := by
  obtain ⟨coef, exp, hspells, -⟩ := h.spells_magnitude x
  rw [Layout.text, String.toList_append]
  cases x.neg with
  | true => exact SpellsSign.minus.splitSign_eq hspells.head_ne_sign
  | false => exact SpellsSign.absent.splitSign_eq hspells.head_ne_sign

/-- The text of a float is read as a decimal that rounds to the float. -/
theorem readDecimal_text : ∃ coef exp,
    readDecimal (layout.text x).toList = .ok (.finite x.neg coef exp) ∧
      (coef : ℚ) * 10 ^ exp = (x.shortest layout.tie).value ∧
      Binary64.ofDecimal x.neg coef exp = some x := by
  obtain ⟨coef, exp, hspells, hvalue⟩ := h.spells_magnitude x
  exact ⟨coef, exp, hspells.readDecimal_eq (h.splitSign_text x), hvalue,
    Binary64.ofDecimal_of_value_eq hvalue⟩

/-- The text of a float denotes the float's shortest decimal. -/
theorem denotes_text :
    Denotes (layout.text x).toList (signed x.neg (x.shortest layout.tie).value) := by
  obtain ⟨coef, exp, hread, hvalue, -⟩ := h.readDecimal_text x
  exact denotes_iff.2 ⟨_, _, _, hread, by rw [hvalue]⟩

end Layout.IsExact

namespace StoreValue

/-- A text that spells no integer that fits a word, and is read as a decimal that rounds to a float,
comes back as the float, or as an integer of the same value. -/
theorem numberOfNumeral_of_readDecimal {text : String} {neg : Bool} {coef : Nat} {exp : Int}
    {x : Binary64} (hinteger : (readInteger? text.toList).bind WordInt.ofInt? = none)
    (hread : readDecimal text.toList = .ok (.finite neg coef exp))
    (hround : Binary64.ofDecimal neg coef exp = some x) :
    ∃ m, numberOfNumeral text = .ok m ∧ m.value = x.value ∧ ((∃ i, m = .int i) ∨ m = .float x) := by
  unfold numberOfNumeral
  rw [hinteger]
  dsimp only
  rw [hread]
  dsimp only
  rw [hround]
  dsimp only
  split_ifs with hwhole
  · split
    · next i hi =>
      have hvalue := Binary64.value_of_isIntegral hwhole.1
      rw [← WordInt.ofInt?_eq_some_iff.1 hi] at hvalue
      exact ⟨_, rfl, hvalue.symm, .inl ⟨i, rfl⟩⟩
    · exact ⟨_, rfl, rfl, .inr rfl⟩
  · exact ⟨_, rfl, rfl, .inr rfl⟩

/-- A stored number comes back as itself, or as an integer. -/
theorem numberOfNumeral_numeral (n : Number) :
    (∃ i, numberOfNumeral n.numeral = .ok (.int i)) ∨ numberOfNumeral n.numeral = .ok n := by
  cases n with
  | int i => exact .inl ⟨i, numberOfNumeral_integerText i⟩
  | float x =>
    obtain ⟨coef, exp, hread, -, hround⟩ := Layout.isExact_numeral.readDecimal_text x
    cases hinteger : (readInteger? (Layout.numeral.text x).toList).bind WordInt.ofInt? with
    | some i =>
      refine .inl ⟨i, ?_⟩
      unfold numberOfNumeral Number.numeral
      rw [hinteger]
    | none =>
      obtain ⟨m, hm, -, hcases⟩ := numberOfNumeral_of_readDecimal hinteger hread hround
      rcases hcases with ⟨i, rfl⟩ | rfl
      · exact .inl ⟨i, hm⟩
      · exact .inr hm

/-- What comes back for a number is stored under a numeral that stands for it. -/
theorem numberOfNumeral_settled (n : Number) :
    ∃ m, numberOfNumeral n.numeral = .ok m ∧ numberOfNumeral m.numeral = .ok m := by
  rcases numberOfNumeral_numeral n with ⟨i, hi⟩ | hn
  · exact ⟨.int i, hi, numberOfNumeral_integerText i⟩
  · exact ⟨n, hn, hn⟩

end StoreValue

end ItemTable
