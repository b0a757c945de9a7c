import ItemTable.StoreValue.Convert

set_option autoImplicit false

/-! # Integers read back

The numeral of an integer is read as that integer, whatever its sign and size
(`readInteger?_integerText`). So the store's numeral of an integer that fits a word comes back as
the same integer, at both ends of both kinds of word. -/

namespace ItemTable

/-- Digits have no sign before them. -/
theorem splitSign_digits {cs : List Char} (hdigits : ∀ c ∈ cs, c.isDigit = true) :
    splitSign cs = (false, cs) := by
  unfold splitSign
  split
  · exact absurd (hdigits '-' (by simp)) (by decide)
  · exact absurd (hdigits '+' (by simp)) (by decide)
  · rfl

theorem isDigit_toDigits (n : Nat) : ∀ c ∈ Nat.toDigits 10 n, c.isDigit = true := by
  intro c hc
  exact Nat.isDigit_of_mem_toDigits (by decide) (by decide) hc

theorem digitsValue_toDigits (n : Nat) : digitsValue (Nat.toDigits 10 n) = n :=
  Nat.ofDigitChars_ten_toDigits

/-- Digits after a sign denote an integer. -/
theorem readInteger?_of_splitSign {cs digits : List Char} {neg : Bool}
    (h : splitSign cs = (neg, digits)) (hne : digits ≠ [])
    (hdigits : ∀ c ∈ digits, c.isDigit = true) :
    readInteger? cs = some (if neg then -(digitsValue digits : Int) else digitsValue digits) := by
  have hempty : digits.isEmpty = false := by
    simp [hne]
  have hall : digits.all Char.isDigit = true := List.all_eq_true.2 hdigits
  simp only [readInteger?, h, hempty, hall]
  simp

theorem readInteger?_integerText (i : Int) : readInteger? (integerText i).toList = some i := by
  unfold integerText
  by_cases hneg : i < 0
  · have hsplit : splitSign ("-" ++ Nat.repr i.natAbs).toList =
        (true, Nat.toDigits 10 i.natAbs) := by
      simp [String.toList_append, Nat.toList_repr, splitSign]
    rw [if_pos hneg, readInteger?_of_splitSign hsplit Nat.toDigits_ne_nil (isDigit_toDigits _),
      digitsValue_toDigits, if_pos rfl, Option.some.injEq]
    omega
  · have hsplit : splitSign (Nat.repr i.natAbs).toList =
        (false, Nat.toDigits 10 i.natAbs) := by
      rw [Nat.toList_repr, splitSign_digits (isDigit_toDigits _)]
    rw [if_neg hneg, readInteger?_of_splitSign hsplit Nat.toDigits_ne_nil (isDigit_toDigits _),
      digitsValue_toDigits, if_neg (by simp), Option.some.injEq]
    omega

theorem WordInt.ofInt?_val (i : WordInt) : ofInt? i.val = some i := by
  unfold ofInt?
  rw [dif_pos ⟨i.lower, i.upper⟩]

theorem WordInt.ofInt?_eq_some_iff {z : Int} {i : WordInt} : ofInt? z = some i ↔ i.val = z := by
  constructor
  · intro h
    unfold ofInt? at h
    split at h
    · cases h
      rfl
    · cases h
  · rintro rfl
    exact i.ofInt?_val

/-- The numeral of an integer comes back as the integer. -/
theorem StoreValue.numberOfNumeral_integerText (i : WordInt) :
    numberOfNumeral (integerText i.val) = .ok (.int i) := by
  unfold numberOfNumeral
  rw [readInteger?_integerText, Option.bind_some, WordInt.ofInt?_val]

end ItemTable
