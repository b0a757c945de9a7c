import ItemTable.Condition
import ItemTable.Proofs.Record

set_option autoImplicit false

/-! # Words of placeholders

The words of one length are the numerals of as many digits, and longer words come later: a rank is
the number of the shorter words and the rank among the words of its own length (`exists_word_eq`).
So different ranks have different words. The placeholders of an update then differ among themselves,
and those of a condition do, and no placeholder of one is a placeholder of the other: the former
have letters of one case only after their mark, the latter have a digit at the end. -/

namespace ItemTable

-- Powers are those of core, whatever else is imported.
attribute [local instance (high)] instPowNat

namespace Placeholder

/-! ## Words -/

theorem length_letters (width rank : Nat) : (letters width rank).length = width := by
  induction width generalizing rank with
  | zero => rfl
  | succ width ih => simp [letters, ih]

theorem letters_lt (width rank : Nat) : ∀ d ∈ letters width rank, d < 26 := by
  induction width generalizing rank with
  | zero => simp [letters]
  | succ width ih =>
    intro d hd
    rcases List.mem_append.1 hd with hd | hd
    · exact ih _ d hd
    · obtain rfl := List.mem_singleton.1 hd
      exact Nat.mod_lt _ (by decide)

theorem letters_inj {width m n : Nat} (hm : m < 26 ^ width) (hn : n < 26 ^ width)
    (h : letters width m = letters width n) : m = n := by
  induction width generalizing m n with
  | zero => omega
  | succ width ih =>
    rw [Nat.pow_succ] at hm hn
    -- the last letters are the remainders by 26, those before them spell the quotients
    obtain ⟨hdiv, hmod⟩ := List.append_inj' h rfl
    have hdiv := ih (Nat.div_lt_of_lt_mul (Nat.mul_comm _ 26 ▸ hm))
      (Nat.div_lt_of_lt_mul (Nat.mul_comm _ 26 ▸ hn)) hdiv
    have hmod := List.head_eq_of_cons_eq hmod
    omega

theorem wordFrom_of_lt {fuel width rank : Nat} (h : rank < 26 ^ width) :
    wordFrom fuel width rank = letters width rank := by
  cases fuel with
  | zero => rfl
  | succ fuel => rw [wordFrom, if_pos h]

theorem wordFrom_of_le {fuel width rank : Nat} (h : 26 ^ width ≤ rank) :
    wordFrom (fuel + 1) width rank = wordFrom fuel (width + 1) (rank - 26 ^ width) := by
  rw [wordFrom, if_neg (Nat.not_lt.2 h)]

/-- The number of the words of `width` letters and of the lengths after it, `count` lengths in
all. -/
def blocks : Nat → Nat → Nat
  | _, 0 => 0
  | width, count + 1 => 26 ^ width + blocks (width + 1) count

@[simp] theorem blocks_zero (width : Nat) : blocks width 0 = 0 := rfl

theorem blocks_succ (width count : Nat) :
    blocks width (count + 1) = 26 ^ width + blocks (width + 1) count := rfl

theorem blocks_succ_last (width count : Nat) :
    blocks width (count + 1) = blocks width count + 26 ^ (width + count) := by
  induction count generalizing width with
  | zero => simp [blocks]
  | succ count ih =>
    have hwidth : width + 1 + count = width + (count + 1) := by omega
    rw [blocks_succ, ih (width + 1), blocks_succ width count, hwidth, Nat.add_assoc]

/-- Past the words of the shorter lengths, the words of one length are spelt in their order. -/
theorem wordFrom_blocks {fuel width count n : Nat} (hn : n < 26 ^ (width + count))
    (hfuel : blocks width count + n ≤ fuel) :
    wordFrom fuel width (blocks width count + n) = letters (width + count) n := by
  induction count generalizing fuel width with
  | zero => simpa using wordFrom_of_lt hn
  | succ count ih =>
    have hpos : 0 < 26 ^ width := Nat.pow_pos (by decide)
    have hwidth : width + (count + 1) = width + 1 + count := by omega
    rw [blocks_succ] at hfuel ⊢
    -- the words of `width` letters take up fuel, since there is one of them at least
    obtain ⟨fuel, rfl⟩ : ∃ k, fuel = k + 1 := ⟨fuel - 1, by omega⟩
    have hrest : 26 ^ width + blocks (width + 1) count + n - 26 ^ width
        = blocks (width + 1) count + n := by omega
    rw [wordFrom_of_le (by omega), hrest, hwidth]
    exact ih (hwidth ▸ hn) (by omega)

/-- Every rank lies among the words of one length. -/
theorem exists_eq_blocks_add (width rank : Nat) :
    ∃ count n, n < 26 ^ (width + count) ∧ rank = blocks width count + n := by
  induction rank with
  | zero => exact ⟨0, 0, Nat.pow_pos (by decide), rfl⟩
  | succ rank ih =>
    obtain ⟨count, n, hn, rfl⟩ := ih
    by_cases hlast : n + 1 < 26 ^ (width + count)
    · exact ⟨count, n + 1, hlast, rfl⟩
    · -- the last word of its length comes before the first one of the next
      refine ⟨count + 1, 0, Nat.pow_pos (by decide), ?_⟩
      rw [blocks_succ_last]
      omega

theorem exists_word_eq (rank : Nat) :
    ∃ count n, n < 26 ^ (2 + count) ∧ rank = blocks 2 count + n ∧
      word rank = letters (2 + count) n := by
  obtain ⟨count, n, hn, rfl⟩ := exists_eq_blocks_add 2 rank
  exact ⟨count, n, hn, rfl, wordFrom_blocks hn (Nat.le_refl _)⟩

theorem word_inj {m n : Nat} (h : word m = word n) : m = n := by
  obtain ⟨count, i, hi, rfl, hm⟩ := exists_word_eq m
  obtain ⟨count', j, hj, rfl, hn⟩ := exists_word_eq n
  rw [hm, hn] at h
  have hlength := congrArg List.length h
  rw [length_letters, length_letters] at hlength
  obtain rfl : count = count' := by omega
  rw [letters_inj hi hj h]

theorem word_lt (rank : Nat) : ∀ d ∈ word rank, d < 26 := by
  obtain ⟨count, n, -, -, hword⟩ := exists_word_eq rank
  exact hword ▸ letters_lt (2 + count) n

/-! ## Placeholders of updates -/

theorem toList_name (rank : Nat) :
    (name rank).toList = '#' :: (word rank).map fun d => Char.ofNat (65 + d) := by
  simp [name, upper, String.toList_append]

theorem toList_lower (rank : Nat) :
    (lower rank).toList = (word rank).map fun d => Char.ofNat (97 + d) := by
  simp [lower]

theorem toList_value (rank : Nat) :
    (value rank).toList = ':' :: (word rank).map fun d => Char.ofNat (97 + d) := by
  simp [value, toList_lower, String.toList_append]

/-- A letter of a placeholder is no digit. -/
theorem isDigit_of_mem_word {first rank : Nat} (hfirst : first = 65 ∨ first = 97) {c : Char}
    (h : c ∈ (word rank).map fun d => Char.ofNat (first + d)) : c.isDigit = false := by
  have hletter : ∀ first ∈ [65, 97], ∀ d < 26, (Char.ofNat (first + d)).isDigit = false := by
    decide +kernel
  obtain ⟨d, hd, rfl⟩ := List.mem_map.1 h
  exact hletter first (by simpa using hfirst) d (word_lt rank d hd)

/-- Different letters have different characters. -/
theorem map_letter_inj {first : Nat} (hfirst : first = 65 ∨ first = 97) {ds es : List Nat}
    (hds : ∀ d ∈ ds, d < 26) (hes : ∀ e ∈ es, e < 26)
    (h : ds.map (fun d => Char.ofNat (first + d)) = es.map fun e => Char.ofNat (first + e)) :
    ds = es := by
  induction ds generalizing es with
  | nil => exact (List.map_eq_nil_iff.1 h.symm).symm
  | cons d ds ih =>
    cases es with
    | nil => cases h
    | cons e es =>
      obtain ⟨hd, hds⟩ := List.forall_mem_cons.1 hds
      obtain ⟨he, hes⟩ := List.forall_mem_cons.1 hes
      obtain ⟨hchar, hrest⟩ := List.cons.inj h
      have hletter : ∀ first ∈ [65, 97], ∀ d < 26, ∀ e < 26,
          Char.ofNat (first + d) = Char.ofNat (first + e) → d = e := by decide +kernel
      rw [hletter first (by simpa using hfirst) d hd e he hchar, ih hds hes hrest]

theorem name_inj {m n : Nat} (h : name m = name n) : m = n := by
  have hlist := congrArg String.toList h
  rw [toList_name, toList_name, List.cons.injEq] at hlist
  exact word_inj (map_letter_inj (.inl rfl) (word_lt m) (word_lt n) hlist.2)

theorem value_inj {m n : Nat} (h : value m = value n) : m = n := by
  have hlist := congrArg String.toList h
  rw [toList_value, toList_value, List.cons.injEq] at hlist
  exact word_inj (map_letter_inj (.inr rfl) (word_lt m) (word_lt n) hlist.2)

theorem isDigit_of_mem_name {rank : Nat} {c : Char} (h : c ∈ (name rank).toList) :
    c.isDigit = false := by
  rw [toList_name, List.mem_cons] at h
  rcases h with rfl | h
  · decide
  · exact isDigit_of_mem_word (.inl rfl) h

theorem isDigit_of_mem_value {rank : Nat} {c : Char} (h : c ∈ (value rank).toList) :
    c.isDigit = false := by
  rw [toList_value, List.mem_cons] at h
  rcases h with rfl | h
  · decide
  · exact isDigit_of_mem_word (.inr rfl) h

end Placeholder

/-! ## Placeholders of conditions -/

namespace Condition

/-- The placeholder of the operand with a number. -/
def operandPlaceholder (i : Nat) : String := ":v" ++ Nat.repr i

theorem toList_attributePlaceholder (i : Nat) :
    (attributePlaceholder i).toList = '#' :: 'n' :: Nat.toDigits 10 i := by
  simp [attributePlaceholder, String.toList_append, Nat.toList_repr]

theorem toList_operandPlaceholder (i : Nat) :
    (operandPlaceholder i).toList = ':' :: 'v' :: Nat.toDigits 10 i := by
  simp [operandPlaceholder, String.toList_append, Nat.toList_repr]

theorem toDigits_inj {m n : Nat} (h : Nat.toDigits 10 m = Nat.toDigits 10 n) : m = n := by
  have hvalue := congrArg (Nat.ofDigitChars 10 · 0) h
  simpa only [Nat.ofDigitChars_ten_toDigits] using hvalue

theorem attributePlaceholder_inj {m n : Nat}
    (h : attributePlaceholder m = attributePlaceholder n) : m = n := by
  have hlist := congrArg String.toList h
  rw [toList_attributePlaceholder, toList_attributePlaceholder] at hlist
  exact toDigits_inj (List.cons.inj (List.cons.inj hlist).2).2

theorem operandPlaceholder_inj {m n : Nat}
    (h : operandPlaceholder m = operandPlaceholder n) : m = n := by
  have hlist := congrArg String.toList h
  rw [toList_operandPlaceholder, toList_operandPlaceholder] at hlist
  exact toDigits_inj (List.cons.inj (List.cons.inj hlist).2).2

theorem exists_digit (n : Nat) : ∃ c ∈ Nat.toDigits 10 n, c.isDigit = true := by
  obtain ⟨c, hc⟩ := List.exists_mem_of_ne_nil _ (Nat.toDigits_ne_nil (n := n) (b := 10))
  exact ⟨c, hc, Nat.isDigit_of_mem_toDigits (by decide) (by decide) hc⟩

theorem name_ne_attributePlaceholder (m n : Nat) :
    Placeholder.name m ≠ attributePlaceholder n := by
  intro h
  obtain ⟨c, hc, hdigit⟩ := exists_digit n
  have hmem : c ∈ (Placeholder.name m).toList := by
    rw [h, toList_attributePlaceholder]
    exact .tail _ (.tail _ hc)
  rw [Placeholder.isDigit_of_mem_name hmem] at hdigit
  cases hdigit

theorem value_ne_operandPlaceholder (m n : Nat) : Placeholder.value m ≠ operandPlaceholder n := by
  intro h
  obtain ⟨c, hc, hdigit⟩ := exists_digit n
  have hmem : c ∈ (Placeholder.value m).toList := by
    rw [h, toList_operandPlaceholder]
    exact .tail _ (.tail _ hc)
  rw [Placeholder.isDigit_of_mem_value hmem] at hdigit
  cases hdigit

end Condition

end ItemTable
