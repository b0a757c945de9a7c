import ItemTable.Proofs.Placeholder.Words
import Mathlib.Data.List.Induction
import Mathlib.Data.List.Shortlex

set_option autoImplicit false

/-! # The order of words

Words come by length and then alphabetically (`shortlex_lower`). Past the words of one length come
those of the next, and among words of one length the first letter in which two differ decides as
the first digit of their ranks does. No word is left out (`exists_lower`), so the ranks below the
number of all words of up to some length are the ranks of those words (`isWord_lower_iff`). -/

namespace ItemTable

-- Powers are those of core, whatever else is imported.
attribute [local instance (high)] instPowNat

namespace Placeholder

/-! ## Lengths -/

theorem blocks_mono (width : Nat) {few many : Nat} (h : few ≤ many) :
    blocks width few ≤ blocks width many := by
  induction h with
  | refl => exact Nat.le_refl _
  | step _ ih =>
    rw [blocks_succ_last]
    exact Nat.le_trans ih (Nat.le_add_right ..)

/-- A rank among the words of one length lies before the words of a greater length, and before no
others. -/
theorem lt_blocks_iff {width count own n : Nat} (hn : n < 26 ^ (width + own)) :
    blocks width own + n < blocks width count ↔ own < count := by
  by_cases h : own < count
  · have hcount : blocks width (own + 1) ≤ blocks width count := blocks_mono width h
    rw [blocks_succ_last] at hcount
    simp only [h, iff_true]
    omega
  · have hcount := blocks_mono width (Nat.not_lt.1 h)
    simp only [h, iff_false]
    omega

theorem length_word_lt_iff (rank count : Nat) :
    (word rank).length < 2 + count ↔ rank < blocks 2 count := by
  obtain ⟨own, n, hn, rfl, hword⟩ := exists_word_eq rank
  rw [hword, length_letters, lt_blocks_iff hn]
  omega

theorem two_le_length_word (rank : Nat) : 2 ≤ (word rank).length := by
  obtain ⟨count, n, -, -, hword⟩ := exists_word_eq rank
  simp [hword, length_letters]

/-! ## Alphabetical order -/

section Lex

variable {α : Type} {r : α → α → Prop}

theorem lex_append_append {s t : List α} (h : List.Lex r s t) (hlength : s.length = t.length)
    (u v : List α) : List.Lex r (s ++ u) (t ++ v) := by
  induction h with
  | nil => simp at hlength
  | rel hfirst => exact .rel hfirst
  | cons _ ih => exact .cons (ih (by simpa using hlength))

/-- Letters that are in the order of their digits spell the words of one length in the order of
their ranks. -/
theorem lex_map_letters {letter : Nat → α}
    (hletter : ∀ d e, d < e → e < 26 → r (letter d) (letter e)) {width m n : Nat} (hmn : m < n)
    (hn : n < 26 ^ width) :
    List.Lex r ((letters width m).map letter) ((letters width n).map letter) := by
  induction width generalizing m n with
  | zero =>
    rw [Nat.pow_zero] at hn
    omega
  | succ width ih =>
    rw [Nat.pow_succ] at hn
    simp only [letters, List.map_append]
    by_cases hbefore : m / 26 < n / 26
    · refine lex_append_append (ih hbefore (by omega)) ?_ _ _
      simp [length_letters]
    · -- all letters but the last are the same
      have hsame : m / 26 = n / 26 := by omega
      rw [hsame]
      refine List.Lex.append_left _ (.rel ?_) _
      exact hletter _ _ (by omega) (by omega)

end Lex

/-! ## Words in lower case -/

theorem length_lower (rank : Nat) : (lower rank).length = (word rank).length := by
  simp [lower]

theorem shortlex_lower {m n : Nat} (h : m < n) :
    List.Shortlex (· < ·) (lower m).toList (lower n).toList := by
  obtain ⟨count, i, hi, rfl, hm⟩ := exists_word_eq m
  obtain ⟨count', j, hj, rfl, hn⟩ := exists_word_eq n
  rw [toList_lower, toList_lower, hm, hn]
  have hcount : count ≤ count' := by
    by_contra hlonger
    have hlt := (lt_blocks_iff hj).2 (Nat.not_le.1 hlonger)
    omega
  by_cases hsame : count = count'
  · subst hsame
    refine .of_lex (by simp [length_letters]) ?_
    refine lex_map_letters (fun d e hde he => ?_) (by omega) hj
    have hletter : ∀ e < 26, ∀ d < e, Char.ofNat (97 + d) < Char.ofNat (97 + e) := by
      decide +kernel
    exact hletter e he d hde
  · refine .of_length_lt ?_
    simp only [List.length_map, length_letters]
    omega

/-- Two letters from `a` to `z` or more, but no more than the longest word has. -/
structure IsWord (longest : Nat) (text : String) : Prop where
  two_le : 2 ≤ text.length
  length_le : text.length ≤ longest
  letters : ∀ c ∈ text.toList, 'a' ≤ c ∧ c ≤ 'z'

theorem isWord_lower_iff (rank count : Nat) :
    IsWord (1 + count) (lower rank) ↔ rank < blocks 2 count := by
  rw [← length_word_lt_iff, ← length_lower]
  constructor
  · intro h
    have hle := h.length_le
    omega
  · intro h
    refine ⟨length_lower rank ▸ two_le_length_word rank, by omega, fun c hc => ?_⟩
    rw [toList_lower, List.mem_map] at hc
    obtain ⟨d, hd, rfl⟩ := hc
    have hletter : ∀ d < 26, 'a' ≤ Char.ofNat (97 + d) ∧ Char.ofNat (97 + d) ≤ 'z' := by
      decide +kernel
    exact hletter d (word_lt rank d hd)

/-! ## No word is left out -/

theorem exists_letters {digits : List Nat} (h : ∀ d ∈ digits, d < 26) :
    ∃ n < 26 ^ digits.length, letters digits.length n = digits := by
  induction digits using List.reverseRecOn with
  | nil => exact ⟨0, by simp, rfl⟩
  | append_singleton digits d ih =>
    obtain ⟨n, hn, hletters⟩ := ih fun e he => h e (List.mem_append_left _ he)
    have hd : d < 26 := h d (by simp)
    have hdiv : (26 * n + d) / 26 = n := by omega
    have hmod : (26 * n + d) % 26 = d := by omega
    rw [List.length_append, List.length_singleton, Nat.pow_succ]
    refine ⟨26 * n + d, by omega, ?_⟩
    rw [letters, hdiv, hmod, hletters]

theorem exists_word {digits : List Nat} (hlength : 2 ≤ digits.length) (h : ∀ d ∈ digits, d < 26) :
    ∃ rank, word rank = digits := by
  obtain ⟨n, hn, hletters⟩ := exists_letters h
  obtain ⟨count, hcount⟩ := Nat.exists_eq_add_of_le hlength
  rw [hcount] at hn hletters
  exact ⟨blocks 2 count + n, (wordFrom_blocks hn (Nat.le_refl _)).trans hletters⟩

theorem exists_lower {longest : Nat} {text : String} (h : IsWord longest text) :
    ∃ rank, lower rank = text := by
  have hletter : ∀ c ∈ text.toList, c.toNat - 97 < 26 ∧ Char.ofNat (97 + (c.toNat - 97)) = c := by
    intro c hc
    obtain ⟨hfirst, hlast⟩ := h.letters c hc
    have hfirst : 97 ≤ c.toNat := hfirst
    have hlast : c.toNat ≤ 122 := hlast
    refine ⟨by omega, ?_⟩
    rw [Nat.add_sub_cancel' hfirst, Char.ofNat_toNat]
  have hlength : 2 ≤ (text.toList.map fun c => c.toNat - 97).length := by
    simpa only [List.length_map, String.length_toList] using h.two_le
  obtain ⟨rank, hrank⟩ := exists_word hlength (by simpa using fun c hc => (hletter c hc).1)
  refine ⟨rank, String.toList_inj.1 ?_⟩
  rw [toList_lower, hrank, List.map_map]
  exact (List.map_congr_left fun c hc => (hletter c hc).2).trans (List.map_id _)

end Placeholder

end ItemTable
