import ItemTable.Proofs.Number.Grammar
import ItemTable.Proofs.Number.Whole
import ItemTable.Proofs.Traversal

set_option autoImplicit false

/-! # Numerals that come back as integers

A numeral that is spelt as an integer and fits a word is that integer. Any other one is read as the
float nearest to it, and becomes an integer if that float is whole and below 2⁵³
(`StoreValue.readings`). A whole number below 2⁵³ is a float itself, and one beyond is not rounded
to a float below; so whole numbers become integers exactly in these two cases, and the right ones
(`StoreValue.toJson_number_whole`). -/

namespace ItemTable

-- Powers are those of core, whatever else is imported.
attribute [local instance (high)] instPowNat

namespace StoreValue

variable {numeral : String} {n : Number}

/-- How a numeral is read: as the integer that it spells, if that fits a word, or else as the float
nearest to the number that it denotes, which may be whole. -/
theorem readings (h : numberOfNumeral numeral = .ok n) :
    (∃ i : WordInt, SpellsInteger numeral.toList i.val ∧ n = .int i) ∨
      (¬ ∃ i : WordInt, SpellsInteger numeral.toList i.val) ∧
        ∃ q, ∃ x : Binary64, Denotes numeral.toList q ∧ x.IsNearest q ∧
          ((x.isIntegral = true ∧ x.truncate.natAbs < 2 ^ (53 : Nat) ∧
              ∃ i : WordInt, i.val = x.truncate ∧ n = .int i) ∨
            ¬ (x.isIntegral = true ∧ x.truncate.natAbs < 2 ^ (53 : Nat)) ∧ n = .float x) := by
  unfold numberOfNumeral at h
  split at h
  · next i hi =>
    cases h
    obtain ⟨z, hz, hword⟩ := Option.bind_eq_some_iff.1 hi
    obtain rfl := WordInt.ofInt?_eq_some_iff.1 hword
    exact .inl ⟨i, readInteger?_eq_some_iff.1 hz, rfl⟩
  · next hnone =>
    refine .inr ⟨?_, ?_⟩
    · rintro ⟨i, hspells⟩
      rw [readInteger?_eq_some_iff.2 hspells, Option.bind_some, i.ofInt?_val] at hnone
      cases hnone
    · split at h
      · cases h
      · next neg coef exp hread =>
        split at h
        · cases h
        · next x hx =>
          refine ⟨_, x, denotes_iff.2 ⟨neg, coef, exp, hread, rfl⟩,
            Binary64.isNearest_of_ofDecimal hx, ?_⟩
          split at h
          · next hwhole =>
            -- what is below 2⁵³ fits a word
            obtain ⟨i, hi⟩ : ∃ i : WordInt, i.val = x.truncate :=
              ⟨⟨x.truncate, by omega, by omega⟩, rfl⟩
            rw [WordInt.ofInt?_eq_some_iff.2 hi] at h
            cases h
            exact .inl ⟨hwhole.1, hwhole.2, i, hi, rfl⟩
          · next hwhole =>
            cases h
            exact .inr ⟨hwhole, rfl⟩
      · cases h

/-- Which numerals come back as integers. A numeral that is accepted denotes a number. If that is
whole, an integer comes back exactly if the numeral spells an integer that fits a word, or the
number is below 2⁵³, and it is that number. Otherwise a float comes back, unless a float nearest to
the number is whole and below 2⁵³. Every float that comes back is nearest to the number. -/
theorem toJson_number_whole {host : Json} (h : toJson (.number numeral) = .ok host) :
    ∃ n q, host = .number n ∧ Denotes numeral.toList q ∧
      (∀ z : Int, q = z →
        ((∃ i, n = .int i) ↔
          (∃ i : WordInt, SpellsInteger numeral.toList i.val) ∨ z.natAbs < 2 ^ (53 : Nat)) ∧
        ∀ i, n = .int i → i.val = z) ∧
      ((∀ z : Int, q ≠ z) → (∃ x, n = .float x) ∨
        ∃ x : Binary64, ∃ z : Int, x.IsNearest q ∧ x.value = z ∧ z.natAbs < 2 ^ (53 : Nat)) ∧
      ∀ x, n = .float x → x.IsNearest q := by
  rw [toJson] at h
  obtain ⟨n, hn, rfl⟩ := Traversal.map_eq_ok h
  rcases readings hn with ⟨i, hspells, rfl⟩ | ⟨hnone, q, x, hdenotes, hnear, hcases⟩
  · refine ⟨_, _, rfl, hspells.denotes,
      fun z hz => ⟨⟨fun _ => .inl ⟨i, hspells⟩, fun _ => ⟨i, rfl⟩⟩, ?_⟩,
      fun hne => absurd rfl (hne i.val), fun x heq => Number.noConfusion heq⟩
    rintro _ ⟨⟩
    exact Int.cast_injective hz
  · refine ⟨n, q, rfl, hdenotes, ?_, ?_, ?_⟩
    · rintro z rfl
      rcases hcases with ⟨hintegral, hsmall, i, hi, rfl⟩ | ⟨hnot, rfl⟩
      · have hz := hnear.natAbs_lt hintegral hsmall
        refine ⟨⟨fun _ => .inr hz, fun _ => ⟨i, rfl⟩⟩, ?_⟩
        rintro _ ⟨⟩
        exact hi.trans (hnear.truncate_eq hz).2
      · refine ⟨⟨fun ⟨i, heq⟩ => Number.noConfusion heq, ?_⟩, fun i heq => Number.noConfusion heq⟩
        rintro (hspells | hz)
        · exact absurd hspells hnone
        · obtain ⟨hintegral, heq⟩ := hnear.truncate_eq hz
          exact absurd ⟨hintegral, heq ▸ hz⟩ hnot
    · intro _
      rcases hcases with ⟨hintegral, hsmall, -⟩ | ⟨-, rfl⟩
      · exact .inr ⟨x, x.truncate, hnear, Binary64.value_of_isIntegral hintegral, hsmall⟩
      · exact .inl ⟨x, rfl⟩
    · rintro y rfl
      rcases hcases with ⟨-, -, i, -, heq⟩ | ⟨-, heq⟩
      · cases heq
      · cases heq
        exact hnear

/-- A text with a point and an exponent that comes back as the integer that it denotes. -/
theorem toJson_number_scientific :
    toJson (.number "-2.50e1") = .ok (.number (.int ⟨-25, by decide, by decide⟩)) ∧
      ∀ z : Int, Denotes "-2.50e1".toList z → z = -25 := by
  have h : toJson (.number "-2.50e1") = .ok (.number (.int ⟨-25, by decide, by decide⟩)) := by rfl
  refine ⟨h, fun z hz => ?_⟩
  obtain ⟨n, q, hn, hdenotes, hwhole, -⟩ := toJson_number_whole h
  exact ((hwhole z (hdenotes.unique hz)).2 _ (Json.number.inj hn).symm).symm

/-- From 2⁵³ on, a whole number that is spelt with a point stays a float. -/
theorem toJson_number_pointed :
    (∃ x, toJson (.number "9007199254740992.0") = .ok (.number (.float x))) ∧
      Denotes "9007199254740992.0".toList (9007199254740992 : Int) := by
  refine ⟨⟨⟨false, 2 ^ (52 : Nat), 1, by decide⟩, by rfl⟩, ?_⟩
  refine denotes_iff.2 ⟨false, 90071992547409920, -1, by rfl, ?_⟩
  norm_num [signed]

end StoreValue

end ItemTable
