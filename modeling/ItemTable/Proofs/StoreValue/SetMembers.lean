import ItemTable.Proofs.Number.Text
import ItemTable.Proofs.StoreValue.ReadBack

set_option autoImplicit false

/-! # The members of a set

The set of an array has the first occurrences of the array's elements, strings as they are and
numbers by their texts (`StoreValue.setOfJson_members`). Each text denotes its element, and comes
back as a number of the element's value. Strings do not repeat, but numbers may: texts tell an
integer from the float of its value, and the two zeros from each other, while both denote one
number. -/

namespace ItemTable

namespace StoreValue

open Traversal (map_eq_ok forall₂_of_mapM)

variable {elements : List Json} {set : StoreValue}

theorem numberMember_eq_ok {x : Json} {text : String} (h : numberMember x = .ok text) :
    ∃ n, x = .number n ∧ text = n.text := by
  unfold numberMember at h
  split at h
  · next n =>
    cases h
    exact ⟨n, rfl, rfl⟩
  · cases h

/-- Elements of which all texts are taken are numbers. -/
theorem eq_map_of_forall₂_numberMember {texts : List String}
    (h : List.Forall₂ (fun x text => numberMember x = .ok text) elements texts) :
    ∃ numbers : List Number,
      elements = numbers.map Json.number ∧ texts = numbers.map Number.text := by
  induction h with
  | nil => exact ⟨[], rfl, rfl⟩
  | cons hx _ ih =>
    obtain ⟨n, rfl, rfl⟩ := numberMember_eq_ok hx
    obtain ⟨numbers, rfl, rfl⟩ := ih
    exact ⟨n :: numbers, rfl, rfl⟩

/-- A set is made of strings or of numbers, of which the first occurrences stay. -/
theorem setOfJson_eq_ok (h : setOfJson (.array elements) = .ok set) :
    (∃ strings : List String, elements = strings.map Json.string ∧
        set = .stringSet strings.eraseDups) ∨
      ∃ numbers : List Number, elements = numbers.map Json.number ∧
        set = .numberSet (numbers.eraseDups.map Number.text) := by
  unfold setOfJson at h
  split at h
  · cases h
  · next s rest heq =>
    cases heq
    obtain ⟨strings, hstrings, rfl⟩ := map_eq_ok h
    have helements := eq_strings_of_forall₂ (f := id)
      ((forall₂_of_mapM hstrings).imp fun _ _ => stringMember_eq_ok)
    rw [List.map_id] at helements
    exact .inl ⟨strings, Json.array.inj helements, by rw [distinct_eq_eraseDups]⟩
  · next n rest heq =>
    cases heq
    obtain ⟨texts, htexts, rfl⟩ := map_eq_ok h
    obtain ⟨numbers, helements, rfl⟩ := eq_map_of_forall₂_numberMember (forall₂_of_mapM htexts)
    have hdistinct : distinct (numbers.map Number.text) = numbers.eraseDups.map Number.text := by
      rw [distinct_eq_eraseDups, eraseDups_map fun _ _ _ _ => Number.text_injective]
    exact .inr ⟨numbers, helements, by rw [hdistinct]⟩
  · cases h
  · cases h

/-- What the set of an array holds. The members are the first occurrences of the elements. A
number's text denotes the number and comes back as one of the same value. No string repeats, and no
two texts denote one number exactly if no two of the numbers are twins. -/
theorem setOfJson_members (h : setOfJson (.array elements) = .ok set) :
    (∃ strings : List String, elements = strings.map Json.string ∧
        set = .stringSet strings.eraseDups ∧ strings.eraseDups.Nodup) ∨
      ∃ numbers : List Number, elements = numbers.map Json.number ∧
        set = .numberSet (numbers.eraseDups.map Number.text) ∧
        (∀ n ∈ numbers, Denotes n.text.toList n.decimal ∧
          ∃ m, numberOfNumeral n.text = .ok m ∧ m.value = n.value) ∧
        ((numbers.eraseDups.map Number.text).Pairwise (fun s t => ¬ SameNumber s t) ↔
          ∀ n ∈ numbers, ∀ m ∈ numbers, ¬ n.Twins m) := by
  rcases setOfJson_eq_ok h with ⟨strings, helements, hset⟩ | ⟨numbers, helements, hset⟩
  · exact .inl ⟨strings, helements, hset, nodup_eraseDups strings⟩
  · refine .inr ⟨numbers, helements, hset,
      fun n _ => ⟨n.denotes_text, numberOfNumeral_text n⟩, ?_⟩
    rw [List.pairwise_map]
    constructor
    · intro hpairwise n hn m hm htwins
      have hsymm : Std.Symm fun n m : Number => ¬ SameNumber n.text m.text :=
        ⟨fun _ _ hne hsame => hne hsame.symm⟩
      have hne : n ≠ m := fun heq => htwins.text_ne (congrArg _ heq)
      refine hpairwise.forall (List.mem_eraseDups.2 hn) (List.mem_eraseDups.2 hm) hne ?_
      exact Number.sameNumber_text_iff.2 (.inr (.inl htwins))
    · intro hapart
      refine (nodup_eraseDups numbers).pairwise_of_forall_ne fun n hn m hm hne hsame => ?_
      rw [List.mem_eraseDups] at hn hm
      rcases Number.sameNumber_text_iff.1 hsame with heq | htwins | htwins
      · exact hne heq
      · exact hapart n hn m hm htwins
      · exact hapart m hm n hn htwins

/-- A number that comes twice is kept where it comes first. -/
theorem setOfJson_members_repeated :
    setOfJson (.array [.number (.int ⟨2, by decide, by decide⟩),
        .number (.int ⟨1, by decide, by decide⟩),
        .number (.int ⟨2, by decide, by decide⟩)]) = .ok (.numberSet ["2", "1"]) ∧
      ["2", "1"].Pairwise (fun s t => ¬ SameNumber s t) := by
  have h : setOfJson (.array [.number (.int ⟨2, by decide, by decide⟩),
      .number (.int ⟨1, by decide, by decide⟩),
      .number (.int ⟨2, by decide, by decide⟩)]) = .ok (.numberSet ["2", "1"]) := by rfl
  refine ⟨h, ?_⟩
  rcases setOfJson_members h with ⟨_, _, hset, _⟩ | ⟨numbers, helements, hset, -, hapart⟩
  · cases hset
  · obtain rfl : [.int ⟨2, by decide, by decide⟩, .int ⟨1, by decide, by decide⟩,
        .int ⟨2, by decide, by decide⟩] = numbers :=
      List.map_injective_iff.2 (fun _ _ => Json.number.inj) helements
    rw [← StoreValue.numberSet.inj hset] at hapart
    refine hapart.2 fun n hn m hm htwins => ?_
    -- twins have a float
    cases htwins with
    | whole => simp at hm
    | zeros => simp at hm

/-- An integer and the float of its value are both kept, though their texts denote one number. -/
theorem setOfJson_twins :
    setOfJson (.array [.number (.int ⟨1, by decide, by decide⟩),
        .number (.float ⟨false, 2 ^ (52 : Nat), -52, by decide⟩)]) =
          .ok (.numberSet ["1", "1.0"]) ∧
      SameNumber "1" "1.0" := by
  refine ⟨by rfl, 1, ?_, ?_⟩
  · exact denotes_iff.2 ⟨false, 1, 0, by rfl, by norm_num [signed]⟩
  · exact denotes_iff.2 ⟨false, 10, -1, by rfl, by norm_num [signed]⟩

end StoreValue

end ItemTable
