import ItemTable.Proofs.Placeholder.Enumeration
import Mathlib.Algebra.BigOperators.Intervals

set_option autoImplicit false

/-! # Words in numbers of 64 bits

The length of a word is found block by block: the words of one letter more are 26 times as many, and
a rank past a block is looked for in the next. `lower?` does so with numbers of 64 bits, and gives
up where a sum or a product needs more. Since `26 ^ 13` has 64 bits and `26 ^ 14` has not, it spells
all words of 2 to 13 letters, as `lower` does, and no others (`lower?_eq`). The main statement is
that these words are enumerated in their order, without gaps and without such a sum or product
(`lower_enumerates`). -/

namespace ItemTable

-- Powers are those of core, whatever else is imported.
attribute [local instance (high)] instPowNat

namespace Placeholder

/-! ## Blocks -/

/-- The block of the words of one length, with their number. -/
structure Block where
  width : BitVec 64
  capacity : BitVec 64
  capacity_eq : capacity.toNat = 26 ^ width.toNat

namespace Block

/-- The words of two letters. -/
def first : Block := ⟨2#64, 26#64 * 26#64, by decide⟩

/-- The words of one letter more, if both their length and their number have 64 bits. -/
def next? (block : Block) : Option Block :=
  if hwidth : block.width.uaddOverflow 1#64 then none
  else if hcapacity : block.capacity.umulOverflow 26#64 then none
  else
    some
      { width := block.width + 1#64
        capacity := block.capacity * 26#64
        capacity_eq := by
          rw [BitVec.toNat_mul_of_not_umulOverflow hcapacity,
            BitVec.toNat_add_of_not_uaddOverflow hwidth, block.capacity_eq]
          exact (Nat.pow_succ ..).symm }

/-- What is left of a rank that is past the block. The difference is no number below zero. -/
theorem toNat_sub_capacity {block : Block} {rank : BitVec 64} (h : ¬rank < block.capacity) :
    26 ^ block.width.toNat ≤ rank.toNat ∧
      (rank - block.capacity).toNat = rank.toNat - 26 ^ block.width.toNat := by
  have hle : block.capacity ≤ rank := BitVec.not_lt.1 h
  rw [BitVec.toNat_sub_of_le hle, ← block.capacity_eq]
  exact ⟨BitVec.le_def.1 hle, rfl⟩

/-- The block that a rank lies in, from this block on, and the rank in it. -/
def locate? (block : Block) (rank : BitVec 64) : Option (Block × BitVec 64) :=
  if rank < block.capacity then some (block, rank)
  else
    match block.next? with
    | none => none
    | some next => next.locate? (rank - block.capacity)
termination_by rank.toNat
decreasing_by
  rename_i hpast
  obtain ⟨hle, hrest⟩ := toNat_sub_capacity hpast
  have hpos : 0 < 26 ^ block.width.toNat := Nat.pow_pos (by decide)
  omega

theorem width_le (block : Block) : block.width.toNat ≤ 13 := by
  have hlt : 26 ^ block.width.toNat < 2 ^ 64 := block.capacity_eq ▸ block.capacity.isLt
  by_contra hlonger
  have hle : 26 ^ 14 ≤ 26 ^ block.width.toNat := Nat.pow_le_pow_right (by decide) (by omega)
  omega

/-- The words of 13 letters are the last whose number has 64 bits. -/
theorem next?_eq_none_iff (block : Block) : block.next? = none ↔ block.width.toNat = 13 := by
  have hwidth := block.width_le
  have hadd : ¬block.width.uaddOverflow 1#64 = true := by
    have hone : (1#64).toNat = 1 := rfl
    simp only [BitVec.uaddOverflow, decide_eq_true_eq, hone]
    omega
  have hmul : block.capacity.umulOverflow 26#64 = true ↔
      2 ^ 64 ≤ 26 ^ (block.width.toNat + 1) := by
    simp [BitVec.umulOverflow, block.capacity_eq, Nat.pow_succ]
  rw [next?, dif_neg hadd]
  by_cases hlast : block.width.toNat = 13
  · have hover : 2 ^ 64 ≤ 26 ^ (block.width.toNat + 1) := by
      rw [hlast]
      decide
    simp only [dif_pos (hmul.2 hover), hlast]
  · have hfits : 26 ^ (block.width.toNat + 1) ≤ 26 ^ 13 :=
      Nat.pow_le_pow_right (by decide) (by omega)
    have hmul : ¬block.capacity.umulOverflow 26#64 = true := by
      rw [hmul]
      omega
    simp [dif_neg hmul, hlast]

theorem width_next? {block next : Block} (h : block.next? = some next) :
    next.width.toNat = block.width.toNat + 1 := by
  rw [next?] at h
  split at h
  · cases h
  · next hwidth =>
    split at h
    · cases h
    · cases h
      exact BitVec.toNat_add_of_not_uaddOverflow hwidth

/-- What is found is the block of the rank: before it lie the blocks from the one that the search
starts at. -/
theorem eq_of_locate? {block found : Block} {rank rest : BitVec 64}
    (h : block.locate? rank = some (found, rest)) :
    ∃ count, found.width.toNat = block.width.toNat + count ∧
      rest.toNat < 26 ^ (block.width.toNat + count) ∧
      rank.toNat = blocks block.width.toNat count + rest.toNat := by
  fun_induction locate? block rank with
  | case1 block rank hin =>
    cases h
    refine ⟨0, rfl, ?_, by simp⟩
    rw [Nat.add_zero, ← capacity_eq]
    exact BitVec.lt_def.1 hin
  | case2 => cases h
  | case3 block rank hpast next hnext ih =>
    obtain ⟨hle, hrest⟩ := toNat_sub_capacity hpast
    obtain ⟨count, hwidth, hlt, heq⟩ := ih h
    rw [width_next? hnext] at hwidth hlt heq
    have hcount : block.width.toNat + 1 + count = block.width.toNat + (count + 1) := by omega
    rw [hcount] at hwidth hlt
    refine ⟨count + 1, hwidth, hlt, ?_⟩
    rw [blocks_succ]
    omega

/-- From a block on, the words of up to 13 letters are those of the block and those of the blocks
after it. -/
theorem blocks_width (block : Block) : blocks block.width.toNat (14 - block.width.toNat)
    = 26 ^ block.width.toNat + blocks (block.width.toNat + 1) (13 - block.width.toNat) := by
  have hwidth := block.width_le
  have hcount : 14 - block.width.toNat = 13 - block.width.toNat + 1 := by omega
  rw [hcount, blocks_succ]

/-- The search fails for the ranks past the words of 13 letters. -/
theorem locate?_eq_none_iff (block : Block) (rank : BitVec 64) :
    block.locate? rank = none ↔
      blocks block.width.toNat (14 - block.width.toNat) ≤ rank.toNat := by
  fun_induction locate? block rank with
  | case1 block rank hin =>
    have hlt : rank.toNat < 26 ^ block.width.toNat := block.capacity_eq ▸ BitVec.lt_def.1 hin
    rw [blocks_width]
    simp only [reduceCtorEq, false_iff]
    omega
  | case2 block rank hpast hnext =>
    obtain ⟨hle, -⟩ := toNat_sub_capacity hpast
    rw [next?_eq_none_iff] at hnext
    rw [hnext] at hle
    rw [blocks_width, hnext]
    simpa using hle
  | case3 block rank hpast next hnext ih =>
    obtain ⟨hle, hrest⟩ := toNat_sub_capacity hpast
    have hwidth : 14 - (block.width.toNat + 1) = 13 - block.width.toNat := by omega
    refine ih.trans ?_
    rw [width_next? hnext, hrest, blocks_width, hwidth]
    omega

end Block

/-! ## Letters -/

/-- The letters of a rank among the words of so many letters. The sum that makes a letter of a digit
has 8 bits. -/
def letters? : Nat → BitVec 64 → Option (List Char)
  | 0, _ => some []
  | width + 1, rank => do
    let before ← letters? width (rank / 26#64)
    let digit : BitVec 8 := (rank % 26#64).setWidth 8
    if BitVec.uaddOverflow 97#8 digit then none
    else some (before ++ [Char.ofNat (97#8 + digit).toNat])

theorem letters?_eq (width : Nat) (rank : BitVec 64) :
    letters? width rank = some ((letters width rank.toNat).map fun d => Char.ofNat (97 + d)) := by
  induction width generalizing rank with
  | zero => rfl
  | succ width ih =>
    have hdiv : (rank / 26#64).toNat = rank.toNat / 26 := BitVec.toNat_udiv
    have hdigit : ((rank % 26#64).setWidth 8).toNat = rank.toNat % 26 := by
      have hbase : (26#64).toNat = 26 := rfl
      simp only [BitVec.toNat_setWidth, BitVec.toNat_umod, hbase]
      omega
    have hadd : ¬BitVec.uaddOverflow 97#8 ((rank % 26#64).setWidth 8) = true := by
      simp only [BitVec.uaddOverflow, decide_eq_true_eq, hdigit]
      have hfirst : (97#8).toNat = 97 := rfl
      omega
    have hsum := BitVec.toNat_add_of_not_uaddOverflow hadd
    rw [hdigit] at hsum
    simp only [letters?, ih, hdiv, Option.bind_eq_bind, Option.bind_some, if_neg hadd, hsum,
      letters, List.map_append]
    rfl

/-- The word of a rank in lower case, found with numbers of 64 bits: nothing, if a sum or a product
on the way needs more. -/
def lower? (rank : BitVec 64) : Option String := do
  let (block, rest) ← Block.first.locate? rank
  let letters ← letters? block.width.toNat rest
  return String.ofList letters

theorem lower?_eq (rank : BitVec 64) :
    lower? rank = if rank.toNat < blocks 2 12 then some (lower rank.toNat) else none := by
  have hnone : Block.first.locate? rank = none ↔ blocks 2 12 ≤ rank.toNat :=
    Block.first.locate?_eq_none_iff rank
  cases hlocate : Block.first.locate? rank with
  | none => simp [lower?, hlocate, Nat.not_lt.2 (hnone.1 hlocate)]
  | some located =>
    obtain ⟨found, rest⟩ := located
    have hlt : rank.toNat < blocks 2 12 := by
      rw [← Nat.not_le, ← hnone, hlocate]
      simp
    obtain ⟨count, hwidth, hrest, heq⟩ := Block.eq_of_locate? hlocate
    have hword : word rank.toNat = letters found.width.toNat rest.toNat := by
      rw [heq, hwidth]
      exact wordFrom_blocks hrest (Nat.le_refl _)
    simp [lower?, hlocate, letters?_eq, lower, hword, hlt]

/-! ## The enumeration -/

/-- The ranks below the number of the words of 2 to 13 letters are those of these words, in the
order by length and then alphabetically, each word once; and with numbers of 64 bits these words are
found, and no others. -/
theorem lower_enumerates :
    (∀ rank < ∑ k ∈ Finset.Icc 2 13, 26 ^ k, IsWord 13 (lower rank)) ∧
    (∀ rank later, rank < later → later < ∑ k ∈ Finset.Icc 2 13, 26 ^ k →
      List.Shortlex (· < ·) (lower rank).toList (lower later).toList) ∧
    (∀ text, IsWord 13 text → ∃! rank, rank < ∑ k ∈ Finset.Icc 2 13, 26 ^ k ∧ lower rank = text) ∧
    ∑ k ∈ Finset.Icc 2 13, 26 ^ k < 2 ^ 64 ∧
    ∀ rank : BitVec 64, lower? rank =
      if rank.toNat < ∑ k ∈ Finset.Icc 2 13, 26 ^ k then some (lower rank.toNat) else none := by
  have htotal : ∑ k ∈ Finset.Icc 2 13, 26 ^ k = blocks 2 12 := rfl
  have hword : ∀ rank, IsWord 13 (lower rank) ↔ rank < blocks 2 12 := fun rank =>
    isWord_lower_iff rank 12
  rw [htotal]
  refine ⟨fun rank hrank => (hword rank).2 hrank, fun rank later hlt _ => shortlex_lower hlt,
    fun text htext => ?_, by decide, lower?_eq⟩
  obtain ⟨rank, rfl⟩ := exists_lower htext
  refine ⟨rank, ⟨(hword rank).1 htext, rfl⟩, fun other hother => ?_⟩
  exact value_inj (congrArg (":" ++ ·) hother.2)

/-- The words on both sides of the step from four letters to five. -/
theorem lower_enumerates_fiveLetters :
    475228 < ∑ k ∈ Finset.Icc 2 13, 26 ^ k ∧ lower 475227 = "zzzz" ∧ lower 475228 = "aaaaa" ∧
      IsWord 13 (lower 475228) ∧
      List.Shortlex (· < ·) (lower 475227).toList (lower 475228).toList ∧
      IsWord 13 "placeholder" ∧
      (∃! rank, rank < ∑ k ∈ Finset.Icc 2 13, 26 ^ k ∧ lower rank = "placeholder") ∧
      lower? 475228#64 = some (lower 475228) := by
  have hlt : 475228 < ∑ k ∈ Finset.Icc 2 13, 26 ^ k := by decide
  have hword : IsWord 13 "placeholder" := ⟨by decide, by decide, by simp⟩
  obtain ⟨hwords, horder, honto, -, hbits⟩ := lower_enumerates
  exact ⟨hlt, by decide +kernel, by decide +kernel, hwords _ hlt, horder _ _ (by decide) hlt,
    hword, honto _ hword, (hbits 475228#64).trans (if_pos hlt)⟩

end Placeholder

end ItemTable
