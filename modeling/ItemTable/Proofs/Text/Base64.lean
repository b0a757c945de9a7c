import ItemTable.Proofs.Traversal
import ItemTable.Text.Base64

set_option autoImplicit false

/-! # Base64 texts are canonical

A text that can be decoded is the encoding of its bytes (`Base64.encode_of_decode`): the alphabet
gives each value one symbol, padding is demanded, and the bits that the last symbol has to spare are
zero. So decoding loses nothing. The proofs work on the codes of the text's symbols, group by group.
-/

namespace ItemTable

open Traversal (bind_eq_ok)

namespace Base64

/-! ## Symbols -/

/-- A symbol's value is below 64, and the symbol is the one of its value. -/
theorem symbolCode_of_symbolValue? {code v : Nat} (h : symbolValue? code = some v) :
    v < 64 ∧ symbolCode v = code := by
  unfold symbolValue? at h
  unfold symbolCode
  split at h
  · simp only [Option.some.injEq] at h
    rw [if_pos (by omega)]
    omega
  · split at h
    · simp only [Option.some.injEq] at h
      rw [if_neg (by omega), if_pos (by omega)]
      omega
    · split at h
      · simp only [Option.some.injEq] at h
        rw [if_neg (by omega), if_neg (by omega), if_pos (by omega)]
        omega
      · split at h
        · simp only [Option.some.injEq] at h
          subst h
          rw [if_neg (by omega), if_neg (by omega), if_neg (by omega), if_pos rfl]
          omega
        · split at h
          · simp only [Option.some.injEq] at h
            subst h
            rw [if_neg (by omega), if_neg (by omega), if_neg (by omega), if_neg (by omega)]
            omega
          · cases h

theorem utf8EncodeChar_symbol : ∀ v < 64,
    String.utf8EncodeChar (symbol v) = [UInt8.ofNat (symbolCode v)] := by
  decide

/-- The bytes of symbols, as a decoder sees them. -/
def codes (cs : List Char) : List UInt8 := cs.flatMap String.utf8EncodeChar

theorem codes_cons (c : Char) (cs : List Char) :
    codes (c :: cs) = String.utf8EncodeChar c ++ codes cs := List.flatMap_cons

/-- The code that a value was read from. -/
def codeOf (v : Nat) : UInt8 := UInt8.ofNat (symbolCode v)

theorem codes_symbol_cons {v : Nat} (hv : v < 64) (cs : List Char) :
    codes (symbol v :: cs) = codeOf v :: codes cs := by
  rw [codes_cons, utf8EncodeChar_symbol v hv]
  rfl

theorem codes_padding_cons (cs : List Char) : codes ('=' :: cs) = 61 :: codes cs := by
  rw [codes_cons]
  rfl

theorem valueAt_eq_ok {offset v : Nat} {code : UInt8} (h : valueAt offset code = .ok v) :
    v < 64 ∧ code = codeOf v := by
  unfold valueAt at h
  split at h
  · next w hw =>
    cases h
    obtain ⟨hv, hcode⟩ := symbolCode_of_symbolValue? hw
    refine ⟨hv, ?_⟩
    rw [codeOf, hcode, UInt8.ofNat_toNat]
  · cases h

/-! ## Groups -/

/-- The symbols of a group are those that its bytes were made of. -/
theorem codes_groupBytes_append {a b c d : Nat} (ha : a < 64) (hb : b < 64) (hc : c < 64)
    (hd : d < 64) (bytes : List UInt8) :
    codes (symbols (groupBytes a b c d ++ bytes)) =
      codeOf a :: codeOf b :: codeOf c :: codeOf d :: codes (symbols bytes) := by
  have hfirst : (a * 4 + b / 16) % 256 / 4 = a := by omega
  have hsecond : (a * 4 + b / 16) % 256 % 4 * 16 + (b % 16 * 16 + c / 4) % 256 / 16 = b := by
    omega
  have hthird : (b % 16 * 16 + c / 4) % 256 % 16 * 4 + (c % 4 * 64 + d) % 256 / 64 = c := by
    omega
  have hfourth : (c % 4 * 64 + d) % 256 % 64 = d := by omega
  simp only [groupBytes, List.cons_append, List.nil_append, symbols, UInt8.toNat_ofNat']
  rw [hfirst, hsecond, hthird, hfourth, codes_symbol_cons ha, codes_symbol_cons hb,
    codes_symbol_cons hc, codes_symbol_cons hd]

theorem codes_group_two {a b : Nat} (ha : a < 64) (hb : b < 64) (hspare : b % 16 = 0) :
    codes (symbols ((groupBytes a b 0 0).take 1)) = [codeOf a, codeOf b, 61, 61] := by
  have hfirst : (a * 4 + b / 16) % 256 / 4 = a := by omega
  have hsecond : (a * 4 + b / 16) % 256 % 4 * 16 = b := by omega
  simp only [groupBytes, List.take_succ_cons, List.take_zero, symbols, UInt8.toNat_ofNat']
  rw [hfirst, hsecond, codes_symbol_cons ha, codes_symbol_cons hb, codes_padding_cons,
    codes_padding_cons]
  rfl

theorem codes_group_three {a b c : Nat} (ha : a < 64) (hb : b < 64) (hc : c < 64)
    (hspare : c % 4 = 0) :
    codes (symbols ((groupBytes a b c 0).take 2)) = [codeOf a, codeOf b, codeOf c, 61] := by
  have hfirst : (a * 4 + b / 16) % 256 / 4 = a := by omega
  have hsecond : (a * 4 + b / 16) % 256 % 4 * 16 + (b % 16 * 16 + c / 4) % 256 / 16 = b := by
    omega
  have hthird : (b % 16 * 16 + c / 4) % 256 % 16 * 4 = c := by omega
  simp only [groupBytes, List.take_succ_cons, List.take_zero, symbols, UInt8.toNat_ofNat']
  rw [hfirst, hsecond, hthird, codes_symbol_cons ha, codes_symbol_cons hb, codes_symbol_cons hc,
    codes_padding_cons]
  rfl

/-- The last group is made of the symbols of its values and of padding. -/
theorem codes_of_lastGroup {start index padding : Nat} {cs : List UInt8} {values : List Nat}
    (h : lastGroup start index cs = .ok (values, padding)) :
    (∀ v ∈ values, v < 64) ∧ cs = values.map codeOf ++ List.replicate padding 61 := by
  induction cs generalizing index values with
  | nil =>
    cases h
    simp
  | cons code rest ih =>
    rw [lastGroup] at h
    by_cases hpad : code.toNat = 61
    · rw [if_pos hpad] at h
      split at h
      · cases h
      · split at h
        · next hall =>
          cases h
          have hcode : code = 61 := UInt8.toNat_inj.1 hpad
          have hrest : rest = List.replicate rest.length 61 := by
            rw [List.eq_replicate_iff]
            refine ⟨rfl, ?_⟩
            intro c hc
            have := List.all_eq_true.1 hall c hc
            exact UInt8.toNat_inj.1 (by simpa using this)
          refine ⟨by simp, ?_⟩
          rw [hcode, List.map_nil, List.nil_append, List.replicate_succ, ← hrest]
        · cases h
    · rw [if_neg hpad] at h
      obtain ⟨v, hv, h⟩ := bind_eq_ok h
      obtain ⟨⟨vs, p⟩, hrest, h⟩ := bind_eq_ok h
      cases h
      obtain ⟨hlt, hcode⟩ := valueAt_eq_ok hv
      obtain ⟨hvs, hcodes⟩ := ih hrest
      refine ⟨List.forall_mem_cons.2 ⟨hlt, hvs⟩, ?_⟩
      rw [List.map_cons, List.cons_append, ← hcodes, hcode]

theorem codes_of_decodeLast {start : Nat} {cs : List UInt8} (hlength : cs.length ≤ 4)
    {bytes : List UInt8} (h : decodeLast start cs = .ok bytes) : codes (symbols bytes) = cs := by
  obtain ⟨⟨values, padding⟩, hgroup, h⟩ := bind_eq_ok h
  obtain ⟨hvalues, hcodes⟩ := codes_of_lastGroup hgroup
  have hcount : cs.length = values.length + padding := by
    simpa using congrArg List.length hcodes
  simp only at h
  split at h
  · next hempty =>
    cases h
    rw [List.isEmpty_iff.1 hempty]
    rfl
  · split at h
    · cases h
    · split at h
      · cases h
      · next hmod =>
        split at h
        · next a b =>
          simp only [List.length_cons, List.length_nil] at hcount hmod
          obtain rfl : padding = 2 := by omega
          split at h
          · cases h
          · next hspare =>
            cases h
            simp only [List.forall_mem_cons] at hvalues
            rw [codes_group_two hvalues.1 hvalues.2.1 (by omega), hcodes]
            rfl
        · next a b c =>
          simp only [List.length_cons, List.length_nil] at hcount hmod
          obtain rfl : padding = 1 := by omega
          split at h
          · cases h
          · next hspare =>
            cases h
            simp only [List.forall_mem_cons] at hvalues
            rw [codes_group_three hvalues.1 hvalues.2.1 hvalues.2.2.1 (by omega), hcodes]
            rfl
        · next a b c d =>
          simp only [List.length_cons, List.length_nil] at hcount hmod
          obtain rfl : padding = 0 := by omega
          cases h
          simp only [List.forall_mem_cons] at hvalues
          have hgroup := codes_groupBytes_append hvalues.1 hvalues.2.1 hvalues.2.2.1
            hvalues.2.2.2.1 []
          rw [List.append_nil] at hgroup
          rw [hgroup, hcodes]
          rfl
        · cases h

/-! ## Texts -/

theorem codes_of_decodeFrom {start : Nat} {cs bytes : List UInt8}
    (h : decodeFrom start cs = .ok bytes) : codes (symbols bytes) = cs := by
  fun_induction decodeFrom start cs generalizing bytes with
  | case1 start a b c d e rest ih =>
    obtain ⟨va, ha, h⟩ := bind_eq_ok h
    obtain ⟨vb, hb, h⟩ := bind_eq_ok h
    obtain ⟨vc, hc, h⟩ := bind_eq_ok h
    obtain ⟨vd, hd, h⟩ := bind_eq_ok h
    obtain ⟨more, hmore, h⟩ := bind_eq_ok h
    cases h
    obtain ⟨hva, rfl⟩ := valueAt_eq_ok ha
    obtain ⟨hvb, rfl⟩ := valueAt_eq_ok hb
    obtain ⟨hvc, rfl⟩ := valueAt_eq_ok hc
    obtain ⟨hvd, rfl⟩ := valueAt_eq_ok hd
    rw [codes_groupBytes_append hva hvb hvc hvd, ih hmore]
  | case2 start cs hshort =>
    refine codes_of_decodeLast ?_ h
    match cs, hshort with
    | [], _ => simp
    | [_], _ => simp
    | [_, _], _ => simp
    | [_, _, _], _ => simp
    | [_, _, _, _], _ => simp
    | a :: b :: c :: d :: e :: rest, hshort => exact absurd rfl (hshort a b c d e rest)

/-- Texts with the same bytes are the same. -/
theorem utf8_inj {s t : String} (h : utf8 s = utf8 t) : s = t := by
  have hbytes : s.toList.utf8Encode = t.toList.utf8Encode := by
    unfold utf8 at h
    rw [List.utf8Encode, List.utf8Encode, h]
  rwa [String.utf8Encode_toList, String.utf8Encode_toList, String.toByteArray_inj] at hbytes

/-- A text that can be decoded is the encoding of its bytes. -/
theorem encode_of_decode {text : String} {bytes : List UInt8} (h : decode text = .ok bytes) :
    encode bytes = text := by
  have hcodes : codes (symbols bytes) = utf8 text := by
    simp only [decode] at h
    split at h
    · split at h
      · cases h
      · exact codes_of_decodeFrom h
    · next hnone =>
      cases h
      rw [List.getLast?_eq_none_iff.1 hnone]
      rfl
  apply utf8_inj
  rw [encode, utf8, String.toList_ofList]
  exact hcodes

end Base64

end ItemTable
