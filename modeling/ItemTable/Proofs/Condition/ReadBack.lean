import ItemTable.Proofs.Condition.Grammar
import ItemTable.Proofs.Traversal

set_option autoImplicit false

/-! # Condition expressions read back

The texts of tests, joined to a conjunction, are read as the conjunction of what each test spells
(`ConditionGrammar.read_conjunction`). -/

namespace ItemTable

open Condition (attributePlaceholder operandPlaceholder)
open Placeholder (isMark isWordChar opens opens_append opens_intercalate opens_separator_append)
open UpdateGrammar (EndsReference reference?_append)

/-! ## Tokens of conditions -/

namespace Token

theorem read_attribute (i : Nat) :
    read (attributePlaceholder i) = [.name (attributePlaceholder i)] := by
  refine read_of_nameMark (Condition.toList_attributePlaceholder i) fun d hd => ?_
  rcases List.mem_cons.1 hd with rfl | hd
  · decide
  · exact Placeholder.isWordChar_of_mem_toDigits hd

theorem read_operand (i : Nat) :
    read (operandPlaceholder i) = [.value (operandPlaceholder i)] := by
  refine read_of_valueMark (Condition.toList_operandPlaceholder i) fun d hd => ?_
  rcases List.mem_cons.1 hd with rfl | hd
  · decide
  · exact Placeholder.isWordChar_of_mem_toDigits hd

theorem read_and (text : String) :
    read (Condition.conjunction ++ text) = .word "and" :: read text := by
  have htext : (Condition.conjunction ++ text).toList
      = ' ' :: 'a' :: 'n' :: 'd' :: ' ' :: text.toList := by
    rw [String.toList_append]
    rfl
  rw [read, htext, scan_blank (by decide), scan_word (by decide)]
  have htake : ('n' :: 'd' :: ' ' :: text.toList).takeWhile isWordChar = ['n', 'd'] := rfl
  have hdrop : ('n' :: 'd' :: ' ' :: text.toList).dropWhile isWordChar
      = ' ' :: text.toList := rfl
  rw [htake, hdrop, scan_blank (by decide)]
  rfl

/-- A conjunction is read as its first part and, after `and`, the others. -/
theorem read_conjunction (text second : String) (texts : List String) :
    read (Condition.conjunction.intercalate (text :: second :: texts)) = read text
      ++ .word "and" :: read (Condition.conjunction.intercalate (second :: texts)) := by
  have htext : Condition.conjunction.intercalate (text :: second :: texts) = text
      ++ (Condition.conjunction ++ Condition.conjunction.intercalate (second :: texts)) := by
    rw [← String.append_assoc]
    exact String.intercalate_cons_cons
  rw [htext, read_append (opens_separator_append (by decide) rfl), read_and]

end Token

namespace ConditionGrammar

/-! ## Parts -/

theorem toLower_eq_iff {word keyword : String} :
    word.toLower = keyword ↔ word.toList.map Char.toLower = keyword.toList := by
  have hlower : word.toLower = word.map Char.toLower := rfl
  rw [hlower, ← String.toList_inj, String.toList_map]

theorem keyword?_word {keyword word : String} (h : word.toLower = keyword) (rest : List Token) :
    keyword? keyword (.word word :: rest) = some rest := if_pos h

theorem sign?_sign (c : Char) (rest : List Token) : sign? c (.sign c :: rest) = some rest :=
  if_pos rfl

theorem operand?_name {rest : List Token} (h : EndsReference rest) (placeholder : String) :
    operand? (.name placeholder :: rest) = some (.reference [.key placeholder], rest) := by
  have hreference : UpdateGrammar.reference? (.name placeholder :: rest)
      = some ([.key placeholder], rest) := reference?_append h placeholder []
  rw [operand?, hreference]
  · rfl
  · simp
  · simp

/-- An operand before a sign is compared with the one after it. -/
theorem test?_compare {tokens afterLeft afterSign rest : List Token} {comparison : Comparison}
    {left right : Operand String} (hleft : operand? tokens = some (left, afterLeft))
    (hsign : comparison? afterLeft = some (comparison, afterSign))
    (hright : operand? afterSign = some (right, rest)) :
    test? tokens = some (.compare comparison left right, rest) := by
  have hcompare : compare? tokens = some (.compare comparison left right, rest) := by
    simp only [compare?, hleft, hsign, hright, Option.bind_eq_bind, Option.bind_some]
  rw [test?, hcompare]
  rfl

/-- An operand before `between` is between the two after it. -/
theorem test?_between {tokens afterSubject afterLow afterAnd rest : List Token} {word : String}
    {subject low high : Operand String}
    (hsubject : operand? tokens = some (subject, .word word :: afterSubject))
    (hword : word.toLower = "between") (hlow : operand? afterSubject = some (low, afterLow))
    (hand : keyword? "and" afterLow = some afterAnd)
    (hhigh : operand? afterAnd = some (high, rest)) :
    test? tokens = some (.between subject low high, rest) := by
  have hcompare : compare? tokens = none := by
    simp only [compare?, hsubject, comparison?, Option.bind_eq_bind, Option.bind_some,
      Option.bind_none]
  have hbetween : between? tokens = some (.between subject low high, rest) := by
    simp only [between?, hsubject, keyword?_word hword, hlow, hand, hhigh, Option.bind_eq_bind,
      Option.bind_some]
  rw [test?, hcompare, hbetween]
  rfl

/-- An operand before `in` is among those in the parentheses after it. -/
theorem test?_among {tokens afterSubject rest : List Token} {word : String}
    {subject : Operand String} {values : List (Operand String)}
    (hsubject : operand? tokens = some (subject, .word word :: .sign '(' :: afterSubject))
    (hword : word.toLower = "in") (hvalues : list? afterSubject = some (values, rest)) :
    test? tokens = some (.among subject values, rest) := by
  have hcompare : compare? tokens = none := by
    simp only [compare?, hsubject, comparison?, Option.bind_eq_bind, Option.bind_some,
      Option.bind_none]
  have hbetween : between? tokens = none := by
    simp [between?, hsubject, keyword?, hword]
  have hamong : among? tokens = some (.among subject values, rest) := by
    simp only [among?, hsubject, keyword?_word hword, sign?_sign, hvalues,
      Option.bind_eq_bind, Option.bind_some]
  rw [test?, hcompare, hbetween, hamong]
  rfl

/-- What starts with the name of a function, other than `size`, is a call of it. -/
theorem test?_call {name : String} (h : name ≠ "size") (rest : List Token) :
    test? (.word name :: .sign '(' :: rest)
      = (ofPath? "attribute_exists" .present (.word name :: .sign '(' :: rest)
        <|> ofPath? "attribute_not_exists" .absent (.word name :: .sign '(' :: rest)
        <|> ofOperand? "attribute_type" .ofType (.word name :: .sign '(' :: rest)
        <|> ofOperand? "begins_with" .beginsWith (.word name :: .sign '(' :: rest)
        <|> ofOperand? "contains" .contains (.word name :: .sign '(' :: rest)) := by
  have hoperand : operand? (.word name :: .sign '(' :: rest) = none := by
    simp [operand?, call?, h]
  simp [test?, compare?, between?, among?, hoperand]

theorem part?_name (fuel : Nat) (placeholder : String) (rest : List Token) :
    part? (fuel + 1) (.name placeholder :: rest) = test? (.name placeholder :: rest) := rfl

theorem part?_call {name : String} (h : name.toLower ≠ "not") (fuel : Nat) (rest : List Token) :
    part? (fuel + 1) (.word name :: .sign '(' :: rest)
      = test? (.word name :: .sign '(' :: rest) := by
  have hnot : keyword? "not" (.word name :: .sign '(' :: rest) = none := if_neg h
  rw [part?, hnot]
  rfl

/-- Where a text stands before other tokens, a formula is read and they are left. -/
def Spells (text : String) (formula : Formula String) : Prop :=
  ∀ fuel rest, part? (fuel + 1) (Token.read text ++ rest) = some (formula, rest)

theorem Spells.read_ne_nil {text : String} {formula : Formula String} (h : Spells text formula) :
    Token.read text ≠ [] := by
  intro hnil
  have hpart := h 0 []
  rw [hnil] at hpart
  cases hpart

/-- Texts that spell formulas, joined to a conjunction, spell the formulas' conjunction. -/
theorem conjunction?_read {texts : List String} {formulas : List (Formula String)}
    (h : List.Forall₂ Spells texts formulas) (hne : texts ≠ []) {fuel : Nat}
    (hfuel : texts.length < fuel) :
    ∃ formula, Formula.conjunction formulas = some formula ∧
      conjunction? fuel (Token.read (Condition.conjunction.intercalate texts))
        = some (formula, []) := by
  induction h generalizing fuel with
  | nil => exact absurd rfl hne
  | @cons text formula texts formulas hfirst hrest ih =>
    obtain ⟨fuel, rfl⟩ : ∃ k, fuel = k + 2 := ⟨fuel - 2, by simp at hfuel; omega⟩
    cases hrest with
    | nil =>
      have hpart := hfirst fuel []
      rw [List.append_nil] at hpart
      refine ⟨formula, rfl, ?_⟩
      rw [String.intercalate_singleton, conjunction?, hpart]
      rfl
    | @cons second secondFormula texts formulas hsecond hmore =>
      obtain ⟨rest, hconjunction, hread⟩ :=
        ih (List.cons_ne_nil _ _) (Nat.le_of_succ_le_succ hfuel)
      refine ⟨.both formula rest, ?_, ?_⟩
      · exact congrArg (Option.map (Formula.both formula)) hconjunction
      · have hand : keyword? "and" (.word "and" :: _) = some _ :=
          keyword?_word (toLower_eq_iff.2 (by decide))
          (Token.read (Condition.conjunction.intercalate (second :: texts)))
        rw [Token.read_conjunction, conjunction?, hfirst fuel (.word "and" :: _)]
        simp only [Option.bind_eq_bind, Option.bind_some, hand, hread]

/-- There are at least as many tokens as texts. -/
theorem length_le_read {texts : List String} {formulas : List (Formula String)}
    (h : List.Forall₂ Spells texts formulas) :
    texts.length ≤ (Token.read (Condition.conjunction.intercalate texts)).length := by
  induction h with
  | nil => exact Nat.zero_le _
  | @cons text formula texts formulas hfirst hrest ih =>
    have hpos := List.length_pos_of_ne_nil hfirst.read_ne_nil
    cases hrest with
    | nil => rwa [String.intercalate_singleton]
    | @cons second secondFormula texts formulas hsecond hmore =>
      rw [Token.read_conjunction]
      simp only [List.length_append, List.length_cons] at ih ⊢
      omega

/-- A conjunction of texts that spell formulas is read as the formulas' conjunction. -/
theorem read_conjunction {texts : List String} {formulas : List (Formula String)}
    (h : List.Forall₂ Spells texts formulas) (hne : texts ≠ []) :
    ∃ formula, Formula.conjunction formulas = some formula ∧
      read (Condition.conjunction.intercalate texts) = some formula := by
  have hlength := length_le_read h
  have hpos := List.length_pos_of_ne_nil hne
  obtain ⟨fuel, hfuel⟩ : ∃ k, 3 * (Token.read (Condition.conjunction.intercalate texts)).length
      = k + 1 := Nat.exists_eq_succ_of_ne_zero (by omega)
  have hless : texts.length < fuel := by omega
  obtain ⟨formula, hformula, hread⟩ := conjunction?_read h hne hless
  refine ⟨formula, hformula, ?_⟩
  rw [read]
  simp only [hfuel, condition?, hread, Option.bind_eq_bind, Option.bind_some]
  rfl

end ConditionGrammar

/-! ## Tests -/

/-- The test of a name as it is written, its operands numbered from `first`. -/
def Test.spelled (name : String) (first : Nat) : Test → Formula String
  | .compare comparison _ =>
    .compare comparison (.reference [.key name]) (.constant (operandPlaceholder first))
  | .between _ _ =>
    .between (.reference [.key name]) (.constant (operandPlaceholder first))
      (.constant (operandPlaceholder (first + 1)))
  | .beginsWith _ => .beginsWith [.key name] (.constant (operandPlaceholder first))
  | .contains _ => .contains [.key name] (.constant (operandPlaceholder first))
  | .among values =>
    .among (.reference [.key name])
      ((List.range values.length).map fun i => .constant (operandPlaceholder (first + i)))
  | .present => .present [.key name]
  | .absent => .absent [.key name]

/-- What a test asks of its attribute. -/
def AttributeTest.formula (t : AttributeTest) : Formula StoreValue :=
  match t.test with
  | .compare comparison value =>
    .compare comparison (.reference [.key t.subject]) (.constant (.ofJson value))
  | .between low high =>
    .between (.reference [.key t.subject]) (.constant (.ofJson low)) (.constant (.ofJson high))
  | .beginsWith start => .beginsWith [.key t.subject] (.constant (.string start))
  | .contains value => .contains [.key t.subject] (.constant (.ofJson value))
  | .among values =>
    .among (.reference [.key t.subject]) (values.map fun value => .constant (.ofJson value))
  | .present => .present [.key t.subject]
  | .absent => .absent [.key t.subject]

namespace ConditionGrammar

/-- The tokens of a sign. -/
def signTokens : Comparison → List Token
  | .eq => [.sign '=']
  | .ne => [.sign '<', .sign '>']
  | .lt => [.sign '<']
  | .le => [.sign '<', .sign '=']
  | .gt => [.sign '>']
  | .ge => [.sign '>', .sign '=']

theorem read_sign (comparison : Comparison) :
    Token.read comparison.sign = signTokens comparison := by
  cases comparison <;>
    simp [Token.read, Token.scan, isMark, isWordChar, signTokens, Comparison.sign]

theorem spells_compare (comparison : Comparison) (value : Json) (i first : Nat) :
    Spells ((Test.compare comparison value).text (attributePlaceholder i) first)
      (.compare comparison (.reference [.key (attributePlaceholder i)])
        (.constant (operandPlaceholder first))) := by
  intro fuel rest
  have hsign : opens comparison.sign = true := by cases comparison <;> rfl
  have hblank : Token.read " " = [] := by simp [Token.read, Token.scan]
  have htokens : Token.read ((Test.compare comparison value).text (attributePlaceholder i) first)
        ++ rest = .name (attributePlaceholder i)
          :: (signTokens comparison ++ .value (operandPlaceholder first) :: rest) := by
    rw [Test.text_compare, Token.read_append (Placeholder.isPlaceholder_operand _).opens,
      Token.read_append rfl, Token.read_append hsign, Token.read_append rfl, Token.read_attribute,
      Token.read_operand, read_sign, hblank]
    simp
  have hends : EndsReference
      (signTokens comparison ++ .value (operandPlaceholder first) :: rest) := by
    cases comparison <;> exact ⟨by simp [signTokens], by simp [signTokens]⟩
  have hcomparison : comparison?
      (signTokens comparison ++ .value (operandPlaceholder first) :: rest)
        = some (comparison, .value (operandPlaceholder first) :: rest) := by
    cases comparison <;> rfl
  rw [htokens, part?_name]
  exact test?_compare (operand?_name hends _) hcomparison rfl

theorem spells_between (low high : Json) (i first : Nat) :
    Spells ((Test.between low high).text (attributePlaceholder i) first)
      (.between (.reference [.key (attributePlaceholder i)])
        (.constant (operandPlaceholder first)) (.constant (operandPlaceholder (first + 1)))) := by
  intro fuel rest
  have hbetween : Token.read " BETWEEN " = [.word "BETWEEN"] := by
    simp [Token.read, Token.scan, Token.ofWord, isMark, isWordChar]
  have hand : Token.read " AND " = [.word "AND"] := by
    simp [Token.read, Token.scan, Token.ofWord, isMark, isWordChar]
  have htokens : Token.read ((Test.between low high).text (attributePlaceholder i) first) ++ rest
      = .name (attributePlaceholder i) :: .word "BETWEEN" :: .value (operandPlaceholder first)
        :: .word "AND" :: .value (operandPlaceholder (first + 1)) :: rest := by
    rw [Test.text_between, Token.read_append (Placeholder.isPlaceholder_operand _).opens,
      Token.read_append rfl, Token.read_append (Placeholder.isPlaceholder_operand _).opens,
      Token.read_append rfl, Token.read_attribute, Token.read_operand, Token.read_operand,
      hbetween, hand]
    simp
  have hends : EndsReference (.word "BETWEEN" :: .value (operandPlaceholder first)
      :: .word "AND" :: .value (operandPlaceholder (first + 1)) :: rest) := by
    simp [EndsReference]
  rw [htokens, part?_name]
  exact test?_between (operand?_name hends _) (toLower_eq_iff.2 (by decide)) rfl
    (keyword?_word (toLower_eq_iff.2 (by decide)) _) rfl

/-- The tokens after the first of some placeholders of values with commas between them. -/
def moreOperands (numbers : List Nat) : List Token :=
  numbers.flatMap fun i => [.sign ',', .value (operandPlaceholder i)]

theorem read_operands (i : Nat) (more : List Nat) :
    Token.read (", ".intercalate ((i :: more).map operandPlaceholder))
      = .value (operandPlaceholder i) :: moreOperands more := by
  induction more generalizing i with
  | nil =>
    rw [List.map_singleton, String.intercalate_singleton, Token.read_operand]
    rfl
  | cons j more ih =>
    have htext : ", ".intercalate ((i :: j :: more).map operandPlaceholder) = operandPlaceholder i
        ++ (", " ++ ", ".intercalate ((j :: more).map operandPlaceholder)) := by
      rw [← String.append_assoc]
      exact String.intercalate_cons_cons
    rw [htext, Token.read_append (opens_separator_append (by decide) rfl), Token.read_operand,
      Token.read_comma, ih]
    rfl

theorem operands?_more {rest : List Token} (hrest : sign? ',' rest = none) (i : Nat)
    {more : List Nat} {fuel : Nat} (hfuel : more.length < fuel) :
    operands? fuel (.value (operandPlaceholder i) :: (moreOperands more ++ rest))
      = some ((i :: more).map fun i => .constant (operandPlaceholder i), rest) := by
  have hoperand (tokens : List Token) : operand? (.value (operandPlaceholder i) :: tokens)
      = some (.constant (operandPlaceholder i), tokens) := rfl
  obtain ⟨fuel, rfl⟩ := Nat.exists_eq_succ_of_ne_zero (Nat.ne_zero_of_lt hfuel)
  induction more generalizing i fuel with
  | nil =>
    simp only [moreOperands, List.flatMap_nil, List.nil_append, operands?, hoperand, hrest,
      Option.bind_eq_bind, Option.bind_some]
    rfl
  | cons j more ih =>
    obtain ⟨fuel, rfl⟩ : ∃ k, fuel = k + 1 := ⟨fuel - 1, by simp at hfuel; omega⟩
    have hmore := ih j (fun _ => rfl) fuel (Nat.lt_of_succ_lt_succ hfuel)
    have htokens : moreOperands (j :: more) ++ rest
        = .sign ',' :: .value (operandPlaceholder j) :: (moreOperands more ++ rest) := rfl
    rw [htokens, operands?]
    simp only [hoperand, sign?_sign, hmore, Option.bind_eq_bind, Option.bind_some]
    rfl

theorem list?_read (numbers : List Nat) (rest : List Token) :
    list? (Token.read (", ".intercalate (numbers.map operandPlaceholder)) ++ .sign ')' :: rest)
      = some (numbers.map fun i => .constant (operandPlaceholder i), rest) := by
  cases numbers with
  | nil =>
    rw [List.map_nil, String.intercalate_nil, Token.read_empty, List.nil_append, list?, sign?_sign]
    rfl
  | cons i more =>
    have hlength : more.length < (.value (operandPlaceholder i)
        :: (moreOperands more ++ .sign ')' :: rest) : List Token).length := by
      simp [moreOperands]
      omega
    have hcomma : sign? ',' (.sign ')' :: rest) = none := rfl
    have hread := operands?_more hcomma i hlength
    have hopen : sign? ')' (.value (operandPlaceholder i)
        :: (moreOperands more ++ .sign ')' :: rest)) = none := rfl
    rw [read_operands, List.cons_append, list?, hopen]
    simp only [hread, sign?_sign, Option.bind_eq_bind, Option.bind_some]

theorem spells_among (values : List Json) (i first : Nat) :
    Spells ((Test.among values).text (attributePlaceholder i) first)
      (.among (.reference [.key (attributePlaceholder i)])
        ((List.range values.length).map fun i => .constant (operandPlaceholder (first + i)))) := by
  intro fuel rest
  have hin : Token.read " IN (" = [.word "IN", .sign '('] := by
    simp [Token.read, Token.scan, Token.ofWord, isMark, isWordChar]
  have hnumbers : (List.range values.length).map (fun i => operandPlaceholder (first + i))
      = ((List.range values.length).map (first + ·)).map operandPlaceholder := by
    rw [List.map_map]
    rfl
  have hopens : opens (", ".intercalate
      (((List.range values.length).map (first + ·)).map operandPlaceholder)) = true := by
    refine opens_intercalate rfl fun text htext => ?_
    obtain ⟨i, -, rfl⟩ := List.mem_map.1 htext
    exact (Placeholder.isPlaceholder_operand i).opens
  have htokens : Token.read ((Test.among values).text (attributePlaceholder i) first) ++ rest
      = .name (attributePlaceholder i) :: .word "IN" :: .sign '('
        :: (Token.read (", ".intercalate
          (((List.range values.length).map (first + ·)).map operandPlaceholder))
            ++ .sign ')' :: rest) := by
    rw [Test.text_among, hnumbers, Token.read_append rfl, Token.read_append hopens,
      Token.read_append rfl, Token.read_attribute, hin, Token.read_close]
    simp
  have hends (tokens : List Token) : EndsReference (.word "IN" :: tokens) := by
    simp [EndsReference]
  have hconstants : (List.range values.length).map
        (fun i => Operand.constant (operandPlaceholder (first + i)))
      = ((List.range values.length).map (first + ·)).map
        fun i => .constant (operandPlaceholder i) := by
    rw [List.map_map]
    rfl
  rw [hconstants, htokens, part?_name]
  exact test?_among (operand?_name (hends _) _) (toLower_eq_iff.2 (by decide)) (list?_read _ rest)

/-! ## Functions -/

section Functions

variable {start name reference placeholder : String} {path : Path}

/-- A text with the name of a function of a reference, and the reference, is read as the call. -/
theorem spells_ofPath {test : Path → Formula String}
    (hstart : Token.read start = [.word name, .sign '('])
    (hreference : Token.read reference = Token.ofReference (.key placeholder :: path))
    (hopens : opens reference = true) (hnot : name.toLower ≠ "not")
    (htest : ∀ rest result, ofPath? name test (.word name :: .sign '(' :: rest) = some result →
      test? (.word name :: .sign '(' :: rest) = some result) :
    Spells (start ++ reference ++ ")") (test (.key placeholder :: path)) := by
  intro fuel rest
  have htokens : Token.read (start ++ reference ++ ")") ++ rest = .word name :: .sign '('
      :: (Token.ofReference (.key placeholder :: path) ++ .sign ')' :: rest) := by
    rw [Token.read_append rfl, Token.read_append hopens, hstart, hreference, Token.read_close]
    simp
  have hcall : call? name (.word name :: .sign '('
      :: (Token.ofReference (.key placeholder :: path) ++ .sign ')' :: rest))
        = some (Token.ofReference (.key placeholder :: path) ++ .sign ')' :: rest) := if_pos rfl
  have hends : EndsReference (.sign ')' :: rest) := by simp [EndsReference]
  have hread := reference?_append hends placeholder path
  rw [htokens, part?_call hnot]
  refine htest _ _ ?_
  simp only [ofPath?, hcall, hread, sign?_sign, Option.bind_eq_bind, Option.bind_some]

/-- A text with the name of a function of a reference and an operand, the reference and the
placeholder of a value, is read as the call. -/
theorem spells_ofOperand {test : Path → Operand String → Formula String} {first : Nat}
    (hstart : Token.read start = [.word name, .sign '('])
    (hreference : Token.read reference = Token.ofReference (.key placeholder :: path))
    (hopens : opens reference = true) (hnot : name.toLower ≠ "not")
    (htest : ∀ rest result, ofOperand? name test (.word name :: .sign '(' :: rest) = some result →
      test? (.word name :: .sign '(' :: rest) = some result) :
    Spells (start ++ reference ++ ", " ++ operandPlaceholder first ++ ")")
      (test (.key placeholder :: path) (.constant (operandPlaceholder first))) := by
  intro fuel rest
  have hcomma : Token.read ", " = [.sign ','] := by
    simp [Token.read, Token.scan, isMark, isWordChar]
  let after : List Token := .sign ',' :: .value (operandPlaceholder first) :: .sign ')' :: rest
  have htokens : Token.read (start ++ reference ++ ", " ++ operandPlaceholder first ++ ")") ++ rest
      = .word name :: .sign '(' :: (Token.ofReference (.key placeholder :: path) ++ after) := by
    rw [Token.read_append rfl, Token.read_append (Placeholder.isPlaceholder_operand _).opens,
      Token.read_append rfl, Token.read_append hopens, hstart, hreference, hcomma, Token.read_close,
      Token.read_operand]
    simp [after]
  have hcall : call? name (.word name :: .sign '('
      :: (Token.ofReference (.key placeholder :: path) ++ after))
        = some (Token.ofReference (.key placeholder :: path) ++ after) := if_pos rfl
  have hends : EndsReference after := by simp [EndsReference, after]
  have hread := reference?_append hends placeholder path
  have hoperand : operand? (.value (operandPlaceholder first) :: .sign ')' :: rest)
      = some (.constant (operandPlaceholder first), .sign ')' :: rest) := rfl
  rw [htokens, part?_call hnot]
  refine htest _ _ ?_
  simp only [ofOperand?, hcall, hread, after, sign?_sign, hoperand, Option.bind_eq_bind,
    Option.bind_some]

theorem ofPath?_other {word : String} (h : word ≠ name) (test : Path → Formula String)
    (rest : List Token) : ofPath? name test (.word word :: .sign '(' :: rest) = none := by
  have hcall : call? name (.word word :: .sign '(' :: rest) = none := if_neg h
  rw [ofPath?, hcall]
  rfl

theorem ofOperand?_other {word : String} (h : word ≠ name)
    (test : Path → Operand String → Formula String) (rest : List Token) :
    ofOperand? name test (.word word :: .sign '(' :: rest) = none := by
  have hcall : call? name (.word word :: .sign '(' :: rest) = none := if_neg h
  rw [ofOperand?, hcall]
  rfl

theorem spells_exists
    (hreference : Token.read reference = Token.ofReference (.key placeholder :: path))
    (hopens : opens reference = true) :
    Spells ("attribute_exists(" ++ reference ++ ")") (.present (.key placeholder :: path)) := by
  have hstart : Token.read "attribute_exists(" = [.word "attribute_exists", .sign '('] := by
    simp [Token.read, Token.scan, Token.ofWord, isMark, isWordChar]
  refine spells_ofPath hstart hreference hopens (mt toLower_eq_iff.1 (by decide)) ?_
  intro rest result hresult
  rw [test?_call (by decide), hresult]
  rfl

theorem spells_notExists
    (hreference : Token.read reference = Token.ofReference (.key placeholder :: path))
    (hopens : opens reference = true) :
    Spells ("attribute_not_exists(" ++ reference ++ ")") (.absent (.key placeholder :: path)) := by
  have hstart : Token.read "attribute_not_exists(" = [.word "attribute_not_exists", .sign '('] := by
    simp [Token.read, Token.scan, Token.ofWord, isMark, isWordChar]
  refine spells_ofPath hstart hreference hopens (mt toLower_eq_iff.1 (by decide)) ?_
  intro rest result hresult
  rw [test?_call (by decide), hresult, ofPath?_other (by decide)]
  rfl

theorem spells_beginsWith
    (hreference : Token.read reference = Token.ofReference (.key placeholder :: path))
    (hopens : opens reference = true) (first : Nat) :
    Spells ("begins_with(" ++ reference ++ ", " ++ operandPlaceholder first ++ ")")
      (.beginsWith (.key placeholder :: path) (.constant (operandPlaceholder first))) := by
  have hstart : Token.read "begins_with(" = [.word "begins_with", .sign '('] := by
    simp [Token.read, Token.scan, Token.ofWord, isMark, isWordChar]
  refine spells_ofOperand hstart hreference hopens (mt toLower_eq_iff.1 (by decide)) ?_
  intro rest result hresult
  rw [test?_call (by decide), hresult, ofPath?_other (by decide), ofPath?_other (by decide),
    ofOperand?_other (by decide)]
  rfl

theorem spells_contains
    (hreference : Token.read reference = Token.ofReference (.key placeholder :: path))
    (hopens : opens reference = true) (first : Nat) :
    Spells ("contains(" ++ reference ++ ", " ++ operandPlaceholder first ++ ")")
      (.contains (.key placeholder :: path) (.constant (operandPlaceholder first))) := by
  have hstart : Token.read "contains(" = [.word "contains", .sign '('] := by
    simp [Token.read, Token.scan, Token.ofWord, isMark, isWordChar]
  refine spells_ofOperand hstart hreference hopens (mt toLower_eq_iff.1 (by decide)) ?_
  intro rest result hresult
  rw [test?_call (by decide), hresult, ofPath?_other (by decide), ofPath?_other (by decide),
    ofOperand?_other (by decide), ofOperand?_other (by decide)]
  rfl

end Functions

/-- A test of an attribute is read as it is written. -/
theorem spells_test (test : Test) (i first : Nat) :
    Spells (test.text (attributePlaceholder i) first)
      (test.spelled (attributePlaceholder i) first) := by
  have hreference : Token.read (attributePlaceholder i)
      = Token.ofReference [.key (attributePlaceholder i)] := Token.read_attribute i
  have hopens := (Placeholder.isPlaceholder_attribute i).opens
  cases test with
  | compare comparison value => exact spells_compare comparison value i first
  | between low high => exact spells_between low high i first
  | beginsWith start => exact spells_beginsWith hreference hopens first
  | contains value => exact spells_contains hreference hopens first
  | among values => exact spells_among values i first
  | present => exact spells_exists hreference hopens
  | absent => exact spells_notExists hreference hopens

end ConditionGrammar

end ItemTable
