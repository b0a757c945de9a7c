import ItemTable.Proofs.Schema.Lowering
import Mathlib.Data.List.Forall2

set_option autoImplicit false

/-! # The relaxed copy of a schema

The two lowered copies of a document differ in the arrays of required names alone: `Json.Relaxes`
says so of each of their parts (`Json.relaxes_lower`). -/

namespace ItemTable

namespace Json

/-! ## Documents that lack some members -/

/-- The second document is the first one, but for members that its objects may lack. -/
inductive Relaxes (lacks : Record Json → String → Prop) : Json → Json → Prop
  | same (x : Json) : Relaxes lacks x x
  | array {xs ys : List Json} (helements : List.Forall₂ (Relaxes lacks) xs ys) :
    Relaxes lacks (.array xs) (.array ys)
  | object {xs ys : Record Json} (hys : ys.names.Nodup)
    (hdata : ∀ name ∈ dataKeywords, xs.get? name = ys.get? name)
    (hnames : ∀ name ∈ ys.names, name ∈ xs.names)
    (hkept : ∀ name ∈ xs.names, name ∈ ys.names ∨ lacks xs name)
    (hmembers : ∀ name x y, xs.get? name = some x → ys.get? name = some y → Relaxes lacks x y) :
    Relaxes lacks (.object xs) (.object ys)

/-- Members by which others are read. -/
def steeringNames : List String :=
  ["$ref", "$schema", "$id", "id", "properties", "patternProperties", "additionalProperties",
    "then", "else", "contentEncoding", "contentMediaType"]

/-- None of the values is an array or a string, as in an object of schemas. -/
def NoneIsPlain (r : Record Json) : Prop := ∀ m ∈ r, m.2.isArray = false ∧ m.2.string? = none

/-- What may be lacking: nothing by which others are read, and nothing in an object of schemas. -/
structure Slack (lacks : Record Json → String → Prop) : Prop where
  steering : ∀ {xs : Record Json} {name : String}, lacks xs name → name ∉ steeringNames
  plain : ∀ {xs : Record Json} {name : String}, lacks xs name → ¬ NoneIsPlain xs

section

variable {lacks : Record Json → String → Prop} {x y : Json} {xs ys : Record Json} {name : String}

/-- A member of the second document is there in the first one. -/
theorem Relaxes.get? (h : Relaxes lacks (.object xs) (.object ys)) (hy : ys.get? name = some y) :
    ∃ x, xs.get? name = some x ∧ Relaxes lacks x y := by
  cases h with
  | same => exact ⟨y, hy, .same y⟩
  | object _ _ hnames _ hmembers =>
    obtain ⟨x, hx⟩ := Record.mem_names_iff.1 (hnames name (Record.mem_names_iff.2 ⟨y, hy⟩))
    exact ⟨x, hx, hmembers name x y hx hy⟩

theorem Relaxes.argument (h : Relaxes lacks (.object xs) (.object ys)) (hy : (name, y) ∈ ys) :
    ∃ x, (name, x) ∈ xs ∧ Relaxes lacks x y ∧ (name ∈ dataKeywords → x = y) := by
  cases h with
  | same => exact ⟨y, hy, .same y, fun _ => rfl⟩
  | object hys hdata hnames hkept hmembers =>
    have hget := Record.get?_eq_some_of_mem hys hy
    obtain ⟨x, hx⟩ := Record.mem_names_iff.1 (hnames name (Record.mem_names_iff.2 ⟨y, hget⟩))
    refine ⟨x, Record.mem_of_get?_eq_some hx, hmembers name x y hx hget, fun hname => ?_⟩
    exact Option.some.inj (hx.symm.trans ((hdata name hname).trans hget))

theorem Relaxes.member (h : Relaxes lacks (.object xs) (.object ys)) (hy : (name, y) ∈ ys) :
    ∃ x, (name, x) ∈ xs ∧ Relaxes lacks x y := by
  obtain ⟨x, hx, hxy, -⟩ := h.argument hy
  exact ⟨x, hx, hxy⟩

/-- A member of the first document is there in the second one, unless it may be lacking. -/
theorem Relaxes.kept (h : Relaxes lacks (.object xs) (.object ys)) (hx : xs.get? name = some x)
    (hname : ¬ lacks xs name) : ∃ y, ys.get? name = some y ∧ Relaxes lacks x y := by
  cases h with
  | same => exact ⟨x, hx, .same x⟩
  | object _ _ _ hkept hmembers =>
    have hname' := (hkept name (Record.mem_names_iff.2 ⟨x, hx⟩)).resolve_right hname
    obtain ⟨y, hy⟩ := Record.mem_names_iff.1 hname'
    exact ⟨y, hy, hmembers name x y hx hy⟩

/-- Under a name that is not lacking, both documents have a member or neither. -/
theorem Relaxes.rel (h : Relaxes lacks (.object xs) (.object ys)) (hname : ¬ lacks xs name) :
    Option.Rel (Relaxes lacks) (xs.get? name) (ys.get? name) := by
  cases hx : xs.get? name with
  | some x =>
    obtain ⟨y, hy, hxy⟩ := h.kept hx hname
    rw [hy]
    exact .some hxy
  | none =>
    cases hy : ys.get? name with
    | none => exact .none
    | some y =>
      obtain ⟨x, hx', -⟩ := h.get? hy
      rw [hx] at hx'
      cases hx'

/-- There both documents have the same strings as members. -/
theorem Relaxes.get?_string (h : Relaxes lacks (.object xs) (.object ys)) (hname : ¬ lacks xs name)
    {text : String} : xs.get? name = some (.string text) ↔ ys.get? name = some (.string text) := by
  constructor
  · intro hx
    obtain ⟨y, hy, hxy⟩ := h.kept hx hname
    cases hxy
    exact hy
  · intro hy
    obtain ⟨x, hx, hxy⟩ := h.get? hy
    cases hxy
    exact hx

theorem Relaxes.elements {xs ys : List Json} (h : Relaxes lacks (.array xs) (.array ys)) :
    List.Forall₂ (Relaxes lacks) xs ys := by
  cases h with
  | same => exact List.forall₂_same.2 fun x _ => .same x
  | array helements => exact helements

theorem Relaxes.element {xs ys : List Json} (h : Relaxes lacks (.array xs) (.array ys)) {i : Nat}
    (hy : ys[i]? = some y) : ∃ x, xs[i]? = some x ∧ Relaxes lacks x y :=
  Traversal.getElem?_of_forall₂ h.elements hy

/-! ## What both documents share -/

theorem Relaxes.string?_eq (h : Relaxes lacks x y) : x.string? = y.string? := by
  cases h <;> rfl

theorem Relaxes.bool?_eq (h : Relaxes lacks x y) : x.bool? = y.bool? := by
  cases h <;> rfl

theorem Relaxes.isObject_eq (h : Relaxes lacks x y) : x.isObject = y.isObject := by
  cases h <;> rfl

theorem Relaxes.isArray_eq (h : Relaxes lacks x y) : x.isArray = y.isArray := by
  cases h <;> rfl

theorem Relaxes.stringElements_eq (h : Relaxes lacks x y) :
    x.stringElements = y.stringElements := by
  cases h with
  | array helements =>
    unfold stringElements
    dsimp only [array?, Option.getD_some]
    induction helements with
    | nil => rfl
    | cons hfirst _ ih => rw [List.filterMap_cons, List.filterMap_cons, hfirst.string?_eq, ih]
  | _ => rfl

theorem Relaxes.object?_getD (h : Relaxes lacks x y) :
    Relaxes lacks (.object (x.object?.getD [])) (.object (y.object?.getD [])) := by
  cases h with
  | same => exact .same _
  | array => exact .same _
  | object hys hdata hnames hkept hmembers => exact .object hys hdata hnames hkept hmembers

theorem Relaxes.array?_getD (h : Relaxes lacks x y) :
    Relaxes lacks (.array (x.array?.getD [])) (.array (y.array?.getD [])) := by
  cases h with
  | same => exact .same _
  | array helements => exact .array helements
  | object => exact .same _

theorem Relaxes.eq_array {ys : List Json} (h : Relaxes lacks x (.array ys)) :
    ∃ xs, x = .array xs ∧ List.Forall₂ (Relaxes lacks) xs ys := by
  cases h with
  | same => exact ⟨ys, rfl, Relaxes.elements (.same _)⟩
  | array helements => exact ⟨_, rfl, helements⟩

theorem Relaxes.eq_object (h : Relaxes lacks x (.object ys)) :
    ∃ xs, x = .object xs ∧ Relaxes lacks (.object xs) (.object ys) := by
  cases h with
  | same => exact ⟨ys, rfl, .same _⟩
  | object hys hdata hnames hkept hmembers =>
    exact ⟨_, rfl, .object hys hdata hnames hkept hmembers⟩

end

/-! ## The two copies -/

/-- An array of required names may be lacking. -/
def LacksRequired (xs : Record Json) (name : String) : Prop :=
  name = "required" ∧ ∃ x, xs.get? name = some x ∧ x.isArray = true

theorem slack_lacksRequired : Slack LacksRequired := by
  constructor
  · rintro xs name ⟨rfl, -⟩
    decide
  · rintro xs name ⟨-, x, hx, harray⟩ hplain
    rw [(hplain _ (Record.mem_of_get?_eq_some hx)).1] at harray
    cases harray

theorem relaxes_asType {lacks : Record Json → String → Prop} {x y : Json}
    (h : Relaxes lacks x y) : Relaxes lacks (StoreType.asType x) (StoreType.asType y) := by
  cases h with
  | same => exact .same _
  | array helements => exact .array helements
  | object hys hdata hnames hkept hmembers => exact .object hys hdata hnames hkept hmembers

/-- What a type puts into its node is the same, or lists the same types. -/
theorem relaxes_overrides {type : Option Json}
    (h : ∀ x, type = some x → Relaxes LacksRequired (lower true x) (lower false x))
    (name : String) :
    Option.Rel (Relaxes LacksRequired) ((StoreType.overrides true type).get? name)
      ((StoreType.overrides false type).get? name) := by
  have hsame : ∀ value : Option Json, Option.Rel (Relaxes LacksRequired) value value := by
    intro value
    cases value with
    | none => exact .none
    | some x => exact .some (.same x)
  cases type with
  | none => exact .none
  | some x =>
    cases x with
    | array names =>
      have helements := h _ rfl
      rw [lower_array, lower_array] at helements
      have hnames := Traversal.forall₂_map_map.1 helements.elements
      simp only [StoreType.overrides, Record.get?]
      split
      · refine .some (.array (Traversal.forall₂_map_map.2 fun x hx => relaxes_asType (hnames x ?_)))
        exact (StoreType.keptTypes_sublist [] names).subset hx
      · exact .none
    | _ => exact hsame _

/-- The members of the two copies of an object: both have one, or neither, or the relaxed copy lacks
an array of required names. -/
theorem lowered_cases {members : Record Json} (hmembers : members.names.Nodup)
    (h : ∀ name x, members.get? name = some x →
      Relaxes LacksRequired (lower true x) (lower false x))
    (name : String) :
    Option.Rel (Relaxes LacksRequired) ((lowered true members).get? name)
        ((lowered false members).get? name) ∨
      (name = "required" ∧ (lowered false members).get? name = none ∧
        ∃ x, (lowered true members).get? name = some x ∧ x.isArray = true) := by
  rw [get?_lowered true hmembers, get?_lowered false hmembers]
  have hoverrides := relaxes_overrides (h "type") name
  generalize (StoreType.overrides true (members.get? "type")).get? name = own,
    (StoreType.overrides false (members.get? "type")).get? name = own' at hoverrides ⊢
  cases hoverrides with
  | some hxy => exact .inl (.some hxy)
  | none =>
    rw [Option.none_or, Option.none_or]
    cases hget : members.get? name with
    | none => exact .inl .none
    | some x =>
      have hmember : Relaxes LacksRequired (lowerMember true name x)
          (lowerMember false name x) := by
        unfold lowerMember
        split
        · exact .same x
        · exact h name x hget
      rw [Option.bind_some, Option.bind_some, if_neg (by simp [isDropped])]
      by_cases hdropped : isDropped false name x = true
      · rw [if_pos hdropped]
        simp only [isDropped, Bool.not_false, Bool.true_and, Bool.and_eq_true, beq_iff_eq]
          at hdropped
        obtain ⟨rfl, harray⟩ := hdropped
        refine .inr ⟨rfl, rfl, lowerMember true "required" x, rfl, ?_⟩
        rw [lowerMember, if_neg (by decide), isArray_lower, harray]
      · rw [if_neg hdropped]
        exact .inl (.some hmember)

/-- The relaxed copy of a document is the full one without required names. -/
theorem relaxes_lower {value : Json} (hvalue : value.isProper = true) :
    Relaxes LacksRequired (lower true value) (lower false value) := by
  induction value using parts_induction with
  | scalar value harray hobject =>
    cases value with
    | array => cases harray
    | object => cases hobject
    | _ => exact .same _
  | array elements ih =>
    rw [lower_array, lower_array]
    exact .array (Traversal.forall₂_map_map.2 fun x hx =>
      ih x hx (isProper_of_mem_array hvalue hx))
  | object members ih =>
    have hmembers := (isProper_object.1 hvalue).1
    have hcases := lowered_cases hmembers fun name x hx =>
      have hmem := Record.mem_of_get?_eq_some hx
      ih _ hmem (isProper_of_mem_object hvalue hmem)
    rw [lower_object, lower_object]
    refine .object (nodup_names_lowered hmembers) ?_ ?_ ?_ ?_
    · intro name hname
      rw [get?_lowered_of_data true hmembers hname, get?_lowered_of_data false hmembers hname]
    · intro name hname
      obtain ⟨y, hy⟩ := Record.mem_names_iff.1 hname
      rcases hcases name with hrel | ⟨-, hnone, -⟩
      · rw [hy] at hrel
        cases hx : (lowered true members).get? name with
        | some x => exact Record.mem_names_iff.2 ⟨x, hx⟩
        | none =>
          rw [hx] at hrel
          cases hrel
      · rw [hy] at hnone
        cases hnone
    · intro name hname
      obtain ⟨x, hx⟩ := Record.mem_names_iff.1 hname
      rcases hcases name with hrel | ⟨rfl, -, x', hx', harray⟩
      · rw [hx] at hrel
        cases hy : (lowered false members).get? name with
        | some y => exact .inl (Record.mem_names_iff.2 ⟨y, hy⟩)
        | none =>
          rw [hy] at hrel
          cases hrel
      · exact .inr ⟨rfl, x', hx', harray⟩
    · intro name x y hx hy
      rcases hcases name with hrel | ⟨-, hnone, -⟩
      · rw [hx, hy] at hrel
        cases hrel with
        | some hxy => exact hxy
      · rw [hy] at hnone
        cases hnone

end Json

end ItemTable
