import ItemTable.Proofs.Json.Parts
import ItemTable.Proofs.Tree.Keeps
import ItemTable.Schema.Lowering

set_option autoImplicit false

/-! # What lowering does to an object

A lowered object has the members that its type puts into it (`StoreType.overrides`), and else those
of the object, each lowered by itself. The relaxed copy alone lacks an array of required names
(`Json.get?_lowered`). -/

namespace ItemTable

namespace StoreType

/-! ## Lists of types -/

/-- The elements of a list of types that are kept: one for each thing that elements are checked as.
-/
def keptTypes (seen : List Json) : List Json → List Json
  | [] => []
  | x :: rest =>
    if seen.any (·.sameForm (asType x)) then keptTypes seen rest
    else x :: keptTypes (asType x :: seen) rest

theorem keptTypes_sublist (seen names : List Json) : (keptTypes seen names).Sublist names := by
  induction names generalizing seen with
  | nil => exact .slnil
  | cons x rest ih =>
    rw [keptTypes]
    split
    · exact (ih seen).cons x
    · exact (ih _).cons_cons x

/-- Whether an element of a list of types is dropped. -/
def repeats (names : List Json) : Bool := (keptTypes [] names).length != names.length

theorem keptTypes_of_repeats {names : List Json} (h : repeats names = false) :
    keptTypes [] names = names :=
  (keptTypes_sublist [] names).eq_of_length (by simpa [repeats] using h)

/-- Next to the lowered forms of the elements, lowering keeps those of the kept ones. -/
theorem lowerNames_zip_map (f : Json → Json) (seen names : List Json) :
    lowerNames seen (names.zip (names.map f)) =
      (keptTypes seen names).map fun x => asType (f x) := by
  induction names generalizing seen with
  | nil => rfl
  | cons x rest ih =>
    rw [List.map_cons, List.zip_cons_cons, lowerNames, keptTypes]
    split
    · exact ih seen
    · rw [List.map_cons, ih]

theorem asType_cases (x : Json) : asType x = x ∨ ∃ name, asType x = .string name := by
  cases x with
  | string name => exact .inr ⟨_, rfl⟩
  | _ => exact .inl rfl

/-! ## What a type puts into its node -/

/-- The members that lowering puts into a node that declares a store type by its name. -/
def declaredMembers (declared : StoreType) (name : String) : Record Json :=
  [("type", .string declared.base)]
    ++ (match declared.member? with
      | none => []
      | some member => [("items", .object [("type", .string member)]), ("uniqueItems", .bool true)])
    ++ [(marker, .string name)]

/-- The members that lowering puts into a node of this type. -/
def overrides (keepRequired : Bool) : Option Json → Record Json
  | some (.string name) =>
    match ofName? name with
    | some declared => declared.declaredMembers name
    | none => []
  | some (.array names) =>
    [("type", .array ((keptTypes [] names).map fun x => asType (x.lower keepRequired)))]
  | _ => []

theorem lowerNode_eq_merge (declared : StoreType) (name : String) (node : Record Json) :
    declared.lowerNode name node = node.merge (declared.declaredMembers name) := by
  cases declared <;> rfl

/-- The names that a type can put into its node. -/
def overriddenNames : List String := ["type", "items", "uniqueItems", marker]

theorem names_overrides_sublist (keepRequired : Bool) (type : Option Json) :
    (overrides keepRequired type).names.Sublist overriddenNames := by
  have hdeclared : ∀ (declared : StoreType) (name : String),
      (declared.declaredMembers name).names.Sublist overriddenNames := by
    intro declared name
    have hsame : (declared.declaredMembers name).names = (declared.declaredMembers "").names := by
      cases declared <;> rfl
    rw [hsame]
    cases declared <;> decide
  unfold overrides
  split
  · split
    · exact hdeclared _ _
    · exact List.nil_sublist _
  · exact (List.nil_sublist _).cons_cons "type"
  · exact List.nil_sublist _

theorem nodup_names_overrides (keepRequired : Bool) (type : Option Json) :
    (overrides keepRequired type).names.Nodup :=
  (names_overrides_sublist keepRequired type).nodup (by decide)

theorem get?_overrides_of_not_mem (keepRequired : Bool) (type : Option Json) {name : String}
    (h : name ∉ overriddenNames) : (overrides keepRequired type).get? name = none :=
  (Record.get?_eq_none_iff _ _).2 fun hname =>
    h ((names_overrides_sublist keepRequired type).subset hname)

/-- What a type puts into its node: a list of types, or for a store type strings, what its members
are, and that they do not repeat. -/
theorem mem_overrides {keepRequired : Bool} {type : Option Json} {m : String × Json}
    (hm : m ∈ overrides keepRequired type) :
    (m.1 = "type" ∧ ∃ names, type = some (.array names) ∧
        m.2 = .array ((keptTypes [] names).map fun x => asType (x.lower keepRequired))) ∨
      (∃ text, m.2 = .string text) ∨ (∃ text, m.2 = .object [("type", .string text)]) ∨
        m.2 = .bool true := by
  unfold overrides at hm
  split at hm
  · split at hm
    · next name declared _ =>
      unfold declaredMembers at hm
      cases hmember : declared.member? with
      | none =>
        rw [hmember] at hm
        simp only [List.append_nil, List.singleton_append, List.mem_cons, List.not_mem_nil,
          or_false] at hm
        rcases hm with rfl | rfl
        · exact .inr (.inl ⟨_, rfl⟩)
        · exact .inr (.inl ⟨_, rfl⟩)
      | some member =>
        rw [hmember] at hm
        simp only [List.cons_append, List.nil_append, List.mem_cons, List.not_mem_nil, or_false]
          at hm
        rcases hm with rfl | rfl | rfl | rfl
        · exact .inr (.inl ⟨_, rfl⟩)
        · exact .inr (.inr (.inl ⟨_, rfl⟩))
        · exact .inr (.inr (.inr rfl))
        · exact .inr (.inl ⟨_, rfl⟩)
    · cases hm
  · next names =>
    obtain rfl := List.mem_singleton.1 hm
    exact .inl ⟨rfl, names, rfl, rfl⟩
  · cases hm

end StoreType

namespace Json

open StoreType (overrides)

/-! ## The members of a lowered object -/

/-- The lowered value of a member: data stay as they are. -/
def lowerMember (keepRequired : Bool) (name : String) (x : Json) : Json :=
  if name ∈ dataKeywords then x else lower keepRequired x

/-- Whether the relaxed copy lacks a member: it is an array of required names. -/
def isDropped (keepRequired : Bool) (name : String) (x : Json) : Bool :=
  !keepRequired && name == "required" && x.isArray

/-- The members of an object, lowered one by one. -/
def loweredEach (keepRequired : Bool) (members : Record Json) : Record Json :=
  if keepRequired then lowerMembers keepRequired members
  else dropRequired (lowerMembers keepRequired members)

/-- The members of a lowered object. -/
def lowered (keepRequired : Bool) (members : Record Json) : Record Json :=
  lowerTypes (members.get? "type") (loweredEach keepRequired members)

theorem lower_object (keepRequired : Bool) (members : Record Json) :
    lower keepRequired (.object members) = .object (lowered keepRequired members) := rfl

theorem lowerElements_eq_map (keepRequired : Bool) (elements : List Json) :
    lowerElements keepRequired elements = elements.map (lower keepRequired) := by
  induction elements with
  | nil => rfl
  | cons x rest ih => rw [lowerElements, ih, List.map_cons]

theorem lower_array (keepRequired : Bool) (elements : List Json) :
    lower keepRequired (.array elements) = .array (elements.map (lower keepRequired)) := by
  rw [lower, lowerElements_eq_map]

theorem lowerMembers_eq_map (keepRequired : Bool) (members : Record Json) :
    lowerMembers keepRequired members =
      members.map fun m => (m.1, lowerMember keepRequired m.1 m.2) := by
  induction members with
  | nil => rfl
  | cons m rest ih =>
    rw [lowerMembers, ih]
    rfl

theorem isArray_lower (keepRequired : Bool) (x : Json) :
    (lower keepRequired x).isArray = x.isArray := by
  cases x <;> rfl

theorem nodup_names_dropRequired {node : Record Json} (hnode : node.names.Nodup) :
    (dropRequired node).names.Nodup := by
  unfold dropRequired
  split
  · exact Record.nodup_names_swapErase hnode "required"
  · exact hnode

theorem get?_dropRequired {node : Record Json} (hnode : node.names.Nodup) (name : String) :
    (dropRequired node).get? name =
      (node.get? name).bind fun x => if isDropped false name x then none else some x := by
  unfold dropRequired
  split
  · next elements helements =>
    rw [Record.get?_swapErase hnode]
    by_cases hname : "required" = name
    · subst hname
      rw [helements]
      rfl
    · have hkept : ∀ x, isDropped false name x = false := by simp [isDropped, Ne.symm hname]
      simp [hname, hkept]
  · next hnone =>
    cases hget : node.get? name with
    | none => rfl
    | some x =>
      have hkept : isDropped false name x = false := by
        refine Bool.eq_false_iff.2 fun hdropped => ?_
        simp only [isDropped, Bool.not_false, Bool.true_and, Bool.and_eq_true, beq_iff_eq]
          at hdropped
        obtain ⟨rfl, harray⟩ := hdropped
        cases x with
        | array elements => exact hnone elements hget
        | _ => cases harray
      simp [hkept]

theorem nodup_names_loweredEach {keepRequired : Bool} {members : Record Json}
    (hmembers : members.names.Nodup) : (loweredEach keepRequired members).names.Nodup := by
  have hnode : (Record.names (lowerMembers keepRequired members)).Nodup := by
    rwa [lowerMembers_eq_map, Record.names_map]
  cases keepRequired with
  | true => exact hnode
  | false => exact nodup_names_dropRequired hnode

theorem get?_loweredEach (keepRequired : Bool) {members : Record Json}
    (hmembers : members.names.Nodup) (name : String) :
    (loweredEach keepRequired members).get? name =
      (members.get? name).bind fun x =>
        if isDropped keepRequired name x then none else some (lowerMember keepRequired name x) := by
  have hget : Record.get? (lowerMembers keepRequired members) name =
      (members.get? name).map (lowerMember keepRequired name) := by
    rw [lowerMembers_eq_map, Record.get?_map]
  unfold loweredEach
  cases keepRequired with
  | true =>
    rw [if_pos rfl, hget]
    cases members.get? name <;> rfl
  | false =>
    have hnodup : (Record.names (lowerMembers false members)).Nodup := by
      rwa [lowerMembers_eq_map, Record.names_map]
    rw [if_neg Bool.false_ne_true, get?_dropRequired hnodup, hget]
    cases members.get? name with
    | none => rfl
    | some x =>
      have hdropped : isDropped false name (lowerMember false name x) = isDropped false name x := by
        unfold lowerMember
        split
        · rfl
        · rw [isDropped, isDropped, isArray_lower]
      rw [Option.map_some, Option.bind_some, Option.bind_some, hdropped]

/-- A lowered object is what its members are lowered to, with what its type puts into it. -/
theorem lowered_eq_merge (keepRequired : Bool) {members : Record Json}
    (hmembers : members.names.Nodup) : lowered keepRequired members =
      (loweredEach keepRequired members).merge (overrides keepRequired (members.get? "type")) := by
  have hget := get?_loweredEach keepRequired hmembers "type"
  unfold lowered
  cases htype : members.get? "type" with
  | none => rfl
  | some type =>
    cases type with
    | string name =>
      rw [lowerTypes, overrides]
      cases StoreType.ofName? name with
      | some declared => exact StoreType.lowerNode_eq_merge declared name _
      | none => rfl
    | array names =>
      -- repeats are told by the elements as declared, next to which the lowered ones stand
      have hnames : (loweredEach keepRequired members).get? "type" =
          some (.array (names.map (lower keepRequired))) := by
        rw [hget, htype, ← lower_array]
        simp [isDropped, lowerMember, dataKeywords]
      unfold lowerTypes
      rw [hnames]
      dsimp only
      rw [StoreType.lowerNames_zip_map]
      rfl
    | _ => rfl

theorem nodup_names_lowered {keepRequired : Bool} {members : Record Json}
    (hmembers : members.names.Nodup) : (lowered keepRequired members).names.Nodup := by
  rw [lowered_eq_merge keepRequired hmembers]
  exact Record.nodup_names_merge (nodup_names_loweredEach hmembers)

/-- A lowered object has what its type puts into it, and else its own members. -/
theorem get?_lowered (keepRequired : Bool) {members : Record Json} (hmembers : members.names.Nodup)
    (name : String) : (lowered keepRequired members).get? name =
      ((overrides keepRequired (members.get? "type")).get? name).or
        ((members.get? name).bind fun x =>
          if isDropped keepRequired name x then none
          else some (lowerMember keepRequired name x)) := by
  rw [lowered_eq_merge keepRequired hmembers,
    Record.get?_merge (StoreType.nodup_names_overrides _ _), get?_loweredEach keepRequired hmembers]

/-- A lowered object has data as they are. -/
theorem get?_lowered_of_data (keepRequired : Bool) {members : Record Json}
    (hmembers : members.names.Nodup) {name : String} (hname : name ∈ dataKeywords) :
    (lowered keepRequired members).get? name = members.get? name := by
  have hown : name ∉ StoreType.overriddenNames ∧ name ≠ "required" := by
    clear hmembers
    revert name
    decide
  rw [get?_lowered keepRequired hmembers, StoreType.get?_overrides_of_not_mem _ _ hown.1,
    Option.none_or]
  simp [isDropped, hown.2, lowerMember, hname]

end Json

end ItemTable
