import ItemTable.Proofs.Draft7.Leads
import ItemTable.Proofs.Draft7.Usable
import ItemTable.Proofs.Schema.Declared
import ItemTable.Proofs.Schema.Nodes
import Mathlib.Data.List.Induction

set_option autoImplicit false

/-! # Values are checked against the nodes of their paths

Values are stored by the node that a path's look-up comes to, and checked by the full copy of the
document. In an aligned document the check of a value comes to a copy of that node in any case, with
the part of the value at the path (`Schema.checkedAt_nodeAt?`). A document is not aligned if the
look-up and the check read a reference otherwise, if patterns precede the node of other members, or
if a node has an address of its own or is written in a dialect without keywords. -/

namespace ItemTable

namespace Schema

open Draft7 (Asks Comes Dialect Hands Leads Library Passes Scope StandAlike schemasUnder
  governsProperties isExpected standingNames)
open Json (IsCopy)

/-- A schema stands at an address, in a dialect with keywords. -/
def StandsAt (base : String) (scope : Scope) : Prop := scope.base = base ∧ scope.dialect ≠ .later

/-- The address at which the full copy of a document stands. -/
def baseOf (library : Library) (document : Json) : String :=
  (library.outermost (document.lower true)).base

/-- A document whose nodes the check of a value comes to as the look-up of a path does. -/
structure IsAligned (library : Library) (document : Json) : Prop where
  /-- From the document's address a reference leads the check to a copy of the reference's target.
  -/
  references : ∀ {node target : Json} {reference : String}, Node document node →
    reference? node = some reference → target? document reference = some target →
    ∃ copy there, library.resolve? (document.lower true) (baseOf library document) reference =
      some (copy, there) ∧ IsCopy target copy ∧ StandsAt (baseOf library document) there
  /-- Next to a schema for all other members there are no patterns. -/
  patterns : ∀ {node : Json} {others : Record Json}, Node document node →
    reference? node = none → node.member? "additionalProperties" = some (.object others) →
    node.member? "patternProperties" = none
  /-- The node of a member or of the elements has no other address, and is written in a dialect with
  keywords. -/
  standing : ∀ {node child : Json} {step : Step} {scope : Scope}, Node document node →
    reference? node = none → child? node step = some child →
    StandsAt (baseOf library document) scope →
    StandsAt (baseOf library document) (library.within scope child)

/-- The store type whose name is a node's type. -/
def nodeType? (node : Json) : Option StoreType := (declaredType? (some node)).bind StoreType.ofName?

theorem typeAt?_eq_bind (schema : Schema) (path : Path) :
    schema.typeAt? path = (schema.nodeAt? path).bind nodeType? := by
  unfold typeAt?
  cases schema.nodeAt? path <;> rfl

/-! ## Copies of one node -/

section

variable {library : Library} {node copy child value part : Json} {xs ls : Record Json}
  {scope : Scope} {step : Step}

/-- A copy stands where its node does. -/
theorem standAlike_of_isCopy (hcopy : IsCopy (.object xs) (.object ls)) (hxs : xs.names.Nodup) :
    StandAlike ls xs where
  texts := by
    intro name hname
    have hrel : Option.Rel IsCopy (xs.get? name) (ls.get? name) := by
      refine hcopy.rel hxs ?_
      revert name
      decide
    generalize xs.get? name = found, ls.get? name = found' at hrel ⊢
    cases hrel with
    | none => rfl
    | some hxy => exact hxy.string?_eq
  reference := by
    have hrel : Option.Rel IsCopy (xs.get? "$ref") (ls.get? "$ref") := hcopy.rel hxs (by decide)
    unfold Record.contains
    generalize xs.get? "$ref" = found, ls.get? "$ref" = found' at hrel ⊢
    cases hrel <;> rfl

theorem within_eq_of_isCopy (hcopy : IsCopy node copy) (hnode : node.isProper = true) :
    library.within scope copy = library.within scope node := by
  rcases hcopy with rfl | rfl
  · rfl
  cases node with
  | object xs =>
    have hcopy : IsCopy (.object xs) (.object (Json.lowered true xs)) := Json.isCopy_lower _
    rw [Json.lower_object]
    exact (standAlike_of_isCopy hcopy (Json.isProper_object.1 hnode).1).within_eq
  | _ => rfl

theorem exists_object_of_isCopy (hcopy : IsCopy (.object xs) copy) : ∃ ls, copy = .object ls := by
  rcases hcopy with rfl | rfl
  · exact ⟨xs, rfl⟩
  · exact ⟨_, Json.lower_object true xs⟩

/-- A copy has the node of the elements unless the type is a set. -/
theorem rel_items (hcopy : IsCopy (.object xs) (.object ls)) (hxs : xs.names.Nodup)
    (hset : (nodeType? (.object xs)).any StoreType.isSet = false) :
    Option.Rel IsCopy (xs.get? "items") (ls.get? "items") := by
  refine hcopy.rel_of_overrides hxs ?_
  unfold StoreType.overrides
  split
  · next name htype =>
    split
    · next declared hdeclared =>
      have htyped : nodeType? (.object xs) = some declared := by
        rw [nodeType?, declaredType?, Option.bind_some, Json.member?, htype]
        exact hdeclared
      rw [htyped] at hset
      cases declared with
      | bytes => rfl
      | _ => cases hset
    · rfl
  · rfl
  · rfl

/-- A type puts nothing into an object that keeps a schema under that name. -/
theorem overrides_eq_nil (hxs : xs.names.Nodup)
    (htype : ∀ x, (Json.lowered true xs).get? "type" = some x →
      x.isObject = true ∨ ∃ b, x = .bool b) :
    StoreType.overrides true (xs.get? "type") = [] := by
  have hput : ∀ x, (StoreType.overrides true (xs.get? "type")).get? "type" = some x →
      x.isObject = true ∨ ∃ b, x = .bool b := by
    intro x hx
    refine htype x ?_
    rw [Json.get?_lowered true hxs, hx, Option.some_or]
  unfold StoreType.overrides at hput ⊢
  split
  · next text htext =>
    split
    · next declared hdeclared =>
      rw [htext] at hput
      simp only [hdeclared] at hput
      rcases hput _ rfl with h | ⟨b, h⟩ <;> cases h
    · rfl
  · next names hnames =>
    rw [hnames] at hput
    rcases hput _ rfl with h | ⟨b, h⟩ <;> cases h
  · rfl

/-- A copy that can be used has copies of the nodes of members, and no others. -/
theorem rel_properties (hcopy : IsCopy (.object xs) (.object ls))
    (hnode : (Json.object xs).isProper = true)
    (husable : ∀ m ∈ schemasUnder ls "properties", m.2.isObject = true ∨ ∃ b, m.2 = .bool b)
    (name : String) :
    Option.Rel IsCopy (((Json.object xs).member? "properties").bind (·.member? name))
      ((schemasUnder ls "properties").get? name) := by
  have hrel : Option.Rel IsCopy (xs.get? "properties") (ls.get? "properties") :=
    hcopy.rel (Json.isProper_object.1 hnode).1 (by decide)
  rw [Json.member?]
  unfold schemasUnder at husable ⊢
  generalize hget : xs.get? "properties" = found, ls.get? "properties" = found' at hrel husable ⊢
  cases hrel with
  | none => exact .none
  | @some own copied hcopied =>
    cases own with
    | object own =>
      have hown := Json.isProper_of_mem_object hnode (Record.mem_of_get?_eq_some hget)
      have hnames := (Json.isProper_object.1 hown).1
      rcases hcopied with rfl | rfl
      · change Option.Rel IsCopy (Record.get? own name) (Record.get? own name)
        cases Record.get? own name with
        | none => exact .none
        | some x => exact .some (Json.isCopy_self x)
      · have hnone : StoreType.overrides true (Record.get? own "type") = [] := by
          refine overrides_eq_nil hnames fun x hx => ?_
          exact husable ("type", x) (Record.mem_of_get?_eq_some hx)
        refine (Json.isCopy_lower (.object own)).rel_of_overrides hnames ?_
        rw [hnone]
        rfl
    | _ => rcases hcopied with rfl | rfl <;> exact .none

end

/-! ## One step -/

section

variable {library : Library} {root node copy child value part : Json} {xs ls members : Record Json}
  {scope : Scope} {dialect : Dialect} {step : Step} {name : String}

theorem plain_of_isCopy (hcopy : IsCopy (.object xs) (.object ls)) (hxs : xs.names.Nodup)
    (hreference : reference? (.object xs) = none) (reference : String) :
    ls.get? "$ref" ≠ some (.string reference) := by
  intro href
  rw [(get?_reference hcopy hxs).1 href] at hreference
  cases hreference

theorem knows_of_ne_later (hdialect : dialect ≠ .later) {keyword : String}
    (hkeyword : keyword ∈ ["type", "items", "properties", "additionalProperties"]) :
    dialect.knows keyword = true := by
  cases dialect with
  | later => exact absurd rfl hdialect
  | seven => rfl
  | _ =>
    revert keyword
    decide

/-- A copy of a node hands a member that has its own node on to a copy of that node. -/
theorem exists_passes_of_own (hdialect : scope.dialect ≠ .later)
    (hplain : ∀ reference, ls.get? "$ref" ≠ some (.string reference))
    (hown : (schemasUnder ls "properties").get? name = some child)
    (hpart : members.get? name = some part) :
    ∃ words, Passes library root scope (.object ls) (.object members) .always [.key name] words
      (library.within scope child) child part := by
  by_cases hgoverned : governsProperties ls = true
  · have hother : ∃ argument, ls.get? "additionalProperties" = some argument := by
      unfold governsProperties at hgoverned
      split at hgoverned
      · next h => exact ⟨_, h⟩
      · next h => exact ⟨_, h⟩
      · cases hgoverned
    obtain ⟨argument, hargument⟩ := hother
    have hasks : Asks scope.dialect ls "additionalProperties" argument :=
      ⟨hplain, Record.mem_of_get?_eq_some hargument, knows_of_ne_later hdialect (by decide)⟩
    exact ⟨_, .keyword hasks
      (.governedProperty hgoverned (Record.mem_of_get?_eq_some hpart) hown)⟩
  · unfold schemasUnder at hown
    cases hproperties : ls.get? "properties" with
    | none =>
      rw [hproperties] at hown
      cases hown
    | some properties =>
      have hasks : Asks scope.dialect ls "properties" properties :=
        ⟨hplain, Record.mem_of_get?_eq_some hproperties, knows_of_ne_later hdialect (by decide)⟩
      rw [hproperties] at hown
      exact ⟨_, .keyword hasks (.property (Bool.eq_false_iff.2 hgoverned)
        (Record.mem_of_get?_eq_some hown) hpart)⟩

/-- A copy of a node without patterns hands a member without its own node on to the copy of the node
of all others. -/
theorem exists_passes_of_other (hdialect : scope.dialect ≠ .later)
    (hplain : ∀ reference, ls.get? "$ref" ≠ some (.string reference))
    (hown : (schemasUnder ls "properties").get? name = none)
    (hpatterns : ls.get? "patternProperties" = none)
    (hother : ls.get? "additionalProperties" = some child) (hobject : child.isObject = true)
    (hpart : members.get? name = some part) :
    ∃ words, Passes library root scope (.object ls) (.object members) .always [.key name] words
      (library.within scope child) child part := by
  have hgoverned : governsProperties ls = true := by
    unfold governsProperties
    rw [hother]
    cases child with
    | object => rfl
    | _ => cases hobject
  have hunexpected : isExpected (schemasUnder ls "properties")
      (schemasUnder ls "patternProperties") name = false := by
    have hnone : schemasUnder ls "patternProperties" = [] := by
      rw [schemasUnder, hpatterns]
      rfl
    rw [isExpected, hnone, Record.contains, hown]
    rfl
  have hasks : Asks scope.dialect ls "additionalProperties" child :=
    ⟨hplain, Record.mem_of_get?_eq_some hother, knows_of_ne_later hdialect (by decide)⟩
  exact ⟨_, .keyword hasks
    (.governedOther hgoverned (Record.mem_of_get?_eq_some hpart) hunexpected hobject)⟩

/-- A copy of a node without a set's type hands the elements on to a copy of their node. -/
theorem exists_passes_of_items {elements : List Json} {i : Nat} (hdialect : scope.dialect ≠ .later)
    (hplain : ∀ reference, ls.get? "$ref" ≠ some (.string reference))
    (hcopy : IsCopy (.object xs) (.object ls)) (hxs : xs.names.Nodup)
    (hset : (nodeType? (.object xs)).any StoreType.isSet = false)
    (hitems : xs.get? "items" = some child) (hobject : child.isObject = true)
    (hpart : elements[i]? = some part) :
    ∃ words next, IsCopy child next ∧
      Passes library root scope (.object ls) (.array elements) .always [.position i] words
        (library.within scope next) next part := by
  have hrel := rel_items hcopy hxs hset
  rw [hitems] at hrel
  generalize hget : ls.get? "items" = found at hrel
  cases hrel with
  | @some _ next hnext =>
    have hasks : Asks scope.dialect ls "items" next :=
      ⟨hplain, Record.mem_of_get?_eq_some hget, knows_of_ne_later hdialect (by decide)⟩
    have harray : next.isArray = false := by
      rw [hnext.isArray_eq]
      cases child with
      | array => cases hobject
      | _ => rfl
    exact ⟨_, next, hnext, .keyword hasks (.element harray hpart)⟩

/-- A copy of a node hands a member on to a copy of the member's node. -/
theorem exists_passes_of_member (hdialect : scope.dialect ≠ .later)
    (hplain : ∀ reference, ls.get? "$ref" ≠ some (.string reference))
    (hcareful : library.IsCareful) (haccepts : library.accepts root = true)
    (hcomes : Comes library root scope (.object ls)) (hcopy : IsCopy (.object xs) (.object ls))
    (hnode : (Json.object xs).isProper = true)
    (hpatterns : ∀ others, (Json.object xs).member? "additionalProperties" = some (.object others) →
      (Json.object xs).member? "patternProperties" = none)
    (hchild : memberNode? (.object xs) name = some child)
    (hpart : members.get? name = some part) :
    ∃ words next, IsCopy child next ∧
      Passes library root scope (.object ls) (.object members) .always [.key name] words
        (library.within scope next) next part := by
  have hxs := (Json.isProper_object.1 hnode).1
  have husable : ∀ m ∈ schemasUnder ls "properties", m.2.isObject = true ∨ ∃ b, m.2 = .bool b :=
    hcareful.schemasUnder haccepts hcomes hplain (knows_of_ne_later hdialect (by decide)) (.inl rfl)
  have hrel := rel_properties hcopy hnode husable name
  generalize hget : (schemasUnder ls "properties").get? name = found at hrel
  rcases memberNode?_eq_some hchild with hown | ⟨others, rfl, hnone, hothers⟩
  · rw [hown] at hrel
    cases hrel with
    | @some _ next hnext =>
      obtain ⟨words, hpasses⟩ := exists_passes_of_own hdialect hplain hget hpart
      exact ⟨words, next, hnext, hpasses⟩
  · rw [hnone] at hrel
    cases hrel
    have hrest : Option.Rel IsCopy (xs.get? "additionalProperties")
        (ls.get? "additionalProperties") := hcopy.rel hxs (by decide)
    have hothers' : xs.get? "additionalProperties" = some (.object others) := hothers
    rw [hothers'] at hrest
    generalize hnext : ls.get? "additionalProperties" = found at hrest
    cases hrest with
    | @some _ next hcopied =>
      have hno := get?_eq_none_of_copy hcopy hxs (by decide) (hpatterns others hothers)
      have hobject : next.isObject = true := by
        rw [hcopied.isObject_eq]
        rfl
      obtain ⟨words, hpasses⟩ := exists_passes_of_other hdialect hplain hget hno hnext hobject hpart
      exact ⟨words, next, hcopied, hpasses⟩

/-- Where the look-up steps on to an object, a copy of the node hands the part of the value on to a
copy of that object. -/
theorem exists_passes (hdialect : scope.dialect ≠ .later) (hcareful : library.IsCareful)
    (haccepts : library.accepts root = true) (hcomes : Comes library root scope copy)
    (hcopy : IsCopy node copy) (hnode : node.isProper = true) (hreference : reference? node = none)
    (hpatterns : ∀ others, node.member? "additionalProperties" = some (.object others) →
      node.member? "patternProperties" = none)
    (hset : ∀ elements, value = .array elements → (nodeType? node).any StoreType.isSet = false)
    (hchild : child? node step = some child) (hobject : child.isObject = true)
    (hpart : value.child? step = some part) :
    ∃ words next, IsCopy child next ∧
      Passes library root scope copy value .always [step] words (library.within scope next) next
        part := by
  obtain ⟨xs, rfl⟩ : ∃ xs, node = .object xs := by
    cases node with
    | object xs => exact ⟨xs, rfl⟩
    | _ => cases step <;> cases hchild
  obtain ⟨ls, rfl⟩ := exists_object_of_isCopy hcopy
  have hxs := (Json.isProper_object.1 hnode).1
  have hplain := plain_of_isCopy hcopy hxs hreference
  cases step with
  | position i =>
    cases value with
    | array elements =>
      have hlist := hset elements rfl
      exact exists_passes_of_items hdialect hplain hcopy hxs hlist hchild hobject hpart
    | _ => cases hpart
  | key name =>
    cases value with
    | object members =>
      exact exists_passes_of_member hdialect hplain hcareful haccepts hcomes hcopy hnode hpatterns
        hchild hpart
    | _ => cases hpart

end

/-! ## References -/

section

variable {library : Library} {document node resolved copy part : Json} {scope : Scope} {fuel : Nat}

theorem isObject_of_resolveWithin (h : resolveWithin document fuel node = some resolved)
    (hobject : resolved.isObject = true) : node.isObject = true := by
  cases fuel with
  | zero => cases h
  | succ fuel =>
    cases node with
    | object => rfl
    | _ =>
      cases h
      exact hobject

/-- Where the look-up follows references, the check follows them from a copy to a copy. -/
theorem exists_leads (haligned : IsAligned library document) (hdocument : document.isProper = true)
    (hnode : Node document node) (hcopy : IsCopy node copy)
    (hstands : StandsAt (baseOf library document) scope)
    (h : resolveWithin document fuel node = some resolved) :
    ∃ there last, Leads library (document.lower true) scope copy part [] there last part ∧
      IsCopy resolved last ∧ StandsAt (baseOf library document) there ∧ Node document resolved := by
  induction fuel generalizing node copy scope with
  | zero => cases h
  | succ fuel ih =>
    rw [resolveWithin] at h
    cases hreference : reference? node with
    | none =>
      rw [hreference] at h
      cases h
      exact ⟨scope, copy, .here _ _ _, hcopy, hstands, hnode⟩
    | some reference =>
      rw [hreference] at h
      obtain ⟨target, htarget, hrest⟩ := Option.bind_eq_some_iff.1 h
      obtain ⟨next, there, hnext, hcopied, hthere⟩ :=
        haligned.references hnode hreference htarget
      obtain ⟨last, resolvedCopy, hleads, hlast⟩ :=
        ih (hnode.target hreference htarget) hcopied hthere hrest
      obtain ⟨xs, rfl⟩ : ∃ xs, node = .object xs := by
        cases node with
        | object xs => exact ⟨xs, rfl⟩
        | _ => cases hreference
      obtain ⟨ls, rfl⟩ := exists_object_of_isCopy hcopy
      have hxs := (Json.isProper_object.1 (hnode.isProper hdocument)).1
      rw [← hstands.1] at hnext
      have href := (get?_reference hcopy hxs).2 hreference
      exact ⟨last, resolvedCopy, .onward (.reference href hnext) hleads, hlast⟩

end

/-! ## Whole paths -/

/-- The check of a value comes in any case to a copy of a node with a part of the value. -/
inductive CheckedAt (schema : Schema) (value : Json) (path : Path) (node part : Json) : Prop
  | intro {scope : Scope} {copy : Json} (hnode : Node schema.document node)
    (hcopy : IsCopy node copy) (hstands : StandsAt (baseOf schema.library schema.document) scope)
    (hleads : Leads schema.library schema.full (schema.library.outermost schema.full) schema.full
      value path scope copy part)

section

variable {schema : Schema} {value : Json} {path : Path}

/-- Where the check comes to before references it comes to behind them. -/
theorem checkedAt_of_resolve {child resolved next part : Json} {scope : Scope}
    (hfull : schema.full = schema.document.lower true)
    (haligned : IsAligned schema.library schema.document)
    (hdocument : schema.document.isProper = true) (hchild : Node schema.document child)
    (hcopy : IsCopy child next) (hstands : StandsAt (baseOf schema.library schema.document) scope)
    (hresolved : schema.resolve? child = some resolved)
    (hleads : Leads schema.library schema.full (schema.library.outermost schema.full) schema.full
      value path scope next part) :
    CheckedAt schema value path resolved part := by
  obtain ⟨there, last, hfurther, hlast, hthere, hnode⟩ :=
    exists_leads haligned hdocument hchild hcopy hstands hresolved
  rw [← hfull] at hfurther
  have hwhole := hleads.trans hfurther
  rw [List.append_nil] at hwhole
  exact .intro hnode hlast hthere hwhole

/-- In an aligned document that is accepted, the check of a value comes to a copy of the node of
each path that does not lead into a set. -/
theorem checkedAt_nodeAt? (hfull : schema.full = schema.document.lower true)
    (haligned : IsAligned schema.library schema.document)
    (hdocument : schema.document.isProper = true) (hcareful : schema.library.IsCareful)
    (haccepts : schema.library.accepts schema.full = true)
    {node part : Json} (hnode : schema.nodeAt? path = some node) (hobject : node.isObject = true)
    (hwalk : value.walk? path = some part) (houtside : schema.OutsideSets [] value path) :
    CheckedAt schema value path node part := by
  -- on the path from its end: the last step goes from a copy of the parent to one of the child
  induction path using List.reverseRecOn generalizing node part with
  | nil =>
    obtain rfl : value = part := Option.some.inj hwalk
    have hroot : schema.resolve? schema.document = some node := by
      simpa [nodeAt?, descend?] using hnode
    have hcopy : IsCopy schema.document schema.full := by
      rw [hfull]
      exact Json.isCopy_lower _
    have hstands : StandsAt (baseOf schema.library schema.document)
        (schema.library.outermost schema.full) := by
      rw [hfull, baseOf]
      refine ⟨rfl, ?_⟩
      rw [Library.dialect_outermost]
      decide
    exact checkedAt_of_resolve hfull haligned hdocument .root hcopy hstands hroot (.here _ _ _)
  | append_singleton path step ih =>
    rw [nodeAt?_concat] at hnode
    obtain ⟨child, hfound, hresolved⟩ := Option.bind_eq_some_iff.1 hnode
    obtain ⟨parent, hparent, hchild⟩ := Option.bind_eq_some_iff.1 hfound
    rw [Json.walk?_append] at hwalk
    obtain ⟨middle, hmiddle, hstep⟩ := Option.bind_eq_some_iff.1 hwalk
    rw [Json.walk?_singleton] at hstep
    obtain ⟨houtside, hset⟩ := houtside.concat
    have hparentobject : parent.isObject = true := by
      cases parent with
      | object => rfl
      | _ => cases step <;> cases hchild
    obtain ⟨hparentnode, hcopy, hstands, hleads⟩ := ih hparent hparentobject hmiddle houtside
    have hreference := reference?_of_nodeAt? hparent
    have hlists : ∀ elements, middle = .array elements →
        (nodeType? parent).any StoreType.isSet = false := by
      rintro elements rfl
      have hnone := hset elements hmiddle
      rwa [List.nil_append, setAt, typeAt?_eq_bind, hparent] at hnone
    have hproper := hparentnode.isProper hdocument
    have hchildnode := hparentnode.child hreference hchild
    obtain ⟨words, next, hnext, hpasses⟩ := exists_passes hstands.2 hcareful haccepts
      (hleads.comes .start) hcopy hproper hreference
      (fun others => haligned.patterns hparentnode hreference) hlists hchild
      (isObject_of_resolveWithin hresolved hobject) hstep
    rw [within_eq_of_isCopy hnext (hchildnode.isProper hdocument)] at hpasses
    exact checkedAt_of_resolve hfull haligned hdocument hchildnode hnext
      (haligned.standing hparentnode hreference hchild hstands) hresolved
      (hleads.trans (.of_passes hpasses))

end

end Schema

/-! ## Going through all nodes -/

namespace Json

/-- Whether no type puts anything in at the segments. -/
def keepsWay : Json → List (List Char) → Bool
  | _, [] => true
  | value, segment :: rest =>
    ((StoreType.overrides true (value.member? "type")).get? (segmentName segment)).isNone &&
      (value.segment? (segmentName segment)).all fun part => part.keepsWay rest

/-- A copy has a copy of the part at plain segments at which nothing was put in. -/
theorem IsCopy.exists_reach? {part copy target : Json} {segments : List (List Char)}
    (hcopy : IsCopy part copy) (hpart : part.isProper = true)
    (hplain : part.indexedPlainly segments = true) (hkeeps : part.keepsWay segments = true)
    (hat : part.at? (segments.map segmentName) = some target) :
    ∃ found, Draft7.reach? copy segments = some found ∧ IsCopy target found := by
  induction segments generalizing part copy with
  | nil =>
    obtain rfl : part = target := Option.some.inj hat
    exact ⟨copy, by simp [Draft7.reach?], hcopy⟩
  | cons segment rest ih =>
    obtain ⟨hsegment, hrest⟩ := indexedPlainly_cons.1 hplain
    obtain ⟨next, hnext, hbelow⟩ := Option.bind_eq_some_iff.1 hat
    obtain ⟨hnone, hkeeps⟩ := Bool.and_eq_true_iff.1 hkeeps
    have hkeeps' := (Option.all_eq_true _ _).1 hkeeps next hnext
    cases part with
    | array xs =>
      obtain ⟨i, hi, hx⟩ := Option.bind_eq_some_iff.1 hnext
      have hproper := isProper_of_mem_array hpart (List.mem_of_getElem? hx)
      rw [positionOfSegment?_of_plain (hsegment rfl)] at hi
      have hcopied : ∃ ys y, copy = .array ys ∧ ys[i]? = some y ∧ IsCopy next y := by
        rcases hcopy with rfl | rfl
        · exact ⟨xs, next, rfl, hx, isCopy_self next⟩
        · exact ⟨_, _, lower_array true xs, by rw [List.getElem?_map, hx]; rfl, isCopy_lower next⟩
      obtain ⟨ys, y, rfl, hy, hcopied⟩ := hcopied
      obtain ⟨found, hfound, htarget⟩ := ih hcopied hproper (hrest next hnext) hkeeps' hbelow
      refine ⟨found, ?_, htarget⟩
      rw [Draft7.reach?, hi, Option.bind_some, hy]
      exact hfound
    | object xs =>
      have hproper := isProper_of_mem_object hpart (Record.mem_of_get?_eq_some hnext)
      obtain ⟨ys, rfl⟩ := Schema.exists_object_of_isCopy hcopy
      have hrel := hcopy.rel_of_overrides (isProper_object.1 hpart).1
        (Option.isNone_iff_eq_none.1 hnone)
      have hnext' : Record.get? xs (segmentName segment) = some next := hnext
      rw [hnext'] at hrel
      generalize hget : Record.get? ys (segmentName segment) = got at hrel
      cases hrel with
      | @some _ y hcopied =>
        obtain ⟨found, hfound, htarget⟩ := ih hcopied hproper (hrest next hnext) hkeeps' hbelow
        refine ⟨found, ?_, htarget⟩
        have hget' : Record.get? ys (String.ofList (unescapeSegment segment)) = some y := hget
        rw [Draft7.reach?, hget']
        exact hfound
    | _ => cases hnext

end Json

namespace Schema

open Draft7 (Dialect Library Scope)

/-- Whether a node is as the nodes of aligned documents are, if its reference is a plain pointer. -/
def isAlignedNode (document node : Json) : Bool :=
  match reference? node with
  | some reference =>
    (plainSegments? reference).any fun segments =>
      document.indexedPlainly segments && document.keepsWay segments
  | none =>
    (!((node.member? "additionalProperties").any Json.isObject) ||
        (node.member? "patternProperties").isNone) &&
      (nextNodes document node).all fun child => Dialect.seven.within child != .later

/-- Seen from an address, pointers lead to schemas that stand there. -/
theorem standsAt_within_pointers {base : String} {scope : Scope} {child : Json}
    (hstands : StandsAt base scope) (hown : Dialect.seven.within child ≠ .later) :
    StandsAt base (Library.pointers.within scope child) := by
  refine ⟨(Library.base_within_pointers scope child).trans hstands.1, ?_⟩
  rw [Library.dialect_within]
  rcases Dialect.within_cases child with hinherits | ⟨own, hsame⟩
  · rw [hinherits]
    exact hstands.2
  · rwa [hsame] at hown ⊢

theorem isAligned_of_everyNode {document : Json} (hdocument : document.isProper = true) (fuel : Nat)
    (hall : everyNode document (isAlignedNode document) fuel document = true) :
    IsAligned .pointers document := by
  have hnodes : ∀ {node}, Node document node → isAlignedNode document node = true :=
    fun h => h.check_of_everyNode hall
  refine ⟨?_, ?_, ?_⟩
  · intro node target reference h hreference htarget
    have hnode := hnodes h
    rw [isAlignedNode, hreference] at hnode
    obtain ⟨segments, hsegments, hplain⟩ := (Option.any_eq_true _ _).1 hnode
    obtain ⟨hplain, hkeeps⟩ := Bool.and_eq_true_iff.1 hplain
    rw [target?_of_plain hsegments] at htarget
    obtain ⟨copy, hreach, hcopy⟩ :=
      (Json.isCopy_lower document).exists_reach? hdocument hplain hkeeps htarget
    refine ⟨copy, _, Option.map_eq_some_iff.2 ⟨copy, ?_, rfl⟩, hcopy, rfl, nofun⟩
    rwa [resolve?_of_plain hsegments]
  · intro node others h hreference hothers
    have hnode := hnodes h
    rw [isAlignedNode, hreference] at hnode
    have hpatterns := (Bool.and_eq_true_iff.1 hnode).1
    rw [hothers] at hpatterns
    exact Option.isNone_iff_eq_none.1 hpatterns
  · intro node child step scope h hreference hchild hstands
    have hnode := hnodes h
    rw [isAlignedNode, hreference] at hnode
    have hchildren := (Bool.and_eq_true_iff.1 hnode).2
    refine standsAt_within_pointers hstands ?_
    simpa using List.all_eq_true.1 hchildren child (mem_nextNodes_of_child? hreference hchild)

end Schema

end ItemTable
