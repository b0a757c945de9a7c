import ItemTable.Proofs.Draft7.Required
import ItemTable.Proofs.Schema.Copies
import ItemTable.Proofs.Schema.Parts
import ItemTable.Proofs.Tree.Removal

set_option autoImplicit false

/-! # Nodes of a document

The nodes of a document are what a path's look-up can come to. In a plain document a validation by
the full copy stays with them: where it hands a value on, the look-up steps on to the same node
(`Schema.Hands.back`, `Schema.nodeAt?_child`, `Schema.resolve?_of_reference`). Whether a document
without endless chains of nodes is plain can be computed (`Schema.isPlain_of_everyNode`). -/

namespace ItemTable

namespace Schema

open Draft7 (Hands Asks schemasUnder governsProperties isExpected)
open Json (IsCopy Inert)

/-! ## Plain documents -/

/-- A node of a document: the document, what a step leads to from a node without a reference, and
what the reference of a node names. -/
inductive Node (document : Json) : Json → Prop
  | root : Node document document
  | child {node child : Json} {step : Step} (h : Node document node)
    (hreference : reference? node = none) (hchild : child? node step = some child) :
    Node document child
  | target {node target : Json} {reference : String} (h : Node document node)
    (hreference : reference? node = some reference)
    (htarget : target? document reference = some target) : Node document target

/-- Whether the chain of references from a node ends within so many nodes: at one without a
reference, or at one whose reference names nothing. -/
def chainEnds (document : Json) : Nat → Json → Bool
  | 0, _ => false
  | fuel + 1, node =>
    match reference? node with
    | none => true
    | some reference =>
      match target? document reference with
      | none => true
      | some target => chainEnds document fuel target

/-- The keywords that hand an object on to schemas which no step leads to. -/
def foreignKeywords : List String := ["patternProperties", "allOf", "if", "dependencies"]

/-- A document whose nodes hand members and elements on by `properties`, `additionalProperties` and
one schema under `items`, and whose references are plain pointers in short chains. -/
structure IsPlain (document : Json) : Prop where
  keywords : ∀ {node : Json}, Node document node → reference? node = none →
    ∀ keyword ∈ foreignKeywords, node.member? keyword = none
  items : ∀ {node items : Json}, Node document node → reference? node = none →
    node.member? "items" = some items → items.isArray = false
  pointers : ∀ {node : Json} {reference : String}, Node document node →
    reference? node = some reference → ∃ segments, plainSegments? reference = some segments ∧
      document.indexedPlainly segments = true
  chains : ∀ {node : Json}, Node document node → chainEnds document chainLimit node = true

/-- No reference of a node leads into a list of types in which something repeats. -/
def AvoidsRepeatedTypes (document : Json) : Prop :=
  ∀ {node : Json} {reference : String} {segments : List (List Char)}, Node document node →
    reference? node = some reference → plainSegments? reference = some segments →
    document.entersRepeatedTypes segments = false

section

variable {document node child : Json}

theorem isProper_of_member? {name : String} (hnode : node.isProper = true)
    (h : node.member? name = some child) : child.isProper = true := by
  have hchild : node.child? (.key name) = some child := h
  exact Json.isProper_of_child? hnode hchild

theorem isProper_of_at? {segments : List String} (hnode : node.isProper = true)
    (h : node.at? segments = some child) : child.isProper = true := by
  induction segments generalizing node with
  | nil =>
    obtain rfl := Option.some.inj h
    exact hnode
  | cons segment rest ih =>
    obtain ⟨next, hnext, hrest⟩ := Option.bind_eq_some_iff.1 h
    refine ih ?_ hrest
    cases node with
    | array elements =>
      obtain ⟨i, -, hi⟩ := Option.bind_eq_some_iff.1 hnext
      exact Json.isProper_of_mem_array hnode (List.mem_of_getElem? hi)
    | object members =>
      exact Json.isProper_of_mem_object hnode (Record.mem_of_get?_eq_some hnext)
    | _ => cases hnext

/-- A member's node is its own, or that of the other members if it has none. -/
theorem memberNode?_eq_some {name : String} (h : memberNode? node name = some child) :
    (node.member? "properties").bind (·.member? name) = some child ∨
      ∃ others, child = .object others ∧
        (node.member? "properties").bind (·.member? name) = none ∧
        node.member? "additionalProperties" = some (.object others) := by
  unfold memberNode? at h
  split at h
  · next own hown =>
    cases h
    exact .inl hown
  · next hnone =>
    split at h
    · next others hothers =>
      cases h
      exact .inr ⟨others, rfl, hnone, hothers⟩
    · cases h

theorem Node.isProper (h : Node document node) (hdocument : document.isProper = true) :
    node.isProper = true := by
  induction h with
  | root => exact hdocument
  | @child node child step _ _ hchild ih =>
    cases step with
    | position => exact isProper_of_member? ih hchild
    | key name =>
      rcases memberNode?_eq_some hchild with hown | ⟨others, rfl, -, hother⟩
      · obtain ⟨properties, hproperties, hown⟩ := Option.bind_eq_some_iff.1 hown
        exact isProper_of_member? (isProper_of_member? ih hproperties) hown
      · exact isProper_of_member? ih hother
  | @target node target reference _ _ htarget _ =>
    unfold target? at htarget
    split at htarget
    · obtain ⟨segments, -, hat⟩ := Option.bind_eq_some_iff.1 htarget
      exact isProper_of_at? hdocument hat
    · cases htarget

end

/-! ## Going through all nodes -/

section

variable {document node child target : Json}

/-- The nodes that a node leads to at once. -/
def nextNodes (document node : Json) : List Json :=
  match reference? node with
  | some reference => (target? document reference).toList
  | none =>
    ((node.member? "properties").bind Json.object?).elim [] (List.map Prod.snd) ++
      (node.member? "additionalProperties").toList ++ (node.member? "items").toList

/-- Whether a node and all that it leads to pass a check, and no chain of them has more than so many
nodes. -/
def everyNode (document : Json) (check : Json → Bool) : Nat → Json → Bool
  | 0, _ => false
  | fuel + 1, node => check node && (nextNodes document node).all (everyNode document check fuel)

theorem mem_nextNodes_of_child? {step : Step} (hreference : reference? node = none)
    (hchild : child? node step = some child) : child ∈ nextNodes document node := by
  rw [nextNodes, hreference]
  dsimp only
  rw [List.mem_append, List.mem_append, Option.mem_toList, Option.mem_toList]
  cases step with
  | position => exact .inr hchild
  | key name =>
    rcases memberNode?_eq_some hchild with hown | ⟨others, rfl, -, hother⟩
    · obtain ⟨properties, hproperties, hown⟩ := Option.bind_eq_some_iff.1 hown
      cases properties with
      | object members =>
        rw [hproperties]
        exact .inl (.inl (List.mem_map_of_mem (Record.mem_of_get?_eq_some hown)))
      | _ => cases hown
    · exact .inl (.inr hother)

theorem mem_nextNodes_of_target? {reference : String}
    (hreference : reference? node = some reference)
    (htarget : target? document reference = some target) : target ∈ nextNodes document node := by
  rw [nextNodes, hreference]
  exact Option.mem_toList.2 htarget

/-- What all nodes were found to pass, each node passes. -/
theorem Node.check_of_everyNode {check : Json → Bool} {fuel : Nat} (h : Node document node)
    (hall : everyNode document check fuel document = true) : check node = true := by
  -- the walk from the document passes each node with some fuel left
  suffices hfrom : ∃ fuel, everyNode document check fuel node = true by
    obtain ⟨fuel, hfrom⟩ := hfrom
    cases fuel with
    | zero => cases hfrom
    | succ fuel => exact (Bool.and_eq_true_iff.1 hfrom).1
  have hnext : ∀ {node next fuel}, everyNode document check fuel node = true →
      next ∈ nextNodes document node → ∃ fuel, everyNode document check fuel next = true := by
    intro node next fuel hfrom hmem
    cases fuel with
    | zero => cases hfrom
    | succ fuel => exact ⟨fuel, List.all_eq_true.1 (Bool.and_eq_true_iff.1 hfrom).2 next hmem⟩
  induction h with
  | root => exact ⟨fuel, hall⟩
  | child _ hreference hchild ih =>
    obtain ⟨fuel, hfrom⟩ := ih
    exact hnext hfrom (mem_nextNodes_of_child? hreference hchild)
  | target _ hreference htarget ih =>
    obtain ⟨fuel, hfrom⟩ := ih
    exact hnext hfrom (mem_nextNodes_of_target? hreference htarget)

/-- Whether a node is as the nodes of plain documents are. -/
def isPlainNode (document node : Json) : Bool :=
  chainEnds document chainLimit node &&
    match reference? node with
    | some reference => (plainSegments? reference).any document.indexedPlainly
    | none =>
      foreignKeywords.all (fun keyword => (node.member? keyword).isNone) &&
        (node.member? "items").all fun items => !items.isArray

theorem isPlain_of_everyNode (fuel : Nat)
    (hall : everyNode document (isPlainNode document) fuel document = true) : IsPlain document := by
  have hnodes : ∀ {node}, Node document node → isPlainNode document node = true :=
    fun h => h.check_of_everyNode hall
  refine ⟨?_, ?_, ?_, fun h => (Bool.and_eq_true_iff.1 (hnodes h)).1⟩
  · intro node h hreference keyword hkeyword
    have hnode := (Bool.and_eq_true_iff.1 (hnodes h)).2
    rw [hreference] at hnode
    exact Option.isNone_iff_eq_none.1
      (List.all_eq_true.1 (Bool.and_eq_true_iff.1 hnode).1 keyword hkeyword)
  · intro node items h hreference hitems
    have hnode := (Bool.and_eq_true_iff.1 (hnodes h)).2
    rw [hreference] at hnode
    simpa using (Option.all_eq_true _ _).1 (Bool.and_eq_true_iff.1 hnode).2 items hitems
  · intro node reference h hreference
    have hnode := (Bool.and_eq_true_iff.1 (hnodes h)).2
    rw [hreference] at hnode
    exact (Option.any_eq_true _ _).1 hnode

theorem avoidsRepeatedTypes_of_everyNode (fuel : Nat)
    (hall : everyNode document (fun node => ((reference? node).bind plainSegments?).all
      fun segments => !document.entersRepeatedTypes segments) fuel document = true) :
    AvoidsRepeatedTypes document := by
  intro node reference segments h hreference hsegments
  have hnode := h.check_of_everyNode hall
  rw [hreference, Option.bind_some, hsegments] at hnode
  simpa using hnode

end

/-! ## Look-ups -/

section

variable {schema : Schema} {node child target : Json} {path : Path}

theorem resolveWithin_of_chainEnds {document : Json} {fuel : Nat}
    (h : chainEnds document fuel node = true) :
    resolveWithin document (fuel + 1) node = resolveWithin document fuel node := by
  induction fuel generalizing node with
  | zero => cases h
  | succ fuel ih =>
    rw [resolveWithin, resolveWithin]
    rw [chainEnds] at h
    cases hreference : reference? node with
    | none => rfl
    | some reference =>
      rw [hreference] at h
      cases htarget : target? document reference with
      | none => simp [htarget]
      | some target =>
        simp only [htarget] at h ⊢
        exact ih h

theorem resolve?_of_no_reference (h : reference? node = none) :
    schema.resolve? node = some node := by
  rw [resolve?, chainLimit, resolveWithin, h]

/-- A node in a short chain stands for what its target stands for. -/
theorem resolve?_of_reference {reference : String}
    (hchain : chainEnds schema.document chainLimit node = true)
    (hreference : reference? node = some reference)
    (htarget : target? schema.document reference = some target) :
    schema.resolve? node = schema.resolve? target := by
  rw [chainLimit, chainEnds, hreference] at hchain
  simp only [htarget] at hchain
  rw [resolve?, resolve?, chainLimit, resolveWithin, hreference, resolveWithin_of_chainEnds hchain]
  simp only [htarget, Option.bind_some]

/-- The look-up of a path steps on to a node's child. -/
theorem nodeAt?_child {step : Step} (hreference : reference? node = none)
    (hat : schema.nodeAt? path = schema.resolve? node) (hchild : child? node step = some child) :
    schema.nodeAt? (path ++ [step]) = schema.resolve? child := by
  rw [nodeAt?_concat, hat, resolve?_of_no_reference hreference, Option.bind_some, hchild,
    Option.bind_some]

end

/-! ## Nodes in the full copy -/

section

variable {node copy argument schema : Json} {xs ls : Record Json} {name : String}

theorem reference?_object (members : Record Json) :
    reference? (.object members) = (members.get? "$ref").bind Json.string? := rfl

/-- A copy has the reference of its node. -/
theorem get?_reference (hcopy : IsCopy (.object xs) (.object ls)) (hxs : xs.names.Nodup)
    {reference : String} : ls.get? "$ref" = some (.string reference) ↔
      reference? (.object xs) = some reference := by
  have hrel : Option.Rel IsCopy (xs.get? "$ref") (ls.get? "$ref") := hcopy.rel hxs (by decide)
  rw [reference?_object]
  generalize xs.get? "$ref" = found, ls.get? "$ref" = found' at hrel ⊢
  cases hrel with
  | none => simp
  | @some x y hxy =>
    rw [Option.bind_some, Option.some.injEq]
    constructor
    · rintro rfl
      rw [hxy.eq_string]
      rfl
    · intro hx
      cases x with
      | string text =>
        cases hx
        rcases hxy with rfl | rfl <;> rfl
      | _ => cases hx

/-- A node of which a keyword of the copy asks something has no reference. -/
theorem reference?_eq_none_of_asks (hcopy : IsCopy (.object xs) (.object ls)) (hxs : xs.names.Nodup)
    {dialect : Draft7.Dialect} {keyword : String} (hasks : Asks dialect ls keyword argument) :
    reference? (.object xs) = none := by
  cases hreference : reference? (.object xs) with
  | none => rfl
  | some reference => exact absurd ((get?_reference hcopy hxs).2 hreference) (hasks.plain _)

/-- The schemas of a copy under names stand for those of the node. -/
theorem exists_properties (hcopy : IsCopy (.object xs) (.object ls))
    (hnode : (Json.object xs).isProper = true) {properties : Record Json}
    (hproperties : ls.get? "properties" = some (.object properties)) :
    ∃ own, xs.get? "properties" = some (.object own) ∧ (Record.names own).Nodup ∧
      IsCopy (.object own) (.object properties) := by
  have hrel : Option.Rel IsCopy (xs.get? "properties") (ls.get? "properties") :=
    hcopy.rel (Json.isProper_object.1 hnode).1 (by decide)
  rw [hproperties] at hrel
  generalize hget : xs.get? "properties" = found at hrel
  cases hrel with
  | some hcopy' =>
    obtain ⟨own, rfl⟩ := hcopy'.eq_object
    have hown := Json.isProper_of_mem_object hnode (Record.mem_of_get?_eq_some hget)
    exact ⟨own, rfl, (Json.isProper_object.1 hown).1, hcopy'⟩

/-- What a copy has for a member stands for the member's node, or is inert. -/
theorem child?_of_property (hcopy : IsCopy (.object xs) (.object ls))
    (hnode : (Json.object xs).isProper = true) {properties : Record Json}
    (hproperties : ls.get? "properties" = some (.object properties))
    (hschema : properties.get? name = some schema) :
    Inert schema ∨ ∃ child, child? (.object xs) (.key name) = some child ∧ IsCopy child schema := by
  obtain ⟨own, hget, hown, hcopy'⟩ := exists_properties hcopy hnode hproperties
  rcases hcopy'.get? hown hschema with ⟨child, hchild, hcopy⟩ | ⟨-, hinert, -⟩
  · refine .inr ⟨child, ?_, hcopy⟩
    simp [child?, memberNode?, Json.member?, hget, hchild]
  · exact .inl hinert

/-- The schemas of a copy under names have distinct names. -/
theorem nodup_properties (hcopy : IsCopy (.object xs) (.object ls))
    (hnode : (Json.object xs).isProper = true) {properties : Record Json}
    (hproperties : ls.get? "properties" = some (.object properties)) :
    properties.names.Nodup := by
  obtain ⟨own, -, hown, hcopy'⟩ := exists_properties hcopy hnode hproperties
  exact hcopy'.nodup_names hown

/-- A name that the copy does not expect has no schema of its own in the node. -/
theorem own_eq_none (hcopy : IsCopy (.object xs) (.object ls))
    (hnode : (Json.object xs).isProper = true)
    (hother : (schemasUnder ls "properties").contains name = false) :
    ((Json.object xs).member? "properties").bind (·.member? name) = none := by
  have hrel : Option.Rel IsCopy (xs.get? "properties") (ls.get? "properties") :=
    hcopy.rel (Json.isProper_object.1 hnode).1 (by decide)
  unfold schemasUnder at hother
  rw [Json.member?]
  generalize hget : xs.get? "properties" = found, ls.get? "properties" = found' at hrel hother ⊢
  cases hrel with
  | none => rfl
  | @some own copy hcopy' =>
    cases own with
    | object own =>
      have hown := Json.isProper_of_mem_object hnode (Record.mem_of_get?_eq_some hget)
      cases copy with
      | object copied =>
        refine (Record.get?_eq_none_iff own name).2 fun hname => ?_
        have hcopied := hcopy'.names_subset (Json.isProper_object.1 hown).1 hname
        have hcontains : Record.contains copied name = true := Record.contains_eq_true_iff.2 hcopied
        exact absurd hcontains (Bool.eq_false_iff.1 hother)
      | _ => rcases hcopy' with h | h <;> cases h
    | _ => rfl

/-- What a copy has for members that it does not expect stands for the node of such a member. -/
theorem child?_of_other (hcopy : IsCopy (.object xs) (.object ls))
    (hnode : (Json.object xs).isProper = true)
    (hother : (schemasUnder ls "properties").contains name = false)
    (hargument : ls.get? "additionalProperties" = some argument)
    (hobject : argument.isObject = true) :
    ∃ child, child? (.object xs) (.key name) = some child ∧ IsCopy child argument := by
  have hrel : Option.Rel IsCopy (xs.get? "additionalProperties") (ls.get? "additionalProperties") :=
    hcopy.rel (Json.isProper_object.1 hnode).1 (by decide)
  rw [hargument] at hrel
  generalize hget : xs.get? "additionalProperties" = found at hrel
  cases hrel with
  | @some child _ hcopy' =>
    rw [hcopy'.isObject_eq] at hobject
    refine ⟨child, ?_, hcopy'⟩
    rw [child?, memberNode?, own_eq_none hcopy hnode hother, Json.member?, hget]
    cases child with
    | object => rfl
    | _ => cases hobject

/-- What a copy has for elements stands for their node, or is inert. -/
theorem child?_of_items (hcopy : IsCopy (.object xs) (.object ls)) (hxs : xs.names.Nodup)
    (hargument : ls.get? "items" = some argument) (i : Nat) :
    Inert argument ∨ ∃ child, child? (.object xs) (.position i) = some child ∧
      IsCopy child argument := by
  rcases hcopy.get? hxs hargument with ⟨child, hchild, hcopy⟩ | ⟨-, hinert, -⟩
  · exact .inr ⟨child, hchild, hcopy⟩
  · exact .inl hinert

/-! ## Handing on, before something was taken away -/

/-- A copy has no keyword that its node lacks, but for those that a type puts in. -/
theorem get?_eq_none_of_copy (hcopy : IsCopy (.object xs) (.object ls)) (hxs : xs.names.Nodup)
    (hname : name ∉ StoreType.overriddenNames) (h : xs.get? name = none) : ls.get? name = none := by
  have hrel := hcopy.rel hxs hname
  rw [h] at hrel
  generalize ls.get? name = found at hrel ⊢
  cases hrel
  rfl

/-- A copy takes one schema for all elements if its node does. -/
theorem isArray_items (hcopy : IsCopy (.object xs) (.object ls)) (hxs : xs.names.Nodup)
    (hitems : ∀ items, xs.get? "items" = some items → items.isArray = false)
    (hargument : ls.get? "items" = some argument) : argument.isArray = false := by
  rcases hcopy.get? hxs hargument with ⟨items, hget, hcopy'⟩ | ⟨-, -, harray⟩
  · rw [hcopy'.isArray_eq]
    exact hitems items hget
  · refine Bool.eq_false_iff.2 fun h => ?_
    exact absurd (harray h).1 (by decide)

/-- Where a copy of a plain node hands on what is left of a value, it handed on the value's part as
well, and to the node of that part, unless nothing is required there. -/
theorem Hands.back {old part : Json} {paths : List Path} {keyword : String}
    {needs : Draft7.Need} {steps : Path} {words : List String}
    (hcopy : IsCopy (.object xs) (.object ls)) (hnode : (Json.object xs).isProper = true)
    (hkeywords : ∀ keyword ∈ foreignKeywords, xs.get? keyword = none)
    (hitems : ∀ items, xs.get? "items" = some items → items.isArray = false)
    (hargument : ls.get? keyword = some argument) (hold : old.isProper = true)
    (h : Draft7.Hands ls (old.without paths) keyword argument needs steps words schema part) :
    words = ["propertyNames"] ∨ ∃ step before, old.child? step = some before ∧
      part = before.without (Path.below step paths) ∧
      Draft7.Hands ls old keyword argument .always [step] words schema before ∧
      (Inert schema ∨ ∃ child, child? (.object xs) step = some child ∧ IsCopy child schema) := by
  have hxs := (Json.isProper_object.1 hnode).1
  -- the copy lacks the foreign keywords as well, so only the plain ones hand on
  have hforeign : ∀ keyword ∈ foreignKeywords, ls.get? keyword = none := by
    intro keyword hkeyword
    refine get?_eq_none_of_copy hcopy hxs ?_ (hkeywords keyword hkeyword)
    revert keyword
    decide
  have hno : keyword ∉ foreignKeywords := by
    intro hkeyword
    rw [hforeign keyword hkeyword] at hargument
    cases hargument
  have hleft : (old.without paths).isProper = true := Json.isProper_without hold
  generalize hnew : old.without paths = new at h hleft
  cases h with
  | @property _ _ _ _ name hgoverned hschema hpart =>
    obtain ⟨members, rfl, rfl⟩ := Json.without_eq_object hnew
    obtain ⟨before, hbefore, rfl⟩ := Json.exists_of_get?_membersWithout hpart
    cases argument with
    | object properties =>
      have hget := Record.get?_eq_some_of_mem (nodup_properties hcopy hnode hargument) hschema
      exact .inr ⟨.key name, before, hbefore, rfl, .property hgoverned hschema hbefore,
        child?_of_property hcopy hnode hargument hget⟩
    | _ => cases hschema
  | @governedProperty _ _ _ _ name hgoverned hpart hschema =>
    obtain ⟨members, rfl, rfl⟩ := Json.without_eq_object hnew
    have hget := Record.get?_eq_some_of_mem (Json.isProper_object.1 hleft).1 hpart
    obtain ⟨before, hbefore, rfl⟩ := Json.exists_of_get?_membersWithout hget
    have hmem := Record.mem_of_get?_eq_some hbefore
    refine .inr ⟨.key name, before, hbefore, rfl, .governedProperty hgoverned hmem hschema, ?_⟩
    unfold schemasUnder at hschema
    cases hproperties : ls.get? "properties" with
    | none =>
      rw [hproperties] at hschema
      cases hschema
    | some properties =>
      rw [hproperties] at hschema
      cases properties with
      | object => exact child?_of_property hcopy hnode hproperties hschema
      | _ => cases hschema
  | @governedOther _ _ _ name hgoverned hpart hexpected hobject =>
    obtain ⟨members, rfl, rfl⟩ := Json.without_eq_object hnew
    have hget := Record.get?_eq_some_of_mem (Json.isProper_object.1 hleft).1 hpart
    obtain ⟨before, hbefore, rfl⟩ := Json.exists_of_get?_membersWithout hget
    have hmem := Record.mem_of_get?_eq_some hbefore
    have hother := (Bool.or_eq_false_iff.1 hexpected).1
    exact .inr ⟨.key name, before, hbefore, rfl, .governedOther hgoverned hmem hexpected hobject,
      .inr (child?_of_other hcopy hnode hother hargument hobject)⟩
  | element harray hx =>
    obtain ⟨elements, rfl, rfl⟩ := Json.without_eq_array hnew
    obtain ⟨j, before, hbefore, -, rfl⟩ := Json.exists_of_getElem?_elementsWithout hx
    rw [Nat.zero_add]
    exact .inr ⟨.position j, before, hbefore, rfl, .element harray hbefore,
      child?_of_items hcopy hxs hargument j⟩
  | name => exact .inl rfl
  | tuple => cases isArray_items hcopy hxs hitems hargument
  | further hlist => cases isArray_items hcopy hxs hitems hlist
  | governedPattern _ _ hschema =>
    rw [schemasUnder, hforeign "patternProperties" (by decide)] at hschema
    cases hschema
  | pattern => exact absurd (by decide) hno
  | each => exact absurd (by decide) hno
  | consequence => exact absurd (by decide) hno
  | alternative => exact absurd (by decide) hno
  | dependent => exact absurd (by decide) hno

end

end Schema

end ItemTable
