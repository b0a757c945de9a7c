import ItemTable.Proofs.Draft7.Required
import ItemTable.Proofs.Schema.Parts
import ItemTable.Table

set_option autoImplicit false

/-! # Required names after an update

The data of an update are checked without the names that `required` lists: what they are merged into
is an item that has them. So the merged item lacks a required name only where nothing was merged: in
an object that the update writes whole, or where a condition for the name holds of the merged item
and did not hold of the item (`Schema.validate_insertAll_required`). Both do happen
(`Schema.boxTable_loses_required`). -/

namespace ItemTable

/-- The object at a path is none that the tree had: the tree has no object there, or a leaf is put
in there or above. -/
def Tree.WritesWhole (tree : Record Json) (leaves : List (Path × Json)) (path : Path) : Prop :=
  (∀ members, (Json.object tree).walk? path ≠ some (.object members)) ∨
    ∃ leaf ∈ leaves, leaf.1 <+: path

namespace Schema

open Draft7 (ComesToHold Violation)

variable {schema : Schema}

/-! ## Findings of required names -/

/-- A trail takes the steps of its schema path. -/
theorem steps_of_trail? {root node last : Json} {steps : List String}
    {passed : List (Json × String)} (h : trail? root node steps = some (passed, last)) :
    passed.map (·.2) = steps := by
  induction steps generalizing node passed with
  | nil =>
    cases h
    rfl
  | cons step rest ih =>
    obtain ⟨next, -, h⟩ := Option.bind_eq_some_iff.1 h
    obtain ⟨⟨below, last'⟩, hbelow, h⟩ := Option.bind_eq_some_iff.1 h
    cases h
    rw [List.map_cons, ih hbelow]

/-- Only `required` is described as a required name, and where the violation is. -/
theorem describeKeyword_required {keyword message : String} {argument parent value : Json}
    {location : List String}
    (h : (describeKeyword keyword argument parent value location message).kind = .required) :
    keyword = "required" ∧
      (describeKeyword keyword argument parent value location message).path = location := by
  unfold describeKeyword at h ⊢
  split at h
  · cases h
  · exact ⟨rfl, rfl⟩
  all_goals cases h

theorem describe_required {payload : Json} {violation : Violation}
    (h : (schema.describe payload violation).kind = .required) :
    violation.isEndless = false ∧ violation.place.schemaPath.getLast? = some "required" ∧
      (schema.describe payload violation).path = violation.place.location := by
  unfold describe at h ⊢
  split at h
  · cases h
  · next hends =>
    rw [if_neg hends]
    refine ⟨Bool.eq_false_iff.2 hends, ?_⟩
    unfold describeAt at h ⊢
    dsimp only at h ⊢
    split at h
    · cases h
    · next trail argument htrail =>
      split at h
      · cases h
      · cases h
      · next parent keyword _ hlast =>
        obtain ⟨rfl, hpath⟩ := describeKeyword_required h
        rw [← steps_of_trail? htrail, List.getLast?_map, hlast]
        exact ⟨rfl, hpath⟩
      · cases h

theorem mem_of_mostTelling? {violations : List Violation} {violation : Violation}
    (h : mostTelling? violations = some violation) : violation ∈ violations := by
  unfold mostTelling? at h
  rw [Option.or_eq_some_iff, Option.or_eq_some_iff] at h
  rcases h with (hendless | ⟨-, htype⟩) | ⟨-, hfirst⟩
  · exact List.mem_of_find?_eq_some hendless
  · exact List.mem_of_find?_eq_some htype
  · exact List.mem_of_head? hfirst

/-- A finding tells of a violation. -/
theorem check_eq_some {lowered payload : Json} {finding : Finding}
    (h : schema.check lowered payload = some finding) :
    ∃ violation ∈ Draft7.violations schema.library lowered payload,
      finding = schema.describe payload violation := by
  obtain ⟨violation, hviolation, rfl⟩ := Option.map_eq_some_iff.1 h
  exact ⟨violation, mem_of_mostTelling? hviolation, rfl⟩

theorem violations_of_check_eq_none {lowered payload : Json}
    (h : schema.check lowered payload = none) :
    Draft7.violations schema.library lowered payload = [] := by
  have hnone := Option.map_eq_none_iff.1 h
  unfold mostTelling? at hnone
  exact List.head?_eq_none_iff.1 (Option.or_eq_none_iff.1 hnone).2

/-! ## Merged items -/

/-- On the way to a finding in a merged item there is a condition that holds there and did not hold
of the item. -/
def ComesToAsk (schema : Schema) (item merged : Json) (path : Path) (words : List String) : Prop :=
  ComesToHold schema.library schema.full schema.library.room
    (schema.library.outermost schema.full) schema.full .root item merged path words

/-- Where a merged item lacks a required name, the object is written whole or a condition for the
name comes to hold. -/
theorem place_of_required {item : Record Json} {leaves : List (Path × Json)}
    {violation : Violation} (hitem : (Json.object item).isProper = true)
    (hleaves : ∀ leaf ∈ leaves, leaf.2.isProper = true)
    (hvalid : Draft7.violations schema.library schema.full (.object item) = [])
    (hviolation : violation ∈ Draft7.violations schema.library schema.full
      (.object (Tree.insertAll item leaves)))
    (hends : violation.isEndless = false)
    (hrequired : violation.place.schemaPath.getLast? = some "required") :
    ∃ path found, violation.place.location = path.map Step.word ∧
      (Json.object (Tree.insertAll item leaves)).walk? path = some found ∧
      (schema.ComesToAsk (.object item) (.object (Tree.insertAll item leaves)) path
          violation.place.schemaPath ∨ Tree.WritesWhole item leaves path) := by
  obtain ⟨path, words, hplace, hreaches⟩ := Draft7.reaches_of_mem hends hviolation
  have hmerged := Tree.isProper_insertAll hitem hleaves
  obtain ⟨found, hfound⟩ := hreaches.walk? hmerged
  rw [hplace] at hrequired ⊢
  refine ⟨path, found, rfl, hfound, ?_⟩
  by_cases hwritten : Tree.WritesWhole item leaves path
  · exact .inr hwritten
  -- else the item had the object, which kept its names
  obtain ⟨hobject, hbeside⟩ := not_or.1 hwritten
  obtain ⟨members, hmembers⟩ := not_forall_not.1 hobject
  have hkeeps : Json.Keeps (.object item) (.object (Tree.insertAll item leaves)) path :=
    Tree.insertAll_keeps (fun leaf hleaf hstart => hbeside ⟨leaf, hleaf, hstart⟩) hmembers hfound
  rcases hreaches.refused_or_comesToHold hmerged (.inr hrequired) hkeeps with
    ⟨other, hother⟩ | hholds
  · -- so it lacked the required one as well
    have hmem : other ∈ Draft7.violations schema.library schema.full (.object item) := hother
    rw [hvalid] at hmem
    cases hmem
  · exact .inl hholds

/-- If a valid item lacks a required name after data are merged into it, then an object was written
whole, or a condition for the name came to hold. The finding's path leads to that object. -/
theorem validate_insertAll_required {item data : Record Json} {finding : Finding}
    (hitem : (Json.object item).isProper = true) (hdata : (Json.object data).isProper = true)
    (hvalid : schema.validate (.object item) = none)
    (hfound : schema.validate (.object (Tree.insertAll item (Tree.flatten data))) = some finding)
    (hkind : finding.kind = .required) :
    let merged := Json.object (Tree.insertAll item (Tree.flatten data))
    ∃ violation ∈ Draft7.violations schema.library schema.full merged, ∃ path found,
      violation.place.schemaPath.getLast? = some "required" ∧
        finding.path = path.map Step.word ∧ violation.place.location = finding.path ∧
        merged.walk? path = some found ∧
        (schema.ComesToAsk (.object item) merged path violation.place.schemaPath ∨
          Tree.WritesWhole item (Tree.flatten data) path) := by
  intro merged
  obtain ⟨violation, hviolation, rfl⟩ := check_eq_some hfound
  obtain ⟨hends, hrequired, hpath⟩ := describe_required hkind
  obtain ⟨path, found, hlocation, hwalk, hplace⟩ := place_of_required hitem
    (fun leaf => Tree.isProper_of_mem_flatten hdata) (violations_of_check_eq_none hvalid)
    hviolation hends hrequired
  exact ⟨violation, hviolation, path, found, hrequired, hpath.trans hlocation, hpath.symm, hwalk,
    hplace⟩

/-- A schema with a required name inside a box, and one on the condition that the box is sent. -/
def boxSchema : Schema :=
  let sent : Json := .object [("properties", .object [("sent", .object [("const", .bool true)])])]
  let box : Json := .object
    [("type", .string "object"),
      ("properties", .object [("size", .object [("type", .string "integer")])]),
      ("required", .strings ["size"])]
  let document : Json := .object
    [("type", .string "object"),
      ("properties", .object [("id", .object [("type", .string "string")]), ("box", box)]),
      ("if", sent), ("then", .object [("required", .strings ["date"])]),
      ("default", .strings ["id"])]
  .lowered .pointers document

/-- A table of boxes. -/
def boxTable : Table := ⟨"T", "P-T", .simple "id", .ofSchema boxSchema⟩

/-- A box that was not sent. -/
def box : Record Json :=
  [("id", .string "a"), ("box", .object [("size", .ofInt 1)]), ("sent", .bool false)]

/-- An empty map is a leaf, and is written over the box. -/
def emptyBox : Record Json := [("box", .object [])]

/-- A sent box needs a date. -/
def sentBox : Record Json := [("sent", .bool true)]

theorem validate_insertAll_required_emptyBox :
    let merged := Json.object (Tree.insertAll box (Tree.flatten emptyBox))
    (Json.object box).isProper = true ∧ (Json.object emptyBox).isProper = true ∧
      boxSchema.validate (.object box) = none ∧ ∃ finding,
        boxSchema.validate merged = some finding ∧ finding.kind = .required ∧
        ∃ violation ∈ Draft7.violations boxSchema.library boxSchema.full merged, ∃ path found,
          violation.place.schemaPath.getLast? = some "required" ∧
            finding.path = path.map Step.word ∧ violation.place.location = finding.path ∧
            merged.walk? path = some found ∧
            (boxSchema.ComesToAsk (.object box) merged path violation.place.schemaPath ∨
              Tree.WritesWhole box (Tree.flatten emptyBox) path) := by
  intro merged
  have hitem : (Json.object box).isProper = true := by decide +kernel
  have hdata : (Json.object emptyBox).isProper = true := by decide +kernel
  have hvalid : boxSchema.validate (.object box) = none := by rfl
  have hkind : (boxSchema.validate merged).map (·.kind) = some .required := by rfl
  obtain ⟨finding, hfound, hkind⟩ := Option.map_eq_some_iff.1 hkind
  exact ⟨hitem, hdata, hvalid, finding, hfound, hkind,
    validate_insertAll_required hitem hdata hvalid hfound hkind⟩

/-- Updates that a table accepts take a required name from a valid item. -/
theorem boxTable_loses_required :
    Schema.ofDocument? boxSchema.document = some boxSchema ∧
      boxTable.checkItem box = .ok () ∧
      ∀ data ∈ [emptyBox, sentBox], boxTable.checkData data = .ok () ∧
        ∃ finding, boxSchema.validate (.object (Tree.insertAll box (Tree.flatten data))) =
          some finding ∧ finding.kind = .required := by
  have hschema : Schema.ofDocument? boxSchema.document = some boxSchema :=
    ofDocument?_of_isComplete (by decide +kernel)
  have hempty : (boxSchema.validate (.object (Tree.insertAll box (Tree.flatten emptyBox)))).map
      (·.kind) = some .required := by rfl
  have hsent : (boxSchema.validate (.object (Tree.insertAll box (Tree.flatten sentBox)))).map
      (·.kind) = some .required := by rfl
  refine ⟨hschema, by rfl, List.forall_mem_cons.2 ⟨⟨by rfl, Option.map_eq_some_iff.1 hempty⟩, ?_⟩⟩
  exact List.forall_mem_singleton.2 ⟨by rfl, Option.map_eq_some_iff.1 hsent⟩

end Schema

end ItemTable
