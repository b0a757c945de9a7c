import ItemTable.Proofs.Schema.Nodes
import ItemTable.Proofs.Schema.Required

set_option autoImplicit false

/-! # Removals keep what is required

Paths that a table accepts for a removal do not overlap, and none of them leads to a key attribute
or to a name that the object at its place has to have (`Table.checkRemoval_eq_ok_iff`). The table
looks that up in the document, and a validation asks the full copy. In a plain document both come to
the same nodes, so a valid item has all required names after the removal
(`Table.removal_keeps_required`). They part where a reference leads into a list of types in which
something repeats, since lowering drops it (`Table.listedTable_loses_required`). -/

namespace ItemTable

namespace Schema

open Draft7 (Library Passes Reaches Refused Scope required_of_append)
open Json (IsCopy Inert)

section

variable {schema : Schema} {library : Library} {root node copy new old value : Json} {scope : Scope}
  {place : Draft7.Place} {steps path : Path} {words : List String} {paths : List Path} {room : Nat}

/-- All that an inert schema asks for is a type. -/
theorem keyword_of_inert {members : Record Json} {keyword : String} {argument : Json}
    (hinert : Inert (.object members))
    (hasks : Draft7.Asks scope.dialect members keyword argument) :
    keyword = "type" := by
  cases hinert with
  | typed text => exact (Prod.mk.inj (List.mem_singleton.1 hasks.mem)).1
  | plain hobject => cases hobject

/-- Nothing is required by what is inert. -/
theorem not_reaches_of_inert (hinert : Inert copy)
    (hlast : words = [] ∨ words.getLast? = some "required") :
    ¬ Reaches library root room scope copy place value steps words := by
  intro h
  cases h with
  | here hown =>
    cases hown with
    | never =>
      cases hinert with
      | plain _ hnever => exact hnever rfl
    | keyword hasks hfinds =>
      cases hfinds with
      | lacking => exact absurd (keyword_of_inert hinert hasks) (by decide)
      | other hne => simp [hne] at hlast
  | onward hpasses _ _ =>
    cases hpasses with
    | reference href =>
      cases hinert with
      | typed text => simp [Record.get?] at href
      | plain hobject => cases hobject
    | keyword hasks hhands =>
      have hkeyword := keyword_of_inert hinert hasks
      cases hhands <;> exact absurd hkeyword (by decide)

/-- What a look-up finds required at the path of a node is what the node's copy requires. -/
theorem mem_requiredAt {xs ls : Record Json} {argument : Json} {name : String}
    (hcopy : IsCopy (.object xs) (.object ls)) (hxs : xs.names.Nodup)
    (hreference : reference? (.object xs) = none)
    (hat : schema.nodeAt? path = schema.resolve? (.object xs))
    (hargument : ls.get? "required" = some argument) (hname : name ∈ argument.stringElements) :
    name ∈ schema.requiredAt path := by
  have hrel : Option.Rel IsCopy (xs.get? "required") (ls.get? "required") :=
    hcopy.rel hxs (by decide)
  rw [hargument] at hrel
  generalize hget : xs.get? "required" = found at hrel
  cases hrel with
  | some hcopy' =>
    rw [hcopy'.stringElements_eq] at hname
    rw [requiredAt, hat, resolve?_of_no_reference hreference, Option.bind_some, Json.member?, hget]
    exact hname

/-- A path that is taken away ends in a name that its object has to have. -/
def TakesRequired (schema : Schema) (path : Path) (paths : List Path) : Prop :=
  ∃ above name, above ++ [.key name] ∈ paths ∧ name ∈ schema.requiredAt (path ++ above)

/-- A copy that lacks a name of what is left lacked it before, or the name was taken away. -/
theorem refused_of_lacking {ls present : Record Json} {argument : Json} {name : String}
    (hasks : Draft7.Asks scope.dialect ls "required" argument)
    (hname : name ∈ argument.stringElements) (hlacks : present.contains name = false)
    (hnode : node.isProper = true) (hcopy : IsCopy node (.object ls))
    (hat : schema.nodeAt? path = schema.resolve? node) (hnew : .object present = old.without paths) :
    Refused library root (room + 1) scope (.object ls) old ∨ TakesRequired schema path paths := by
  obtain ⟨xs, rfl⟩ := hcopy.eq_object
  obtain ⟨members, rfl, rfl⟩ := Json.without_eq_object hnew.symm
  have hxs := (Json.isProper_object.1 hnode).1
  by_cases hthere : Record.contains members name = true
  · -- the object had the name, so a path takes it away
    have htaken : [.key name] ∈ paths := by
      by_contra hkept
      obtain ⟨value, hvalue⟩ := Record.mem_names_iff.1 (Record.contains_eq_true_iff.1 hthere)
      have hleft := Json.get?_membersWithout paths members name
      rw [if_neg hkept, hvalue, Option.map_some] at hleft
      have hcontains := Record.contains_eq_true_iff.2 (Record.mem_names_iff.2 ⟨_, hleft⟩)
      rw [hlacks] at hcontains
      cases hcontains
    have hreference := reference?_eq_none_of_asks hcopy hxs hasks
    have hargument := Record.get?_eq_some_of_mem (hcopy.nodup_names hxs) hasks.mem
    refine .inr ⟨[], name, htaken, ?_⟩
    rw [List.append_nil]
    exact mem_requiredAt hcopy hxs hreference hat hargument hname
  · exact .inl (Draft7.refused_of_lacking hasks hname (Bool.eq_false_iff.2 hthere))

/-- The copy of a node refuses what is left of a value only if it refused the value already, or if a
required name was taken away. -/
def IsBacked (schema : Schema) (room : Nat) (scope : Scope) (copy left : Json) : Prop :=
  ∀ (node old : Json) (path : Path) (paths : List Path), Node schema.document node →
    IsCopy node copy → schema.nodeAt? path = schema.resolve? node → old.isProper = true →
    left = old.without paths →
    Refused schema.library schema.full room scope copy old ∨ TakesRequired schema path paths

/-- A reference leads the check and the look-up to the same node. -/
theorem IsBacked.reference (hdocument : schema.document.isProper = true)
    (hschema : schema = lowered .pointers schema.document) (hplain : IsPlain schema.document)
    (htypes : AvoidsRepeatedTypes schema.document) {members : Record Json} {target : Json}
    {reference : String} {there : Scope} (href : members.get? "$ref" = some (.string reference))
    (htarget : schema.library.resolve? schema.full scope.base reference = some (target, there))
    (hinert : ¬ Inert target) (h : IsBacked schema room there target value) :
    IsBacked schema (room + 1) scope (.object members) value := by
  intro node old path paths hnode hcopy hat hold hleft
  have hpasses : Passes schema.library schema.full scope (.object members) old .always [] ["$ref"]
    there target old := .reference href htarget
  obtain ⟨xs, rfl⟩ := hcopy.eq_object
  have hxs := (Json.isProper_object.1 (hnode.isProper hdocument)).1
  have hreference := (get?_reference hcopy hxs).1 href
  obtain ⟨segments, hsegments, hindexes⟩ := hplain.pointers hnode hreference
  rw [hschema] at htarget
  obtain ⟨found, hfound, hsame⟩ := Option.map_eq_some_iff.1 htarget
  cases hsame
  obtain ⟨original, horiginal, hcopy'⟩ := (resolve?_of_copy hdocument hsegments hindexes
    (htypes hnode hreference hsegments) hfound).resolve_left hinert
  have hat' := hat.trans (resolve?_of_reference (hplain.chains hnode) hreference horiginal)
  exact (h original old path paths (.target hnode hreference horiginal) hcopy' hat' hold
    hleft).imp_left (.of_passes hpasses)

/-- So does a keyword that hands on what is left of a value. -/
theorem IsBacked.keyword (hdocument : schema.document.isProper = true)
    (hplain : IsPlain schema.document) {members : Record Json} {argument next part : Json}
    {keyword : String} {needs : Draft7.Need}
    (hasks : Draft7.Asks scope.dialect members keyword argument)
    (hhands : Draft7.Hands members value keyword argument needs steps words next part)
    (hwords : words ≠ ["propertyNames"]) (hinert : ¬ Inert next)
    (h : IsBacked schema room (schema.library.within scope next) next part) :
    IsBacked schema (room + 1) scope (.object members) value := by
  intro node old path paths hnode hcopy hat hold hleft
  subst hleft
  obtain ⟨xs, rfl⟩ := hcopy.eq_object
  have hproper := hnode.isProper hdocument
  have hxs := (Json.isProper_object.1 hproper).1
  have hreference := reference?_eq_none_of_asks hcopy hxs hasks
  have hargument := Record.get?_eq_some_of_mem (hcopy.nodup_names hxs) hasks.mem
  obtain ⟨step, before, hbefore, rfl, hhands', hnext⟩ := (Hands.back hcopy hproper
    (hplain.keywords hnode hreference) (fun _ => hplain.items hnode hreference) hargument hold
    hhands).resolve_left hwords
  obtain ⟨child, hchild, hcopy'⟩ := hnext.resolve_left hinert
  rcases h child before _ _ (.child hnode hreference hchild) hcopy'
    (nodeAt?_child hreference hat hchild) (Json.isProper_of_child? hold hbefore) rfl with
    hrefused | ⟨above, name, htaken, hrequired⟩
  · exact .inl (hrefused.of_passes (.keyword hasks hhands'))
  · refine .inr ⟨step :: above, name, Path.mem_below.1 htaken, ?_⟩
    rwa [List.append_assoc] at hrequired

/-- If a way to a required name leads through what is left of a value, the value was refused
already, or a required name was taken away. -/
theorem isBacked_of_reaches (hdocument : schema.document.isProper = true)
    (hschema : schema = lowered .pointers schema.document) (hplain : IsPlain schema.document)
    (htypes : AvoidsRepeatedTypes schema.document)
    (h : Reaches schema.library schema.full room scope copy place value steps words)
    (hlast : words = [] ∨ words.getLast? = some "required") :
    IsBacked schema room scope copy value := by
  -- on the way: each step was there before the removal, and leads the look-up to the same node
  induction h with
  | here hown =>
    intro node old path paths hnode hcopy hat hold hleft
    cases hown with
    | never => exact .inl fun place => ⟨_, List.mem_singleton.2 rfl⟩
    | keyword hasks hfinds =>
      cases hfinds with
      | other hne => simp [hne] at hlast
      | lacking hname hlacks =>
        exact refused_of_lacking hasks hname hlacks (hnode.isProper hdocument) hcopy hat hleft
  | @onward _ _ _ _ _ _ _ _ _ _ _ words words' hpasses _ hreaches ih =>
    have hlast' := required_of_append hlast
    have hinert := fun hinert => not_reaches_of_inert hinert hlast' hreaches
    have hwords := hpasses.not_through_names hreaches hlast
    cases hpasses with
    | reference href htarget =>
      exact (ih hlast').reference hdocument hschema hplain htypes href htarget hinert
    | keyword hasks hhands =>
      exact (ih hlast').keyword hdocument hplain hasks hhands hwords hinert

end

end Schema

namespace Table

section

variable {table : Table} {path : Path} {others paths : List Path}

/-! ## Paths that are accepted -/

theorem removalFinding?_eq_none_iff : table.removalFinding? path others = none ↔
    (∀ other ∈ others, path.conflicts other = false) ∧
      ∀ name, path.lastKey? = some name → table.requires path.parent name = false := by
  unfold removalFinding?
  split
  · next other hother =>
    have hconflicts := List.find?_some hother
    constructor
    · intro h
      cases h
    · rintro ⟨hfree, -⟩
      rw [hfree other (List.mem_of_find?_eq_some hother)] at hconflicts
      cases hconflicts
  · next hnone =>
    have hfree : ∀ other ∈ others, path.conflicts other = false := by
      simpa using List.find?_eq_none.1 hnone
    rw [and_iff_right hfree]
    split
    · next hlast => simp [hlast]
    · next name hlast =>
      cases hrequires : table.requires path.parent name with
      | true => simp [hlast, hrequires]
      | false => simp [hlast, hrequires]

/-- Paths are accepted if no two of them overlap and none leads to a name that its object has to
have. -/
theorem checkRemoval_eq_ok_iff : table.checkRemoval paths = .ok () ↔
    paths.Pairwise (fun path other => path.conflicts other = false) ∧
      ∀ path ∈ paths, ∀ name, path.lastKey? = some name →
        table.requires path.parent name = false := by
  induction paths with
  | nil => simp [checkRemoval]
  | cons path rest ih =>
    have hfirst : table.removalFinding? path rest = none ↔ _ := removalFinding?_eq_none_iff
    rw [checkRemoval, List.pairwise_cons, List.forall_mem_cons, and_and_and_comm, ← hfirst]
    cases table.removalFinding? path rest with
    | none =>
      rw [and_iff_right rfl]
      exact ih
    | some finding =>
      constructor
      · intro h
        cases h
      · rintro ⟨hnone, -⟩
        cases hnone

/-- Paths that are not accepted are rejected with a finding. -/
theorem checkRemoval_cases (table : Table) (paths : List Path) :
    table.checkRemoval paths = .ok () ∨
      ∃ finding, table.checkRemoval paths = .error (.validation table.name .remove finding) := by
  induction paths with
  | nil => exact .inl rfl
  | cons path rest ih =>
    rw [checkRemoval]
    cases table.removalFinding? path rest with
    | none => exact ih
    | some finding => exact .inr ⟨finding, rfl⟩

/-- A path to a key attribute is never accepted. -/
theorem not_accepted_of_key {name : String} (hname : name ∈ table.shape.names)
    (hpath : [.key name] ∈ paths) : table.checkRemoval paths ≠ .ok () := by
  intro h
  have hfree := (checkRemoval_eq_ok_iff.1 h).2 _ hpath name rfl
  simp [requires, Path.parent, hname] at hfree

end

/-! ## What is left of a valid item -/

/-- Where accepted paths are taken from a valid item, nothing that is left lacks a required name. -/
theorem left_keeps_required {schema : Schema} {table : Table} {item : Record Json}
    {paths : List Path} {finding : Finding} (hdocument : schema.document.isProper = true)
    (hschema : schema = .lowered .pointers schema.document)
    (hplain : Schema.IsPlain schema.document) (htypes : Schema.AvoidsRepeatedTypes schema.document)
    (hrules : table.rules = .ofSchema schema) (hitem : (Json.object item).isProper = true)
    (hvalid : schema.validate (.object item) = none) (hpaths : table.checkRemoval paths = .ok ())
    (hfinding : schema.validate ((Json.object item).without paths) = some finding) :
    finding.kind ≠ .required := by
  intro hkind
  obtain ⟨violation, hviolation, rfl⟩ := Schema.check_eq_some hfinding
  obtain ⟨hends, hlast, -⟩ := Schema.describe_required hkind
  obtain ⟨steps, words, hplace, hreaches⟩ := Draft7.reaches_of_mem hends hviolation
  rw [hplace] at hlast
  have hroot : schema.nodeAt? [] = schema.resolve? schema.document := by
    simp [Schema.nodeAt?, Schema.descend?]
  have hcopy : Json.IsCopy schema.document schema.full := by
    rw [hschema]
    exact Json.isCopy_lower schema.document
  rcases Schema.isBacked_of_reaches hdocument hschema hplain htypes hreaches (.inr hlast) _ _ _
    paths .root hcopy hroot hitem rfl with hrefused | ⟨above, name, htaken, hrequired⟩
  · -- the item was refused already
    obtain ⟨v, hv⟩ := hrefused .root
    have hmem : v ∈ Draft7.violations schema.library schema.full (.object item) := hv
    rw [Schema.violations_of_check_eq_none hvalid] at hmem
    cases hmem
  · -- the table does not accept a path to a required name
    have hlastKey : Path.lastKey? (above ++ [.key name]) = some name := by
      simp [Path.lastKey?, Step.key?]
    have hfree := (checkRemoval_eq_ok_iff.1 hpaths).2 _ htaken name hlastKey
    rw [List.nil_append] at hrequired
    have hrequired' : name ∈ table.rules.requiredAt above := by
      rw [hrules]
      exact hrequired
    simp [requires, Path.parent, hrequired'] at hfree

/-- Accepted paths leave a valid item all required names and all key attributes; paths that overlap
or lead to a key attribute are rejected. -/
theorem removal_keeps_required {document : Json} {schema : Schema} {table : Table}
    (hschema : Schema.ofDocument? document = some schema)
    (hrules : table.rules = .ofSchema schema) (hdocument : document.isProper = true)
    (hplain : Schema.IsPlain document) (htypes : Schema.AvoidsRepeatedTypes document) :
    (∀ (item : Record Json) (paths : List Path), (Json.object item).isProper = true →
      schema.validate (.object item) = none → table.checkRemoval paths = .ok () →
      let left := Json.membersWithout paths item
      (∀ finding, schema.validate (.object left) = some finding → finding.kind ≠ .required) ∧
        ∀ name ∈ table.shape.names, Record.contains item name = true →
          Record.contains left name = true) ∧
      ∀ paths : List Path,
        (¬ paths.Pairwise (fun path other => path.conflicts other = false) ∨
          ∃ name ∈ table.shape.names, [.key name] ∈ paths) →
        ∃ finding, table.checkRemoval paths = .error (.validation table.name .remove finding) := by
  obtain ⟨rfl, -, -⟩ := Schema.build?_eq_some hschema
  refine ⟨?_, ?_⟩
  · intro item paths hitem hvalid hpaths
    refine ⟨fun finding hfinding => left_keeps_required hdocument rfl hplain htypes hrules hitem
      hvalid hpaths hfinding, fun name hname hcontains => ?_⟩
    obtain ⟨value, hvalue⟩ := Record.mem_names_iff.1 (Record.contains_eq_true_iff.1 hcontains)
    have hkept : [.key name] ∉ paths := fun hpath => not_accepted_of_key hname hpath hpaths
    have hleft := Json.get?_membersWithout paths item name
    rw [if_neg hkept, hvalue] at hleft
    exact Record.contains_eq_true_iff.2 (Record.mem_names_iff.2 ⟨_, hleft⟩)
  · intro paths hrejected
    refine (checkRemoval_cases table paths).resolve_left fun hpaths => ?_
    rcases hrejected with hoverlap | ⟨name, hname, hpath⟩
    · exact hoverlap (checkRemoval_eq_ok_iff.1 hpaths).1
    · exact not_accepted_of_key hname hpath hpaths

/-- A schema of parcels: all members but the identity are boxes with a size, and perhaps tags. -/
def parcelSchema : Schema :=
  let box : Json := .object
    [("type", .string "object"),
      ("properties", .object [("size", .object [("type", .string "integer")]),
        ("tags", .object [("type", .string "array"),
          ("items", .object [("type", .string "string")])])]),
      ("required", .strings ["size"])]
  let document : Json := .object
    [("type", .string "object"),
      ("properties", .object [("id", .object [("type", .string "string")])]),
      ("additionalProperties", .object [("$ref", .string "#/definitions/box")]),
      ("definitions", .object [("box", box)]), ("default", .strings ["id"])]
  .lowered .pointers document

/-- A table of parcels. -/
def parcelTable : Table := ⟨"T", "P-T", .simple "id", .ofSchema parcelSchema⟩

/-- A parcel of one box. -/
def parcel : Record Json :=
  [("id", .string "a"),
    ("box", .object [("size", .ofInt 1), ("tags", .strings ["x", "y"])])]

/-- A parcel's box loses a tag; neither its size nor the parcel's identity can be taken. -/
theorem removal_keeps_required_parcel :
    let tag : List Path := [[.key "box", .key "tags", .position 0]]
    let left := Json.membersWithout tag parcel
    Schema.ofDocument? parcelSchema.document = some parcelSchema ∧
      parcelSchema.document.isProper = true ∧ Schema.IsPlain parcelSchema.document ∧
      Schema.AvoidsRepeatedTypes parcelSchema.document ∧ (Json.object parcel).isProper = true ∧
      parcelSchema.validate (.object parcel) = none ∧ parcelTable.checkRemoval tag = .ok () ∧
      (∀ finding, parcelSchema.validate (.object left) = some finding →
        finding.kind ≠ .required) ∧
      Record.contains left "id" = true ∧
      ∃ finding, parcelTable.checkRemoval [[.key "id"]] =
        .error (.validation "T" .remove finding) := by
  intro tag left
  have hschema : Schema.ofDocument? parcelSchema.document = some parcelSchema :=
    Schema.ofDocument?_of_isComplete (by decide +kernel)
  have hdocument : parcelSchema.document.isProper = true := by decide +kernel
  have hplain : Schema.IsPlain parcelSchema.document :=
    Schema.isPlain_of_everyNode 8 (by decide +kernel)
  have htypes : Schema.AvoidsRepeatedTypes parcelSchema.document :=
    Schema.avoidsRepeatedTypes_of_everyNode 8 (by decide +kernel)
  have hitem : (Json.object parcel).isProper = true := by decide +kernel
  have hvalid : parcelSchema.validate (.object parcel) = none := by rfl
  have htag : parcelTable.checkRemoval tag = .ok () := by rfl
  obtain ⟨hkept, hrejected⟩ :=
    @removal_keeps_required _ _ parcelTable hschema rfl hdocument hplain htypes
  obtain ⟨hrequired, hkeys⟩ := hkept parcel tag hitem hvalid htag
  exact ⟨hschema, hdocument, hplain, htypes, hitem, hvalid, htag, hrequired,
    hkeys "id" (by decide) (by decide), hrejected _ (.inr ⟨"id", by decide, by decide⟩)⟩

/-- A schema with a reference into a list of types: the third of them is the empty schema, but the
names before it are checked as one, and so the copy's third asks for `a`. -/
def listedSchema : Schema :=
  let types : Json := .array
    [.string "string", .string "bytes", .object [], .object [("required", .strings ["a"])]]
  let document : Json := .object
    [("type", .string "object"),
      ("properties", .object [("id", .object [("type", .string "string")]),
        ("box", .object [("$ref", .string "#/x/type/2")])]),
      ("x", .object [("type", types)]), ("default", .strings ["id"])]
  .lowered .pointers document

/-- A table whose boxes are looked up in the list of types. -/
def listedTable : Table := ⟨"T", "P-T", .simple "id", .ofSchema listedSchema⟩

/-- An item whose box has what the copy asks for. -/
def listedItem : Record Json := [("id", .string "1"), ("box", .object [("a", .ofInt 1)])]

/-- The table accepts a path whose removal leaves the item without a required name. -/
theorem listedTable_loses_required :
    let paths : List Path := [[.key "box", .key "a"]]
    Schema.ofDocument? listedSchema.document = some listedSchema ∧
      listedSchema.document.isProper = true ∧ Schema.IsPlain listedSchema.document ∧
      (Json.object listedItem).isProper = true ∧
      listedSchema.validate (.object listedItem) = none ∧
      listedTable.checkRemoval paths = .ok () ∧
      ∃ finding, listedSchema.validate (.object (Json.membersWithout paths listedItem)) =
        some finding ∧ finding.kind = .required := by
  intro paths
  have hschema : Schema.ofDocument? listedSchema.document = some listedSchema :=
    Schema.ofDocument?_of_isComplete (by decide +kernel)
  have hplain : Schema.IsPlain listedSchema.document :=
    Schema.isPlain_of_everyNode 8 (by decide +kernel)
  have hkind : (listedSchema.validate (.object (Json.membersWithout paths listedItem))).map
      (·.kind) = some .required := by rfl
  exact ⟨hschema, by decide +kernel, hplain, by decide +kernel, by rfl, by rfl,
    Option.map_eq_some_iff.1 hkind⟩

end Table

end ItemTable
