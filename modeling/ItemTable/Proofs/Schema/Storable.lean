import ItemTable.Proofs.Schema.Aligned
import ItemTable.Proofs.Schema.Required

set_option autoImplicit false

/-! # Which valid items can be stored

Where a store type is declared, the check of an item asks for the JSON type that spells it: a string
for a byte string, and an array of strings or of numbers for a set. In an aligned document it asks
so of each part that is in no set (`Schema.atPlaces_fits`). The store asks for more: the text of a
byte string has to be base64, and a set has to have members. A valid item is stored exactly if it
holds to that (`Schema.storeItem_of_validate`). Nothing checks it before, so a valid item may be one
that cannot be stored (`Schema.coverSchema_cannot_store`). -/

namespace ItemTable

open Traversal (exists_mapM_iff exists_map_eq_ok_iff)

namespace Json

/-- Whether a value is a text in base64. -/
def isBase64 : Json → Bool
  | .string text => (Base64.decode text).isOk
  | _ => false

end Json

namespace StoreType

/-- Whether a value has the JSON type that spells a store type, and so have the elements if it is a
set. -/
def fits (declared : StoreType) (value : Json) : Bool :=
  Draft7.isOfType .seven value declared.base &&
    declared.member?.all fun member =>
      (value.array?.getD []).all (Draft7.isOfType .seven · member)

/-- Whether a value that fits spells a value of the store type: the texts of byte strings are
base64, and a set has members. -/
def holds : StoreType → Json → Bool
  | .bytes, value => value.isBase64
  | .bytesSet, .array elements => !elements.isEmpty && elements.all Json.isBase64
  | _, .array elements => !elements.isEmpty
  | _, _ => false

end StoreType

/-! ## Sets and byte strings that can be made -/

namespace StoreValue

theorem exists_byteStringMember_iff {x : Json} :
    (∃ bytes, byteStringMember x = .ok bytes) ↔ x.isBase64 = true := by
  cases x with
  | string text =>
    simp only [byteStringMember, bytesOfText, Json.isBase64]
    cases Base64.decode text with
    | ok bytes => simp [Except.isOk, Except.toBool]
    | error e => simp [Except.isOk, Except.toBool]
  | _ => simp [byteStringMember, Json.isBase64]

theorem exists_binary_iff {text : String} :
    (∃ stored, binaryOfText text = .ok stored) ↔ (Json.string text).isBase64 = true := by
  rw [binaryOfText, exists_map_eq_ok_iff]
  exact @exists_byteStringMember_iff (.string text)

/-- A set of byte strings is made of one or more texts in base64. -/
theorem exists_binarySet_iff {elements : List Json} :
    (∃ stored, binarySetOfJson (.array elements) = .ok stored) ↔
      StoreType.bytesSet.holds (.array elements) = true := by
  cases elements with
  | nil => simp [binarySetOfJson, StoreType.holds]
  | cons x xs =>
    rw [binarySetOfJson, exists_map_eq_ok_iff, exists_mapM_iff]
    simp only [exists_byteStringMember_iff, StoreType.holds, List.isEmpty_cons, Bool.not_false,
      Bool.true_and, List.all_eq_true]

/-- A set is made of any strings, if there are some. -/
theorem exists_set_of_strings {elements : List Json}
    (hstrings : ∀ x ∈ elements, ∃ text, x = Json.string text) :
    (∃ stored, setOfJson (.array elements) = .ok stored) ↔ elements.isEmpty = false := by
  cases elements with
  | nil => simp [setOfJson]
  | cons x xs =>
    obtain ⟨text, rfl⟩ := hstrings x (.head _)
    rw [setOfJson, exists_map_eq_ok_iff, exists_mapM_iff]
    refine iff_of_true (fun y hy => ?_) rfl
    obtain ⟨other, rfl⟩ := hstrings y hy
    exact ⟨other, rfl⟩

/-- A set is made of any numbers, if there are some. -/
theorem exists_set_of_numbers {elements : List Json}
    (hnumbers : ∀ x ∈ elements, ∃ n, x = Json.number n) :
    (∃ stored, setOfJson (.array elements) = .ok stored) ↔ elements.isEmpty = false := by
  cases elements with
  | nil => simp [setOfJson]
  | cons x xs =>
    obtain ⟨n, rfl⟩ := hnumbers x (.head _)
    rw [setOfJson, exists_map_eq_ok_iff, exists_mapM_iff]
    refine iff_of_true (fun y hy => ?_) rfl
    obtain ⟨other, rfl⟩ := hnumbers y hy
    exact ⟨_, rfl⟩

end StoreValue

namespace Schema

variable {schema : Schema} {path : Path} {value : Json} {test : StoreType → Json → Bool}

/-! ## All places of a value -/

/-- Each part of the value at a path that is in no set passes a test by the store type that is
declared for it. -/
def AtPlaces (schema : Schema) (test : StoreType → Json → Bool) (path : Path) (value : Json) :
    Prop :=
  ∀ below part declared, value.walk? below = some part → schema.OutsideSets path value below →
    schema.typeAt? (path ++ below) = some declared → test declared part = true

/-- The value itself passes, and so do its parts if they are in no set. -/
theorem atPlaces_iff : schema.AtPlaces test path value ↔
    (∀ declared, schema.typeAt? path = some declared → test declared value = true) ∧
      ((∀ elements, value = .array elements → schema.setAt path = false) →
        ∀ step part, value.child? step = some part →
          schema.AtPlaces test (path ++ [step]) part) := by
  constructor
  · intro h
    constructor
    · intro declared hdeclared
      exact h [] value declared rfl outsideSets_nil (by rwa [List.append_nil])
    · intro hlists step part hpart below inner declared hwalk houtside hdeclared
      refine h (step :: below) inner declared ?_ ?_ ?_
      · rw [Json.walk?, hpart]
        exact hwalk
      · refine outsideSets_cons_iff.2 ⟨hlists, fun other hother => ?_⟩
        obtain rfl := Option.some.inj (hpart.symm.trans hother)
        exact houtside
      · rwa [List.append_assoc, List.singleton_append] at hdeclared
  · rintro ⟨hself, hparts⟩ below inner declared hwalk houtside hdeclared
    cases below with
    | nil =>
      obtain rfl := Option.some.inj hwalk
      rw [List.append_nil] at hdeclared
      exact hself declared hdeclared
    | cons step below =>
      obtain ⟨part, hpart, hwalk⟩ := Option.bind_eq_some_iff.1 hwalk
      obtain ⟨hlists, houtside⟩ := outsideSets_cons_iff.1 houtside
      refine hparts hlists step part hpart below inner declared hwalk (houtside part hpart) ?_
      rwa [List.append_assoc, List.singleton_append]

/-! ## One value -/

theorem elements_of_fits {declared : StoreType} {member : String} {elements : List Json}
    (hmember : declared.member? = some member) (h : declared.fits (.array elements) = true) :
    ∀ x ∈ elements, Draft7.isOfType .seven x member = true := by
  unfold StoreType.fits at h
  rw [hmember] at h
  exact List.all_eq_true.1 (Bool.and_eq_true_iff.1 h).2

/-- An array that fits is stored exactly if it spells the set that is declared. -/
theorem stores_set_iff {declared : StoreType} (hdeclared : schema.typeAt? path = some declared)
    {elements : List Json} (hfits : declared.fits (.array elements) = true) :
    schema.Stores path (.array elements) ↔ declared.holds (.array elements) = true := by
  unfold Stores
  cases declared with
  | bytes => cases hfits
  | stringSet =>
    rw [storeValue_plainSet (.inl hdeclared), StoreValue.exists_set_of_strings fun x hx =>
      Draft7.isOfType_string_iff.1 (elements_of_fits rfl hfits x hx)]
    simp [StoreType.holds]
  | numberSet =>
    rw [storeValue_plainSet (.inr hdeclared), StoreValue.exists_set_of_numbers fun x hx =>
      Draft7.isOfType_number_iff.1 (elements_of_fits rfl hfits x hx)]
    simp [StoreType.holds]
  | bytesSet =>
    rw [storeValue_bytesSet hdeclared]
    exact StoreValue.exists_binarySet_iff

/-- A text is stored exactly if it is base64 or no byte strings are declared. -/
theorem stores_text_iff {text : String} : schema.Stores path (.string text) ↔
    (schema.typeAt? path = some .bytes → (Json.string text).isBase64 = true) := by
  unfold Stores
  rw [storeValue_text]
  split
  · next hbytes => rw [StoreValue.exists_binary_iff, forall_prop_of_true hbytes]
  · next hbytes => exact iff_of_true ⟨_, rfl⟩ fun h => absurd h hbytes

/-- A value that fits the declared store type is stored exactly if it spells a value of it. -/
theorem stores_iff_of_fits {declared : StoreType} (hdeclared : schema.typeAt? path = some declared)
    (hfits : declared.fits value = true) :
    schema.Stores path value ↔ declared.holds value = true := by
  cases value with
  | array elements => exact stores_set_iff hdeclared hfits
  | string text =>
    cases declared with
    | bytes => rw [stores_text_iff, forall_prop_of_true hdeclared, StoreType.holds]
    | _ => cases hfits
  | _ => cases declared <;> cases hfits

/-- Where no store type is declared, a value is stored exactly if its parts are. -/
theorem stores_iff_parts (hvalue : value.isProper = true) (hnone : schema.typeAt? path = none) :
    schema.Stores path value ↔
      ∀ step part, value.child? step = some part → schema.Stores (path ++ [step]) part := by
  cases value with
  | string text =>
    rw [stores_text_iff, hnone]
    exact iff_of_true nofun fun step part hpart => by cases step <;> cases hpart
  | array elements =>
    rw [stores_array_iff (by rw [setAt, hnone]; rfl)]
    constructor
    · intro h step x hx
      cases step with
      | key => cases hx
      | position i => exact h i x hx
    · intro h i x hx
      exact h (.position i) x hx
  | object members =>
    rw [stores_object_iff]
    constructor
    · intro h step x hx
      cases step with
      | position => cases hx
      | key name => exact h (name, x) (Record.mem_of_get?_eq_some hx)
    · intro h m hm
      exact h (.key m.1) m.2 (Record.get?_eq_some_of_mem (Json.isProper_object.1 hvalue).1 hm)
  | _ => exact iff_of_true ⟨_, rfl⟩ fun step part hpart => by cases step <;> cases hpart

/-- A value that fits the declared store type has parts only if it is a set. -/
theorem setAt_of_fits {declared : StoreType} (hdeclared : schema.typeAt? path = some declared)
    (hfits : declared.fits value = true) {step : Step} {part : Json}
    (hpart : value.child? step = some part) :
    ∃ elements, value = .array elements ∧ schema.setAt path = true := by
  rw [setAt, hdeclared]
  cases value with
  | array elements =>
    refine ⟨elements, rfl, ?_⟩
    cases declared with
    | bytes => cases hfits
    | _ => rfl
  | object => cases declared <;> cases hfits
  | _ => cases step <;> cases hpart

/-- Where each part has the JSON type of its declared store type, a value is stored exactly if each
part spells a value of that store type. -/
theorem stores_iff_holds (hvalue : value.isProper = true)
    (hfits : schema.AtPlaces StoreType.fits path value) :
    schema.Stores path value ↔ schema.AtPlaces StoreType.holds path value := by
  induction value using Json.child_induction generalizing path with
  | step value ih =>
    obtain ⟨hself, hparts⟩ := atPlaces_iff.1 hfits
    rw [atPlaces_iff]
    cases htype : schema.typeAt? path with
    | some declared =>
      have hfit := hself declared htype
      rw [stores_iff_of_fits htype hfit]
      constructor
      · intro h
        refine ⟨fun other hother => ?_, fun hlists step part hpart => ?_⟩
        · rwa [← Option.some.inj hother]
        · obtain ⟨elements, helements, hset⟩ := setAt_of_fits htype hfit hpart
          rw [hlists elements helements] at hset
          cases hset
      · intro h
        exact h.1 declared rfl
    | none =>
      have hlists : ∀ elements, value = .array elements → schema.setAt path = false := by
        intro _ _
        rw [setAt, htype]
        rfl
      rw [stores_iff_parts hvalue htype, forall_prop_of_true hlists,
        and_iff_right fun _ h => absurd h.symm (Option.some_ne_none _)]
      refine forall₃_congr fun step part hpart => ?_
      exact ih step part hpart (Json.isProper_of_child? hvalue hpart)
        (hparts hlists step part hpart)

/-! ## What the check asks of declared types -/

open Draft7 (Asks Comes Dialect Library Scope)
open Json (IsCopy)

theorem nodeType?_eq_some {node : Json} {declared : StoreType}
    (h : nodeType? node = some declared) :
    ∃ xs name, node = .object xs ∧ Record.get? xs "type" = some (.string name) ∧
      StoreType.ofName? name = some declared := by
  obtain ⟨name, hname, hdeclared⟩ := Option.bind_eq_some_iff.1 h
  obtain ⟨type, htype, hstring⟩ := Option.bind_eq_some_iff.1 hname
  cases node with
  | object xs =>
    cases type with
    | string text =>
      cases hstring
      exact ⟨xs, name, rfl, htype, hdeclared⟩
    | _ => cases hstring
  | _ => cases htype

theorem isTypeName_of_ofName? {name : String} {declared : StoreType}
    (h : StoreType.ofName? name = some declared) : Draft7.isTypeName (.string name) = false := by
  unfold StoreType.ofName? at h
  split at h
  · decide
  · decide
  · decide
  · decide
  · cases h

/-- A copy that a check may come to has what the node's store type puts in. -/
theorem declaredMembers_of_isCopy {library : Library} {root : Json} {scope : Scope}
    {xs ls : Record Json} {name : String} {declared : StoreType} (hcareful : library.IsCareful)
    (haccepts : library.accepts root = true) (hcomes : Comes library root scope (.object ls))
    (hcopy : IsCopy (.object xs) (.object ls)) (hxs : xs.names.Nodup)
    (hdialect : scope.dialect ≠ .later)
    (hplain : ∀ reference, ls.get? "$ref" ≠ some (.string reference))
    (htype : xs.get? "type" = some (.string name))
    (hdeclared : StoreType.ofName? name = some declared) :
    ∀ m ∈ declared.declaredMembers name, ls.get? m.1 = some m.2 := by
  rcases hcopy with h | h
  · -- a name of a store type is no type of JSON
    cases h
    have hasks : Asks scope.dialect xs "type" (.string name) :=
      ⟨hplain, Record.mem_of_get?_eq_some htype, knows_of_ne_later hdialect (by decide)⟩
    have hname := hcareful.typed haccepts hcomes hasks
    rw [isTypeName_of_ofName? hdeclared] at hname
    cases hname
  · rw [Json.lower_object] at h
    cases h
    rintro ⟨other, x⟩ hm
    have hput : (StoreType.overrides true (xs.get? "type")).get? other = some x := by
      refine Record.get?_eq_some_of_mem (StoreType.nodup_names_overrides _ _) ?_
      rw [htype, StoreType.overrides, hdeclared]
      exact hm
    rw [Json.get?_lowered true hxs, hput, Option.some_or]

/-- What a store type puts into its node next to the name: its JSON type, and that of a set's
elements. -/
theorem mem_declaredMembers (declared : StoreType) (name : String) :
    ("type", Json.string declared.base) ∈ declared.declaredMembers name ∧
      ∀ member, declared.member? = some member →
        ("items", Json.object [("type", .string member)]) ∈ declared.declaredMembers name := by
  cases declared <;> simp [StoreType.declaredMembers, StoreType.member?, StoreType.marker]

/-- A value of the right types in some dialect fits. -/
theorem fits_of_types {dialect : Dialect} {declared : StoreType}
    (htyped : Draft7.isOfType dialect value declared.base = true)
    (helements : ∀ member, declared.member? = some member → ∀ elements, value = .array elements →
      ∀ x ∈ elements, Draft7.isOfType dialect x member = true) : declared.fits value = true := by
  have hbase : declared.base ≠ "integer" := by cases declared <;> decide
  unfold StoreType.fits
  rw [Bool.and_eq_true, Option.all_eq_true]
  rw [Draft7.isOfType_eq_seven dialect hbase] at htyped
  refine ⟨htyped, fun member hmember => List.all_eq_true.2 fun x hx => ?_⟩
  have hname : member ≠ "integer" := by
    rintro rfl
    cases declared <;> simp [StoreType.member?] at hmember
  rw [← Draft7.isOfType_eq_seven dialect hname]
  cases value with
  | array elements => exact helements member hmember elements rfl x hx
  | _ => cases hx

/-- If a value breaks nothing, its part at a node with a store type has the JSON type of that store
type. -/
theorem fits_of_checkedAt {node part : Json} {declared : StoreType}
    (hdocument : schema.document.isProper = true) (hcareful : schema.library.IsCareful)
    (haccepts : schema.library.accepts schema.full = true)
    (hchecked : CheckedAt schema value path node part) (hreference : reference? node = none)
    (hdeclared : nodeType? node = some declared)
    (hvalid : Draft7.violations schema.library schema.full value = []) :
    declared.fits part = true := by
  obtain @⟨scope, copy, hnode, hcopy, ⟨-, hdialect⟩, hleads⟩ := hchecked
  obtain ⟨xs, name, rfl, htype, hname⟩ := nodeType?_eq_some hdeclared
  obtain ⟨ls, rfl⟩ := exists_object_of_isCopy hcopy
  have hxs := (Json.isProper_object.1 (hnode.isProper hdocument)).1
  have hplain := plain_of_isCopy hcopy hxs hreference
  have hput := declaredMembers_of_isCopy hcareful haccepts (hleads.comes .start) hcopy hxs hdialect
    hplain htype hname
  obtain ⟨hbase, hmember⟩ := mem_declaredMembers declared name
  have htyped : Draft7.isOfType scope.dialect part declared.base = true :=
    hleads.isOfType
      ⟨hplain, Record.mem_of_get?_eq_some (hput _ hbase), knows_of_ne_later hdialect (by decide)⟩
      hvalid
  have helements : ∀ member, declared.member? = some member → ∀ elements, part = .array elements →
      ∀ x ∈ elements, Draft7.isOfType scope.dialect x member = true := by
    rintro member hsome elements rfl
    have hitems : Asks scope.dialect ls "items" (.object [("type", .string member)]) :=
      ⟨hplain, Record.mem_of_get?_eq_some (hput _ (hmember member hsome)),
        knows_of_ne_later hdialect (by decide)⟩
    exact hleads.isOfType_elements hitems (knows_of_ne_later hdialect (by decide)) hvalid
  exact fits_of_types htyped helements

/-- The check of an item asks the right JSON types at all of its places: valid items of an aligned
document have them. -/
theorem atPlaces_fits (hfull : schema.full = schema.document.lower true)
    (hcareful : schema.library.IsCareful) (haccepts : schema.library.accepts schema.full = true)
    (hdocument : schema.document.isProper = true)
    (haligned : IsAligned schema.library schema.document)
    (hvalid : Draft7.violations schema.library schema.full value = []) :
    schema.AtPlaces StoreType.fits [] value := by
  intro path part declared hwalk houtside hdeclared
  rw [List.nil_append] at hdeclared
  rw [typeAt?_eq_bind] at hdeclared
  obtain ⟨node, hnode, hdeclared⟩ := Option.bind_eq_some_iff.1 hdeclared
  obtain ⟨xs, name, rfl, -, -⟩ := nodeType?_eq_some hdeclared
  have hchecked := checkedAt_nodeAt? hfull haligned hdocument hcareful haccepts hnode rfl hwalk
    houtside
  exact fits_of_checkedAt hdocument hcareful haccepts hchecked (reference?_of_nodeAt? hnode)
    hdeclared hvalid

/-- In an aligned document, the parts of a valid item have the JSON types of their declared store
types, and so the item is stored exactly if each text of a byte string is base64 and each set has
members. -/
theorem storeItem_of_validate {library : Library} {document : Json}
    (hcareful : library.IsCareful) (hschema : Schema.build? library document = some schema)
    (hdocument : document.isProper = true) (haligned : IsAligned library document)
    {item : Record Json} (hitem : (Json.object item).isProper = true)
    (hvalid : schema.validate (.object item) = none) :
    schema.AtPlaces StoreType.fits [] (.object item) ∧
      ((∃ stored, schema.storeItem item = .ok stored) ↔
        schema.AtPlaces StoreType.holds [] (.object item)) := by
  obtain ⟨rfl, haccepts, -⟩ := build?_eq_some hschema
  have hfits : (lowered library document).AtPlaces StoreType.fits [] (.object item) :=
    atPlaces_fits rfl hcareful haccepts hdocument haligned (violations_of_check_eq_none hvalid)
  exact ⟨hfits, exists_storeItem_iff.trans (stores_iff_holds hitem hfits)⟩

theorem storeItem_of_validate_album :
    Library.pointers.IsCareful ∧
      Schema.build? .pointers albumSchema.document = some albumSchema ∧
      albumSchema.document.isProper = true ∧ IsAligned .pointers albumSchema.document ∧
      (Json.object album).isProper = true ∧ albumSchema.validate (.object album) = none ∧
      albumSchema.AtPlaces StoreType.fits [] (.object album) ∧
      albumSchema.AtPlaces StoreType.holds [] (.object album) := by
  have hschema : Schema.build? .pointers albumSchema.document = some albumSchema :=
    ofDocument?_of_isComplete (by decide +kernel)
  have hdocument : albumSchema.document.isProper = true := by decide +kernel
  have haligned : IsAligned .pointers albumSchema.document :=
    isAligned_of_everyNode hdocument 4 (by decide +kernel)
  have hitem : (Json.object album).isProper = true := by decide +kernel
  have hvalid : albumSchema.validate (.object album) = none := by
    rw [← Option.isNone_iff_eq_none]
    decide +kernel
  obtain ⟨hfits, hiff⟩ :=
    storeItem_of_validate Library.isCareful_pointers hschema hdocument haligned hitem hvalid
  exact ⟨Library.isCareful_pointers, hschema, hdocument, haligned, hitem, hvalid, hfits,
    hiff.1 exists_storeItem_album⟩

/-- A schema with a byte string. -/
def coverSchema : Schema :=
  let document : Json := .object
    [("type", .string "object"),
      ("properties", .object
        [("id", .object [("type", .string "string")]),
          ("cover", .object [("type", .string "bytes")])]),
      ("default", .strings ["id"])]
  .lowered .pointers document

/-- A text that is no base64 is valid where a byte string is declared, and yet it cannot be stored.
-/
theorem coverSchema_cannot_store :
    Schema.ofDocument? coverSchema.document = some coverSchema ∧
      coverSchema.validate (.object [("id", .string "a"), ("cover", .string "!!")]) = none ∧
      ∃ error, coverSchema.storeItem [("id", .string "a"), ("cover", .string "!!")] =
        .error (.base64 error) :=
  ⟨ofDocument?_of_isComplete (by decide +kernel), rfl, _, rfl⟩

end Schema

end ItemTable
