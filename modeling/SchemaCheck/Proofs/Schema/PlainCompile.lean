import SchemaCheck.Proofs.Schema.PlainForms
import SchemaCheck.Schema.Strict

namespace SchemaCheck.Schema

open Json (Members)

theorem ne_array_of_plain {schema : Json} (h : Plain schema) (items : List Json) :
    schema ≠ .array items := by
  rintro rfl
  cases h

theorem compileElement_enforces {c : Context} {node : Members} {element : Validator}
    (single : ∀ schemas, node.lookup "items" ≠ some (.array schemas))
    (items : ∀ schema, node.lookup "items" = some schema → Faithful schema)
    (h : compileElement (childOf c) node = .ok element) (xs : List Json) :
    (∀ y ∈ xs, element.Accepts y) ↔ ∀ value, node.lookup "items" = some value →
      Keyword.items.Asserts Satisfies node value (.array xs) := by
  rw [compileElement] at h
  cases hi : node.lookup "items" with
  | none =>
      rw [hi] at h
      cases h
      simp [Validator.any, Validator.accepts_ofShape, Shape.accepts_any]
  | some schema =>
      rw [hi] at h
      have hs : ∀ y, element.Accepts y ↔ Satisfies schema y :=
        (enforces_of_childOf (items schema hi) h).accepts
      simp only [hs, Option.some.injEq, forall_eq', Keyword.Asserts, Json.array.injEq]
      cases schema with
      | array schemas => exact absurd hi (single schemas)
      | null | bool b | number n | string s | object members => exact Iff.rfl

theorem faithfulForm_array {node : Members}
    (keys : SaysOnly [.type, .items, .minItems, .maxItems, .uniqueItems] node)
    (type : node.lookup "type" = some (.string "array"))
    (single : ∀ schemas, node.lookup "items" ≠ some (.array schemas))
    (items : ∀ schema, node.lookup "items" = some schema → Faithful schema) :
    FaithfulForm node [.type, .items, .minItems, .maxItems, .uniqueItems] (.typed .array) := by
  apply faithfulForm_typed (t := .array) keys type (by decide) (by decide)
  intro c u hu
  have hl : compileArray c.path (childOf c) node = compileList c.path (childOf c) node := by
    rw [compileArray]
    split
    next schemas h => exact absurd h (single schemas)
    next => rw [keys.absent "prefixItems" (by decide)]
  rw [compileTyped, hl] at hu
  obtain ⟨element, helement, hu⟩ := bind_eq_ok hu
  obtain ⟨checks, hchecks, hu⟩ := bind_eq_ok hu
  cases hu
  refine ⟨.array element checks, rfl, fun x => ?_⟩
  rw [Shape.accepts_array, rules_arrayChecks hchecks, TypeName.Holds, ← exists_and_right]
  refine exists_congr fun xs => and_congr_right ?_
  rintro rfl
  have hunique (P : Prop) : (node.lookup "uniqueItems" = some (.bool true) → P) ↔
      ∀ value, node.lookup "uniqueItems" = some value → value = .bool true → P := by
    constructor
    · rintro h value hl rfl
      exact h hl
    · intro h hl
      exact h _ hl rfl
  rw [compileElement_enforces single items helement, and_comm, allHold_arrayTable,
    forall_countAt?, forall_countAt?, hunique]
  simp [Keyword.Asserts, Keyword.name]

theorem faithfulForm_tuple {node : Members} {schemas : List Json} {k : Keyword}
    (positional : k = .items ∨ k = .prefixItems) (keys : SaysOnly [.type, k] node)
    (type : node.lookup "type" = some (.string "array"))
    (lookup : node.lookup k.name = some (.array schemas))
    (positions : ∀ schema ∈ schemas, Faithful schema) :
    FaithfulForm node [.type, k] (.typed .array) := by
  have hc : ∀ c : Context, compileArray c.path (childOf c) node =
      compileTuple (childOf c) k.name schemas := by
    intro c
    rw [compileArray]
    rcases positional with rfl | rfl
    · rw [show node.lookup "items" = _ from lookup]
      rfl
    · rw [keys.absent "items" (by decide), show node.lookup "prefixItems" = _ from lookup]
      rfl
  apply faithfulForm_typed (t := .array) keys type
  · rcases positional with rfl | rfl <;> decide
  · rcases positional with rfl | rfl <;> decide
  · intro c u hu
    rw [compileTyped, hc] at hu
    obtain ⟨vs, hvs, hu⟩ := bind_eq_ok hu
    cases hu
    have hs := compileEach_enforces positions hvs
    refine ⟨.tuple vs, rfl, fun x => ?_⟩
    rw [Shape.accepts_tuple, TypeName.Holds, asserted_single lookup, ← exists_and_right]
    refine exists_congr fun xs => and_congr_right ?_
    rintro rfl
    rw [forall₂_iff (hs.imp fun _ _ he => he.accepts)]
    rcases positional with rfl | rfl <;> simp [Keyword.Asserts]

theorem compileProperties_enforces {c : Context} {required : List String} {properties : Members}
    {fields : List Field} (hs : ∀ p ∈ properties, Faithful p.2)
    (h : compileProperties (childOf c) required properties = .ok fields) :
    List.Forall₂ (fun (f : Field) (p : String × Json) => f.name = p.1 ∧
      f.required = required.contains p.1 ∧ Enforces f.validator p.2) fields properties := by
  induction properties generalizing fields with
  | nil =>
      cases h
      exact .nil
  | cons p rest ih =>
      rw [List.forall_mem_cons] at hs
      obtain ⟨v, hv, h⟩ := bind_eq_ok h
      obtain ⟨fs, hfs, h⟩ := bind_eq_ok h
      cases h
      exact .cons ⟨rfl, rfl, enforces_of_childOf hs.1 hv⟩ (ih hs.2 hfs)

structure FieldsOf (node : Members) (required : List String) (fields : List Field) : Prop where
  property : ∀ f ∈ fields, ∃ properties schema,
    node.lookup "properties" = some (.object properties) ∧ (f.name, schema) ∈ properties ∧
      f.required = required.contains f.name ∧ Enforces f.validator schema
  field : ∀ properties name schema, node.lookup "properties" = some (.object properties) →
    (name, schema) ∈ properties →
      ∃ f ∈ fields, f.name = name ∧ f.required = required.contains name ∧
        Enforces f.validator schema

theorem fieldsOf_compileFields {c : Context} {node : Members} {required : List String}
    {fields : List Field}
    (hs : ∀ ps, node.lookup "properties" = some (.object ps) → ∀ p ∈ ps, Faithful p.2)
    (h : compileFields c.path (childOf c) required node = .ok fields) :
    FieldsOf node required fields := by
  rw [compileFields] at h
  split at h
  next hl =>
    cases h
    constructor
    · simp
    · intro properties name schema hp
      cases hl.symm.trans hp
  next properties hl =>
    have hf := compileProperties_enforces (hs properties hl) h
    constructor
    · intro f hm
      obtain ⟨⟨name, schema⟩, hp, rfl, hr, he⟩ := exists_of_forall₂_left hf hm
      exact ⟨properties, schema, hl, hp, hr, he⟩
    · intro ps name schema hp hm
      cases hl.symm.trans hp
      obtain ⟨f, hf, hn, hr, he⟩ := exists_of_forall₂_left hf.flip hm
      exact ⟨f, hf, hn, hr, he⟩
  next => cases h

theorem FieldsOf.hasName_iff {node : Members} {required : List String} {fields : List Field}
    (h : FieldsOf node required fields) {name : String} :
    Field.hasName fields name = true ↔ Declares node name := by
  simp only [Field.hasName, List.any_eq_true, decide_eq_true_eq]
  constructor
  · rintro ⟨f, hf, rfl⟩
    obtain ⟨properties, schema, hl, hp, -⟩ := h.property f hf
    exact ⟨properties, schema, hl, hp⟩
  · rintro ⟨properties, schema, hl, hp⟩
    obtain ⟨f, hf, hn, -⟩ := h.field properties name schema hl hp
    exact ⟨f, hf, hn⟩

/-- A required name that is absent fails its field, which has no default. -/
theorem FieldsOf.accepts_iff {node members : Members} {required : List String} {fields : List Field}
    (h : FieldsOf node required fields) (hr : requiredKeys node = .ok required)
    (hd : RequiresDeclared node) :
    (∀ f ∈ fields, f.Accepts members) ↔
      (∀ properties, node.lookup "properties" = some (.object properties) → ∀ p ∈ properties,
        ∀ y, members.lookup p.1 = some y → Satisfies p.2 y) ∧
      ∀ names, node.lookup "required" = some (.array names) → ∀ name, .string name ∈ names →
        Json.hasKey name members = true := by
  constructor
  · intro ha
    constructor
    · rintro properties hl ⟨name, schema⟩ hp y hy
      obtain ⟨f, hf, rfl, -, he⟩ := h.field properties name schema hl hp
      exact (he.accepts y).1 ((ha f hf).present y hy)
    · intro names hl name hn
      obtain ⟨properties, schema, hp, hs, hdefault⟩ := hd names name hl hn
      obtain ⟨f, hf, rfl, hreq, he⟩ := h.field properties name schema hp (Json.mem_of_lookup hs)
      have hc : f.required = true := by
        rw [hreq, List.contains_iff_mem]
        exact (mem_requiredKeys hr f.name).2 ⟨names, hl, hn⟩
      cases hm : members.lookup f.name with
      | some y => simp [Json.hasKey, hm]
      | none =>
          have := (ha f hf).absent hm hc
          simp [he.default, hdefault] at this
  · rintro ⟨hp, hq⟩ f hf
    obtain ⟨properties, schema, hl, hm, hreq, he⟩ := h.property f hf
    constructor
    · intro y hy
      exact (he.accepts y).2 (hp properties hl _ hm y hy)
    · intro hn hc
      rw [hreq, List.contains_iff_mem] at hc
      obtain ⟨names, hl', hm'⟩ := (mem_requiredKeys hr f.name).1 hc
      have := hq names hl' f.name hm'
      simp [Json.hasKey, hn] at this

theorem unknown_accepts_iff {c : Context} {node others : Members} {unknown : UnknownKeys}
    (hs : ∀ schema, node.lookup "additionalProperties" = some schema → Faithful schema)
    (h : compileUnknown c.path (childOf c) node = .ok unknown) :
    unknown.Accepts others ↔ ∀ value, node.lookup "additionalProperties" = some value →
      ∀ m ∈ others, Satisfies value m.2 := by
  rw [compileUnknown] at h
  split at h
  next hl =>
    cases h
    simp [UnknownKeys.Accepts, hl]
  next hl =>
    cases h
    simp [UnknownKeys.Accepts, hl, satisfies_bool]
  next hl =>
    cases h
    simp [UnknownKeys.Accepts, hl, satisfies_bool, List.eq_nil_iff_forall_not_mem]
  next x hl =>
    obtain ⟨v, hv, h⟩ := bind_eq_ok h
    cases h
    rw [forall_of_lookup hl]
    exact forall₂_congr fun m _ => (enforces_of_childOf (hs _ hl) hv).accepts m.2
  next => cases h

theorem faithfulForm_object {node : Members}
    (keys : SaysOnly [.type, .properties, .required, .additionalProperties, .minProperties,
      .maxProperties] node)
    (type : node.lookup "type" = some (.string "object"))
    (properties : ∀ ps, node.lookup "properties" = some (.object ps) → ∀ p ∈ ps, Faithful p.2)
    (required : RequiresDeclared node)
    (additional : ∀ schema, node.lookup "additionalProperties" = some schema → Faithful schema) :
    FaithfulForm node [.type, .properties, .required, .additionalProperties, .minProperties,
      .maxProperties] (.typed .object) := by
  apply faithfulForm_typed (t := .object) keys type (by decide) (by decide)
  intro c u hu
  rw [compileTyped] at hu
  obtain ⟨names, hnames, hu⟩ := bind_eq_ok hu
  obtain ⟨fields, hfields, hu⟩ := bind_eq_ok hu
  obtain ⟨unknown, hunknown, hu⟩ := bind_eq_ok hu
  obtain ⟨checks, hchecks, hu⟩ := bind_eq_ok hu
  cases hu
  have hr : requiredKeys node = .ok names := malformedAt_eq_ok hnames
  have hf : FieldsOf node names fields := fieldsOf_compileFields properties hfields
  have hadd : addRequired fields names = fields := by
    apply addRequired_of_named
    intro name hn
    obtain ⟨ns, hl, hn⟩ := (mem_requiredKeys hr name).1 hn
    obtain ⟨ps, schema, hp, hs, -⟩ := required ns name hl hn
    exact hf.hasName_iff.2 ⟨ps, schema, hp, Json.mem_of_lookup hs⟩
  refine ⟨.object (addRequired fields names) unknown checks, rfl, fun x => ?_⟩
  rw [hadd, Shape.accepts_object, rules_objectChecks hchecks, TypeName.Holds, ← exists_and_right]
  refine exists_congr fun members => and_congr_right ?_
  rintro rfl
  rw [hf.accepts_iff hr required, unknown_accepts_iff additional hunknown, allHold_objectTable,
    forall_countAt?, forall_countAt?, forall_valueAt (f := .object), forall_valueAt (f := .array)]
  simp only [List.mem_filter, Bool.not_eq_true', ← Bool.not_eq_true, hf.hasName_iff]
  simp [Keyword.Asserts, Keyword.name, and_assoc]

theorem faithful_of_plain {schema : Json} (h : Plain schema) : Faithful schema := by
  refine @Plain.rec (fun schema _ => Faithful schema)
    (fun node _ => ∀ c v, (∀ schema, node.lookup "not" = some schema → Faithful schema) →
      compileNode c (.object node) = .ok v → Enforces v (.object node))
    faithful_bool ?node ?any ?string ?number ?boolean ?null ?array ?tuple ?object ?const ?enum
    ?anyOf ?oneOf ?allOf schema h
  case node =>
      intro node _ _ form excluded c v
      exact form c v excluded
  case any =>
      intro node keys c v hn
      exact faithful_of_form keys (faithfulForm_any keys) hn c v
  case string =>
      intro node keys type c v hn
      exact faithful_of_form keys (faithfulForm_string keys type) hn c v
  case number =>
      intro node integer keys type c v hn
      cases integer with
      | false =>
          have hf := faithfulForm_number (t := .number) keys type
            (fun x => by simp [TypeName.Holds]) fun _ => rfl
          exact faithful_of_form keys hf hn c v
      | true =>
          have hf := faithfulForm_number (t := .integer) keys type
            (fun x => by simp [TypeName.Holds]) fun _ => rfl
          exact faithful_of_form keys hf hn c v
  case boolean =>
      intro node keys type c v hn
      exact faithful_of_form keys (faithfulForm_boolean keys type) hn c v
  case null =>
      intro node keys type c v hn
      exact faithful_of_form keys (faithfulForm_null keys type) hn c v
  case array =>
      intro node keys type items ih c v hn
      have single : ∀ schemas, node.lookup "items" ≠ some (.array schemas) := fun schemas hl =>
        ne_array_of_plain (items _ hl) schemas rfl
      exact faithful_of_form keys (faithfulForm_array keys type single ih) hn c v
  case tuple =>
      intro node schemas keyword positional keys type lookup _ ih c v hn
      exact faithful_of_form keys (faithfulForm_tuple positional keys type lookup ih) hn c v
  case object =>
      intro node keys type _ required _ hp ha c v hn
      exact faithful_of_form keys (faithfulForm_object keys type hp required ha) hn c v
  case const =>
      intro node value keys lookup c v hn
      exact faithful_of_form keys (faithfulForm_const keys lookup) hn c v
  case enum =>
      intro node values keys lookup c v hn
      exact faithful_of_form keys (faithfulForm_enum keys lookup) hn c v
  case anyOf =>
      intro node schemas keys lookup two unmerged _ ih c v hn
      exact faithful_of_form keys (faithfulForm_anyOf lookup two unmerged ih) hn c v
  case oneOf =>
      intro node schemas keys lookup two _ ih c v hn
      exact faithful_of_form keys (faithfulForm_oneOf keys lookup two ih) hn c v
  case allOf =>
      intro node schemas keys lookup two _ ih c v hn
      exact faithful_of_form keys (faithfulForm_allOf keys lookup two ih) hn c v

/-- What a plain schema is compiled to accepts the values that satisfy it. -/
theorem compile_plain {schema : Json} (h : Plain schema) {limit : Nat} {definitions : Members}
    {v : Validator} (hv : compile schema { maxDepth := limit } definitions = .ok v) (x : Json) :
    v.isValid x = true ↔ Satisfies schema x :=
  Validator.isValid_iff.trans ((faithful_of_plain h _ v hv).accepts x)

def wordsSchema : Json :=
  .object [("items", .object [("minLength", .int 1), ("type", .string "string")]),
    ("not", .object [("const", .array [])]), ("type", .string "array"),
    ("uniqueItems", .bool true)]

theorem plain_words : Plain wordsSchema := by
  refine .node (.array (saysOnly_of_keys (by decide)) rfl ?_) ?_
  · rintro schema ⟨⟩
    exact .node (.string (saysOnly_of_keys (by decide)) rfl) (by rintro _ ⟨⟩)
  · rintro schema ⟨⟩
    exact .node (.const (saysOnly_of_keys (by decide)) rfl) (by rintro _ ⟨⟩)

theorem compile_plain_words : ∃ v, compile wordsSchema { maxDepth := 2 } [] = .ok v ∧
    v.isValid (.array [.string "a"]) = true ∧ Satisfies wordsSchema (.array [.string "a"]) ∧
      v.isValid (.array []) = false ∧ ¬ Satisfies wordsSchema (.array []) := by
  obtain ⟨v, hv, ha, hn⟩ : ∃ v, compile wordsSchema { maxDepth := 2 } [] = .ok v ∧
      v.isValid (.array [.string "a"]) = true ∧ v.isValid (.array []) = false := by
    refine ⟨?_, ?_, ?_⟩
    rotate_left
    · with_unfolding_all rfl
    · constructor <;> with_unfolding_all rfl
  have hp := compile_plain plain_words hv
  refine ⟨v, hv, ha, (hp _).1 ha, hn, fun h => ?_⟩
  simp [(hp _).2 h] at hn

end SchemaCheck.Schema
