import SchemaCheck.Proofs.Schema.Form
import SchemaCheck.Proofs.Schema.Reading

namespace SchemaCheck.Schema

open Json (Members)

def metadataKeys : List String := ["description", "title", "default", "examples"]

def SaysOnly (ks : List Keyword) (node : Members) : Prop :=
  ∀ key, Json.hasKey key node = true → key ∈ ks.map Keyword.name ++ "not" :: metadataKeys

theorem saysOnly_of_keys {ks : List Keyword} {node : Members}
    (h : ∀ key ∈ Json.keys node, key ∈ ks.map Keyword.name ++ "not" :: metadataKeys) :
    SaysOnly ks node := by
  intro key hk
  obtain ⟨x, hx⟩ := Option.isSome_iff_exists.1 hk
  exact h key (List.mem_map_of_mem (Json.mem_of_lookup hx))

def defaultOf? : Json → Option Json
  | .object node => node.lookup "default"
  | _ => none

/-- A required name is that of a property whose schema has no default. -/
def RequiresDeclared (node : Members) : Prop :=
  ∀ names name, node.lookup "required" = some (.array names) → .string name ∈ names →
    ∃ properties schema, node.lookup "properties" = some (.object properties) ∧
      properties.lookup name = some schema ∧ defaultOf? schema = none

mutual

/-- Every form may stand beside an exclusion. -/
inductive Plain : Json → Prop
  | bool (b : Bool) : Plain (.bool b)
  | node {node : Members} (form : PlainForm node)
      (excluded : ∀ schema, node.lookup "not" = some schema → Plain schema) : Plain (.object node)

inductive PlainForm : Members → Prop
  | any {node : Members} (keys : SaysOnly [] node) : PlainForm node
  | string {node : Members}
      (keys : SaysOnly [.type, .minLength, .maxLength, .pattern, .format] node)
      (type : node.lookup "type" = some (.string "string")) : PlainForm node
  | number {node : Members} (integer : Bool)
      (keys : SaysOnly [.type, .minimum, .maximum, .exclusiveMinimum, .exclusiveMaximum] node)
      (type : node.lookup "type" = some (.string (integerName integer))) : PlainForm node
  | boolean {node : Members} (keys : SaysOnly [.type] node)
      (type : node.lookup "type" = some (.string "boolean")) : PlainForm node
  | null {node : Members} (keys : SaysOnly [.type] node)
      (type : node.lookup "type" = some (.string "null")) : PlainForm node
  | array {node : Members}
      (keys : SaysOnly [.type, .items, .minItems, .maxItems, .uniqueItems] node)
      (type : node.lookup "type" = some (.string "array"))
      (items : ∀ schema, node.lookup "items" = some schema → Plain schema) : PlainForm node
  | tuple {node : Members} {schemas : List Json} {keyword : Keyword}
      (positional : keyword = .items ∨ keyword = .prefixItems)
      (keys : SaysOnly [.type, keyword] node)
      (type : node.lookup "type" = some (.string "array"))
      (lookup : node.lookup keyword.name = some (.array schemas))
      (positions : ∀ schema ∈ schemas, Plain schema) : PlainForm node
  | object {node : Members}
      (keys : SaysOnly [.type, .properties, .required, .additionalProperties, .minProperties,
        .maxProperties] node)
      (type : node.lookup "type" = some (.string "object"))
      (properties : ∀ ps, node.lookup "properties" = some (.object ps) → ∀ p ∈ ps, Plain p.2)
      (required : RequiresDeclared node)
      (additional : ∀ schema, node.lookup "additionalProperties" = some schema → Plain schema) :
      PlainForm node
  | const {node : Members} {value : Json} (keys : SaysOnly [.const] node)
      (lookup : node.lookup "const" = some value) : PlainForm node
  | enum {node : Members} {values : List Json} (keys : SaysOnly [.enum] node)
      (lookup : node.lookup "enum" = some (.array values)) : PlainForm node
  | anyOf {node : Members} {schemas : List Json} (keys : SaysOnly [.anyOf] node)
      (lookup : node.lookup "anyOf" = some (.array schemas)) (two : 2 ≤ schemas.length)
      (unmerged : mergeAlternatives? schemas = none)
      (alternatives : ∀ schema ∈ schemas, Plain schema) : PlainForm node
  | oneOf {node : Members} {schemas : List Json} (keys : SaysOnly [.oneOf] node)
      (lookup : node.lookup "oneOf" = some (.array schemas)) (two : 2 ≤ schemas.length)
      (alternatives : ∀ schema ∈ schemas, Plain schema) : PlainForm node
  | allOf {node : Members} {schemas : List Json} (keys : SaysOnly [.allOf] node)
      (lookup : node.lookup "allOf" = some (.array schemas)) (two : 2 ≤ schemas.length)
      (branches : ∀ schema ∈ schemas, Plain schema) : PlainForm node

end

/-- The validator accepts what satisfies the schema, and has the default that the schema gives. -/
structure Enforces (v : Validator) (schema : Json) : Prop where
  accepts : ∀ x, v.Accepts x ↔ Satisfies schema x
  default : v.defaultValue = defaultOf? schema

def Faithful (schema : Json) : Prop := ∀ c v, compileNode c schema = .ok v → Enforces v schema

/-- The form of the node is compiled to a shape that accepts what the keywords `ks` assert. -/
structure FaithfulForm (node : Members) (ks : List Keyword) (form : Form) : Prop where
  read : Form.ofNode node = .ok form
  resolved : ∀ reference, form ≠ .ref reference
  listed : form.isEnum = true ∨ Keyword.enum ∉ ks
  shape : ∀ c u, compileForm (Context.path c) (childOf c) (targetOf c) node form = .ok u →
    ∃ shape, u = .ofShape shape ∧ ∀ x, shape.Accepts x ↔
      ∀ k ∈ ks, ∀ value, node.lookup k.name = some value → k.Asserts Satisfies node value x

theorem SaysOnly.absent {ks : List Keyword} {node : Members} (h : SaysOnly ks node) (key : String)
    (hk : key ∉ ks.map Keyword.name ++ "not" :: metadataKeys) : node.lookup key = none := by
  by_contra hl
  exact hk (h key (Option.isSome_iff_ne_none.2 hl))

theorem satisfies_iff_of_saysOnly {ks : List Keyword} {node : Members} (h : SaysOnly ks node)
    {x : Json} : Satisfies (.object node) x ↔
      (∀ k ∈ ks, ∀ value, node.lookup k.name = some value → k.Asserts Satisfies node value x) ∧
        ∀ schema, node.lookup "not" = some schema → ¬ Satisfies schema x := by
  rw [satisfies_object]
  constructor
  · intro hx
    constructor
    · intro k _ value hl
      exact hx k value hl
    · intro schema hl
      exact hx .not schema hl
  · rintro ⟨hks, hn⟩ k value hl
    by_cases hm : k ∈ ks
    · exact hks k hm value hl
    · have hk := h k.name (Option.isSome_iff_exists.2 ⟨value, hl⟩)
      rcases List.mem_append.1 hk with hk | hk
      · obtain ⟨l, hl', he⟩ := List.mem_map.1 hk
        exact absurd (Keyword.name_injective he ▸ hl') hm
      · cases k with
        | not => exact hn value hl
        | _ => exact absurd hk (by decide)

theorem enforces_of_childOf {c : Context} {schema : Json} (h : Faithful schema)
    {segments : List String} {v : Validator} (hv : childOf c segments schema = .ok v) :
    Enforces v schema := by
  obtain ⟨d, -, hv⟩ := bind_eq_ok hv
  exact h d v hv

theorem faithful_bool (b : Bool) : Faithful (.bool b) := by
  intro c v hv
  rw [compileNode_eq] at hv
  cases b <;> cases hv <;> refine ⟨fun x => ?_, rfl⟩
  · exact iff_of_false (fun h => Shape.not_accepts_never (Validator.accepts_ofShape.1 h))
      (by simp [satisfies_bool])
  · exact iff_of_true (Validator.accepts_ofShape.2 Shape.accepts_any) (by simp [satisfies_bool])

theorem SaysOnly.no_enum {ks : List Keyword} {node : Members} (h : SaysOnly ks node)
    (hk : Keyword.enum ∉ ks) : node.lookup "enum" = none := by
  refine h.absent _ fun hm => ?_
  rcases List.mem_append.1 hm with hm | hm
  · obtain ⟨k, hl, he⟩ := List.mem_map.1 hm
    exact hk (Keyword.name_injective (l := .enum) he ▸ hl)
  · exact absurd hm (by decide)

theorem SaysOnly.no_nullable {ks : List Keyword} {node : Members} (h : SaysOnly ks node) :
    node.lookup "nullable" = none := by
  refine h.absent _ fun hm => ?_
  rcases List.mem_append.1 hm with hm | hm
  · obtain ⟨k, -, he⟩ := List.mem_map.1 hm
    cases k <;> exact absurd he (by decide)
  · exact absurd hm (by decide)

theorem setExcluded_enforces {c : Context} {node : Members} {u v : Validator}
    (hu : u.excluded = none)
    (hn : ∀ schema, node.lookup "not" = some schema → Faithful schema)
    (hv : setExcluded (childOf c) node u = .ok v) :
    ∃ excluded, v = { u with excluded } ∧ ∀ x, (∀ e, excluded = some e → ¬ e.Accepts x) ↔
      ∀ schema, node.lookup "not" = some schema → ¬ Satisfies schema x := by
  rw [setExcluded] at hv
  cases hl : node.lookup "not" with
  | none =>
      rw [hl] at hv
      cases hv
      refine ⟨none, ?_, fun x => by simp⟩
      cases u
      cases hu
      rfl
  | some schema =>
      rw [hl] at hv
      obtain ⟨e, he, hv⟩ := bind_eq_ok hv
      cases hv
      refine ⟨some e, rfl, fun x => ?_⟩
      have hx : e.Accepts x ↔ Satisfies schema x :=
        (enforces_of_childOf (hn schema hl) he).accepts x
      simp [hx]

theorem faithful_of_form {node : Members} {ks : List Keyword} {form : Form}
    (keys : SaysOnly ks node) (hf : FaithfulForm node ks form)
    (hn : ∀ schema, node.lookup "not" = some schema → Faithful schema) :
    Faithful (.object node) := by
  intro c v hv
  rw [compileNode_eq, compileStep, compileMembers_eq hf.read hf.resolved] at hv
  obtain ⟨u, hu, hv⟩ := bind_eq_ok hv
  obtain ⟨shape, rfl, hshape⟩ := hf.shape c u hu
  rw [modify_of_absent keys.no_nullable (hf.listed.imp id keys.no_enum)] at hv
  obtain ⟨w, hw, hv⟩ := bind_eq_ok hv
  cases hv
  obtain ⟨excluded, rfl, hx⟩ := setExcluded_enforces rfl hn hw
  constructor
  · intro x
    rw [satisfies_iff_of_saysOnly keys, ← hshape x, ← hx x, Validator.accepts_iff]
    simp [withMetadata, Validator.ofShape, allows]
  · simp [withMetadata, Validator.ofShape, defaultOf?]

end SchemaCheck.Schema
