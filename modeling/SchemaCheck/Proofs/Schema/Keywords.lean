import SchemaCheck.Proofs.Json.Members
import SchemaCheck.Proofs.Schema.Children
import SchemaCheck.Proofs.Validator.Export

namespace SchemaCheck.Schema

open Json (Members hasKey)

def constraintKeys : List String :=
  StringRule.keywords ++ NumberRule.keywords ++ ArrayRule.keywords ++ ObjectRule.keywords

def checkKeys : List String :=
  "errorMessage" :: constraintKeys ++ constraintKeys.map (· ++ "Message")

def shapeKeys : List String :=
  ["const", "properties", "items", "prefixItems", "required", "additionalProperties"]

/-- All keywords. Examples are known, and have no effect. -/
def keywords : List String := leadingKeys ++ unreadKeys ++ shapeKeys ++ checkKeys

def SameAt (keys : List String) (node other : Members) : Prop :=
  ∀ key ∈ keys, node.lookup key = other.lookup key

theorem SameAt.mono {keys fewer : List String} {node other : Members}
    (h : SameAt keys node other) (hk : fewer ⊆ keys) : SameAt fewer node other :=
  fun key hm => h key (hk hm)

section Checks

variable {node other : Members} {path : String} (h : SameAt checkKeys node other)
include h

theorem SameAt.customMessage {keyword : String} (hk : keyword ∈ constraintKeys) :
    customMessage node keyword = customMessage other keyword := by
  have hm : keyword ++ "Message" ∈ checkKeys :=
    List.mem_append_right _ (List.mem_map_of_mem hk)
  rw [Schema.customMessage, Schema.customMessage, h _ hm, h "errorMessage" (List.mem_cons_self ..)]

theorem SameAt.constraint {ρ : Type} (keyword : String) (hk : keyword ∈ constraintKeys)
    (read : Json → Except Mistake (Option ρ)) :
    constraint node path keyword read = constraint other path keyword read := by
  have hm : keyword ∈ checkKeys := List.mem_append_left _ (List.mem_cons_of_mem _ hk)
  rw [Schema.constraint, Schema.constraint, h _ hm, h.customMessage hk]

theorem SameAt.exclude (side : Side) (checks : List (Check NumberRule)) :
    side.exclude node path checks = side.exclude other path checks := by
  have hk : side.keyword ∈ constraintKeys := by
    cases side <;> decide
  have hm : side.keyword ∈ checkKeys := List.mem_append_left _ (List.mem_cons_of_mem _ hk)
  rw [Side.exclude, Side.exclude, h _ hm, h.customMessage hk, h.constraint _ hk]

theorem SameAt.stringChecks : stringChecks node path = stringChecks other path := by
  simp only [Schema.stringChecks, h.constraint "minLength" (by decide),
    h.constraint "maxLength" (by decide),
    h.constraint "pattern" (by decide), h.constraint "format" (by decide)]

theorem SameAt.numberChecks : numberChecks node path = numberChecks other path := by
  simp only [Schema.numberChecks, h.constraint "minimum" (by decide),
    h.constraint "maximum" (by decide),
    h.constraint "multipleOf" (by decide), h.exclude]

theorem SameAt.arrayChecks : arrayChecks node path = arrayChecks other path := by
  simp only [Schema.arrayChecks, h.constraint "minItems" (by decide),
    h.constraint "maxItems" (by decide),
    h.constraint "uniqueItems" (by decide)]

theorem SameAt.objectChecks : objectChecks node path = objectChecks other path := by
  simp only [Schema.objectChecks, h.constraint "minProperties" (by decide),
    h.constraint "maxProperties" (by decide)]

end Checks

section Nodes

variable {node other : Members} {path : String} {child : ChildCompiler} {follow : String → Result}

theorem sameAt_checks (h : SameAt keywords node other) : SameAt checkKeys node other :=
  h.mono (List.subset_append_right _ _)

theorem SameAt.lookup {keys : List String} (h : SameAt keys node other) (key : String)
    (hk : key ∈ keys) : node.lookup key = other.lookup key :=
  h key hk

theorem SameAt.narrow (h : SameAt keywords node other) (t : TypeName) :
    SameAt keywords (narrow node t) (narrow other t) := by
  intro key hk
  rw [Schema.narrow, Schema.narrow, Json.lookup_put, Json.lookup_put, Json.lookup_drop,
    Json.lookup_drop, h key hk]

theorem ofNode_congr
    (h : SameAt ["anyOf", "oneOf", "allOf", "$ref", "type", "enum", "const"] node other)
    (hk : ∀ key ∈ ["properties", "items", "prefixItems"], hasKey key node = hasKey key other) :
    Form.ofNode node = Form.ofNode other := by
  have hproperties := hk "properties" (by decide)
  have hitems := hk "items" (by decide)
  have hpositions := hk "prefixItems" (by decide)
  rw [hasKey, hasKey] at hproperties hitems hpositions
  simp only [Form.ofNode, Form.untypedEnum?, Form.ofTypeOrConst, Form.implicit, hasKey,
    h.lookup "anyOf" (by decide), h.lookup "oneOf" (by decide), h.lookup "allOf" (by decide),
    h.lookup "$ref" (by decide), h.lookup "type" (by decide), h.lookup "enum" (by decide),
    h.lookup "const" (by decide), hproperties, hitems, hpositions]
  rfl

theorem SameAt.ofNode (h : SameAt keywords node other) : Form.ofNode node = Form.ofNode other := by
  refine ofNode_congr (h.mono (by decide)) fun key hk => ?_
  rw [hasKey, hasKey, h.lookup key (by revert key; decide)]

theorem SameAt.compileTyped (h : SameAt keywords node other) (t : TypeName) :
    compileTyped path child node t = compileTyped path child other t := by
  have hc := sameAt_checks h
  cases t with
  | object =>
      simp only [Schema.compileTyped, compileObject, requiredKeys, compileFields, compileUnknown,
        h.lookup "required" (by decide), h.lookup "properties" (by decide),
        h.lookup "additionalProperties" (by decide), hc.objectChecks]
  | array =>
      simp only [Schema.compileTyped, compileArray, compileList, compileElement,
        h.lookup "items" (by decide), h.lookup "prefixItems" (by decide), hc.arrayChecks]
  | string => rw [Schema.compileTyped, Schema.compileTyped, hc.stringChecks]
  | number | integer => rw [Schema.compileTyped, Schema.compileTyped, hc.numberChecks]
  | boolean | null => rfl

theorem SameAt.compileBranches (h : SameAt keywords node other) (ts : List TypeName) :
    compileBranches path child node ts = compileBranches path child other ts := by
  induction ts with
  | nil => rfl
  | cons t rest ih =>
      rw [Schema.compileBranches, Schema.compileBranches, (h.narrow t).compileTyped, ih]

theorem SameAt.compileForm (h : SameAt keywords node other) (form : Form) :
    compileForm path child follow node form = compileForm path child follow other form := by
  cases form with
  | typed t => exact h.compileTyped t
  | types ts =>
      rw [Schema.compileForm, Schema.compileForm, compileTypes, compileTypes, h.compileBranches]
  | anyOf | oneOf | allOf | ref | enum | const | any => rfl

theorem SameAt.modify (h : SameAt keywords node other) (form : Form) (v : Validator) :
    modify path child node form v = modify path child other form v := by
  simp only [modify_eq, setNullable, refineEnum, setExcluded, h.lookup "nullable" (by decide),
    h.lookup "enum" (by decide), h.lookup "not" (by decide)]

theorem SameAt.withMetadata (h : SameAt keywords node other) (v : Validator) :
    withMetadata node v = withMetadata other v := by
  rw [Schema.withMetadata, Schema.withMetadata, h "default" (by decide),
    h "description" (by decide), h "title" (by decide)]

theorem SameAt.compileMembers (h : SameAt keywords node other) :
    compileMembers path child follow node = compileMembers path child follow other := by
  rw [Schema.compileMembers, Schema.compileMembers, h.ofNode]
  simp only [h.compileForm, h.modify, h.withMetadata]

end Nodes

/-- The second value is compiled as the first: it is the same, or says the same as a node. -/
inductive ReadsAs : Json → Json → Prop
  | refl (x : Json) : ReadsAs x x
  | node {node other : Members} (same : SameAt keywords node other) :
      ReadsAs (.object node) (.object other)

theorem ReadsAs.compileStep_eq {path : String} {child : ChildCompiler} {follow : String → Result}
    {x y : Json} (h : ReadsAs x y) :
    compileStep path child follow x = compileStep path child follow y := by
  cases h with
  | refl => rfl
  | node same => exact same.compileMembers

end SchemaCheck.Schema
