import Mathlib.Data.List.Nodup
import SchemaCheck.Proofs.Json.Members
import SchemaCheck.Proofs.Validator.Acceptance
import SchemaCheck.Schema.Constraint

namespace SchemaCheck.Schema

open Json (Members)

inductive Keyword
  | type
  | const
  | enum
  | minLength
  | maxLength
  | pattern
  | format
  | minimum
  | maximum
  | exclusiveMinimum
  | exclusiveMaximum
  | items
  | prefixItems
  | minItems
  | maxItems
  | uniqueItems
  | properties
  | required
  | additionalProperties
  | minProperties
  | maxProperties
  | anyOf
  | oneOf
  | allOf
  | not
deriving DecidableEq

namespace Keyword

def name : Keyword → String
  | type => "type"
  | const => "const"
  | enum => "enum"
  | minLength => "minLength"
  | maxLength => "maxLength"
  | pattern => "pattern"
  | format => "format"
  | minimum => "minimum"
  | maximum => "maximum"
  | exclusiveMinimum => "exclusiveMinimum"
  | exclusiveMaximum => "exclusiveMaximum"
  | items => "items"
  | prefixItems => "prefixItems"
  | minItems => "minItems"
  | maxItems => "maxItems"
  | uniqueItems => "uniqueItems"
  | properties => "properties"
  | required => "required"
  | additionalProperties => "additionalProperties"
  | minProperties => "minProperties"
  | maxProperties => "maxProperties"
  | anyOf => "anyOf"
  | oneOf => "oneOf"
  | allOf => "allOf"
  | not => "not"

def all : List Keyword :=
  [type, const, enum, minLength, maxLength, pattern, format, minimum, maximum, exclusiveMinimum,
    exclusiveMaximum, items, prefixItems, minItems, maxItems, uniqueItems, properties, required,
    additionalProperties, minProperties, maxProperties, anyOf, oneOf, allOf, not]

theorem mem_all (k : Keyword) : k ∈ all := by
  cases k <;> decide

theorem name_injective {k l : Keyword} (h : k.name = l.name) : k = l := by
  have hd : (all.map name).Nodup := by decide
  exact List.inj_on_of_nodup_map hd (mem_all k) (mem_all l) h

end Keyword

/-- Whole numbers are integers, and integers are numbers. -/
def HasType (name : String) (x : Json) : Prop :=
  x.typeName = name ∨ (name = "number" ∧ x.typeName = "integer")

def IsCount (value : Json) (n : Nat) : Prop := ∃ m, value = .number m ∧ m.toCount? = some n

def entries (value : Json) : List Json := value.array?.getD []

def Declares (node : Members) (key : String) : Prop :=
  ∃ properties schema, node.lookup "properties" = some (.object properties) ∧
    (key, schema) ∈ properties

/-- What a keyword with a value asserts of `x`, given what it is to satisfy a subschema. It may
depend on the keywords beside it: a boolean exclusive bound on the inclusive one, and additional
properties on those declared. -/
def Keyword.Asserts (satisfies : Json → Json → Prop) (node : Members) (value x : Json) :
    Keyword → Prop
  | .type => ∃ name, value = .string name ∧ HasType name x
  | .const => Json.sameValue value x = true
  | .enum => ∃ y ∈ entries value, Json.sameValue y x = true
  | .minLength => ∀ n s, IsCount value n → x = .string s → n ≤ s.length
  | .maxLength => ∀ n s, IsCount value n → x = .string s → s.length ≤ n
  | .pattern => ∀ source s, value = .string source → x = .string s →
      ∀ p, Pattern.ofSource? source = some p → p.isMatch s = true
  | .format => ∀ keyword s, value = .string keyword → x = .string s →
      ∀ f, Format.ofKeyword? keyword = some f → f.isMatch s = true
  | .minimum => ∀ b n, value = .number b → x = .number n →
      b.toBinary64 ≤ n.toBinary64 ∧
        (node.lookup "exclusiveMinimum" = some (.bool true) → b.toBinary64 < n.toBinary64)
  | .maximum => ∀ b n, value = .number b → x = .number n →
      n.toBinary64 ≤ b.toBinary64 ∧
        (node.lookup "exclusiveMaximum" = some (.bool true) → n.toBinary64 < b.toBinary64)
  | .exclusiveMinimum => ∀ b n, value = .number b → x = .number n → b.toBinary64 < n.toBinary64
  | .exclusiveMaximum => ∀ b n, value = .number b → x = .number n → n.toBinary64 < b.toBinary64
  | .items => ∀ xs, x = .array xs →
      match value with
      | .array schemas => List.Forall₂ satisfies schemas xs
      | schema => ∀ y ∈ xs, satisfies schema y
  | .prefixItems => ∀ schemas xs, value = .array schemas → x = .array xs →
      List.Forall₂ satisfies schemas xs
  | .minItems => ∀ n xs, IsCount value n → x = .array xs → n ≤ xs.length
  | .maxItems => ∀ n xs, IsCount value n → x = .array xs → xs.length ≤ n
  | .uniqueItems => ∀ xs, value = .bool true → x = .array xs →
      xs.Pairwise fun y z => Json.sameValue y z = false
  | .properties => ∀ properties members, value = .object properties → x = .object members →
      ∀ p ∈ properties, ∀ y, members.lookup p.1 = some y → satisfies p.2 y
  | .required => ∀ names members, value = .array names → x = .object members →
      ∀ name, .string name ∈ names → Json.hasKey name members = true
  | .additionalProperties => ∀ members, x = .object members →
      ∀ m ∈ members, ¬ Declares node m.1 → satisfies value m.2
  | .minProperties => ∀ n members, IsCount value n → x = .object members → n ≤ members.length
  | .maxProperties => ∀ n members, IsCount value n → x = .object members → members.length ≤ n
  | .anyOf => ∃ schema ∈ entries value, satisfies schema x
  | .oneOf => ExactlyOne (satisfies · x) (entries value)
  | .allOf => ∀ schema ∈ entries value, satisfies schema x
  | .not => ¬ satisfies value x

/-- A boolean is satisfied by all values or by none, and what is neither a boolean nor an object is
no schema. -/
def Satisfies : Json → Json → Prop
  | .bool b, _ => b = true
  | .object node, x => ∀ (k : Keyword) (value : Json), node.lookup k.name = some value →
      k.Asserts (fun schema y => ∃ _h : sizeOf schema < sizeOf (Json.object node),
        Satisfies schema y) node value x
  | _, _ => False
termination_by schema => sizeOf schema
decreasing_by simpa only [Json.object.sizeOf_spec] using _h

theorem mem_of_mem_entries {value x : Json} (h : x ∈ entries value) : Json.Part x value := by
  cases value with
  | array items => exact .item h
  | null | bool b | number n | string s | object members => simp [entries, Json.array?] at h

/-- A keyword asks only about its value and the instance, and about the parts of both. -/
theorem Keyword.asserts_congr {k : Keyword} {p q : Json → Json → Prop} {node : Members}
    {value x : Json} (h : ∀ schema y, schema = value ∨ Json.Part schema value →
      y = x ∨ Json.Part y x → (p schema y ↔ q schema y)) :
    k.Asserts p node value x ↔ k.Asserts q node value x := by
  have hpart : ∀ schemas xs, (∀ schema ∈ schemas, Json.Part schema value) →
      (∀ y ∈ xs, Json.Part y x) → (List.Forall₂ p schemas xs ↔ List.Forall₂ q schemas xs) :=
    fun schemas xs hs hx => forall₂_congr_of_mem fun schema hm y hy =>
      h schema y (.inr (hs schema hm)) (.inr (hx y hy))
  have hentry : ∀ schema ∈ entries value, p schema x ↔ q schema x := fun schema hm =>
    h schema x (.inr (mem_of_mem_entries hm)) (.inl rfl)
  cases k with
  | items =>
      refine forall₂_congr fun xs hx => ?_
      cases value with
      | array schemas =>
          exact hpart schemas xs (fun schema hm => .item hm) fun y hy => hx ▸ .item hy
      | null | bool b | number n | string s | object members =>
          exact forall₂_congr fun y hy => h _ y (.inl rfl) (.inr (hx ▸ .item hy))
  | prefixItems =>
      refine forall₂_congr fun schemas xs => ?_
      refine forall₂_congr fun hv hx => ?_
      exact hpart schemas xs (fun schema hm => hv ▸ .item hm) fun y hy => hx ▸ .item hy
  | properties =>
      refine forall₂_congr fun properties members => ?_
      refine forall₂_congr fun hv hx => ?_
      refine forall₂_congr fun m hm => ?_
      refine forall₂_congr fun y hl => ?_
      exact h m.2 y (.inr (hv ▸ .member hm)) (.inr (hx ▸ .member (Json.mem_of_lookup hl)))
  | additionalProperties =>
      refine forall₂_congr fun members hx => ?_
      refine forall₃_congr fun m hm _ => ?_
      exact h value m.2 (.inl rfl) (.inr (hx ▸ .member hm))
  | anyOf => exact exists_congr fun schema => and_congr_right (hentry schema)
  | oneOf => exact exactlyOne_iff (List.forall₂_same.2 hentry)
  | allOf => exact forall₂_congr hentry
  | not => exact not_congr (h value x (.inl rfl) (.inl rfl))
  | type | const | enum | minLength | maxLength | pattern | format | minimum | maximum
  | exclusiveMinimum | exclusiveMaximum | minItems | maxItems | uniqueItems | required
  | minProperties | maxProperties => exact Iff.rfl

theorem satisfies_bool {b : Bool} {x : Json} : Satisfies (.bool b) x ↔ b = true := by
  rw [Satisfies]

theorem satisfies_object {node : Members} {x : Json} :
    Satisfies (.object node) x ↔ ∀ (k : Keyword) (value : Json),
      node.lookup k.name = some value → k.Asserts Satisfies node value x := by
  rw [Satisfies]
  refine forall₃_congr fun k value hl => ?_
  refine Keyword.asserts_congr fun schema y hs _ => ?_
  have hv : sizeOf value < sizeOf (Json.object node) :=
    (Json.Part.member (Json.mem_of_lookup hl)).sizeOf_lt
  have hlt : sizeOf schema < sizeOf (Json.object node) := by
    rcases hs with rfl | hp
    · exact hv
    · exact Nat.lt_trans hp.sizeOf_lt hv
  exact ⟨fun ⟨_, hy⟩ => hy, fun hy => ⟨hlt, hy⟩⟩

end SchemaCheck.Schema
