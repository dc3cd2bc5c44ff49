import SchemaCheck.Proofs.Json.Order
import SchemaCheck.Proofs.Validator.WellFormed
import SchemaCheck.Schema.Form

namespace SchemaCheck

open Check (rules)
open Json (Members put int)
open Schema (TypeName)

theorem lookup_putSome (key other : String) (x : Option Json) (schema : Members) :
    (putSome key x schema).lookup other =
      if other = key then x.or (schema.lookup other) else schema.lookup other := by
  cases x with
  | none => simp [putSome]
  | some x =>
      rw [putSome, Json.lookup_put]
      split <;> rfl

theorem lookup_addEntries_of_notMem {schema : Members} {entries : List (String × Json)}
    {key : String} (h : key ∉ entries.map (·.1)) :
    (addEntries schema entries).lookup key = schema.lookup key := by
  induction entries generalizing schema with
  | nil => rfl
  | cons e rest ih =>
      rw [List.map_cons, List.mem_cons, not_or] at h
      rw [addEntries, List.foldl_cons, ← addEntries, ih h.2, Json.lookup_put, if_neg h.1]

theorem lookup_addEntries {schema : Members} {entries : List (String × Json)} {key : String}
    (hd : (entries.map (·.1)).Nodup) (hk : key ∈ entries.map (·.1)) :
    (addEntries schema entries).lookup key = entries.lookup key := by
  induction entries generalizing schema with
  | nil => cases hk
  | cons e rest ih =>
      obtain ⟨k, x⟩ := e
      rw [List.map_cons, List.nodup_cons] at hd
      rw [addEntries, List.foldl_cons, ← addEntries, List.lookup_cons]
      by_cases he : key = k
      · subst he
        rw [lookup_addEntries_of_notMem hd.1, Json.lookup_put_self, beq_self_eq_true]
      · rw [beq_eq_false_iff_ne.2 he]
        exact ih hd.2 ((List.mem_cons.1 hk).resolve_left he)

def StringRule.keywords : List String := ["minLength", "maxLength", "pattern", "format"]

def NumberRule.keywords : List String :=
  ["minimum", "maximum", "exclusiveMinimum", "exclusiveMaximum", "multipleOf"]

def ArrayRule.keywords : List String := ["minItems", "maxItems", "uniqueItems"]

def ObjectRule.keywords : List String := ["minProperties", "maxProperties"]

theorem StringRule.keyword_mem (r : StringRule) : r.entry.1 ∈ keywords := by
  cases r <;> simp [entry, keywords]

theorem NumberRule.keyword_mem (r : NumberRule) : r.entry.1 ∈ keywords := by
  cases r <;> simp [entry, keywords]

theorem ArrayRule.keyword_mem (r : ArrayRule) : r.entry.1 ∈ keywords := by
  cases r <;> simp [entry, keywords]

theorem ObjectRule.keyword_mem (r : ObjectRule) : r.entry.1 ∈ keywords := by
  cases r <;> simp [entry, keywords]

namespace Shape

def typeName? : Shape → Option TypeName
  | .boolean => some .boolean
  | .null => some .null
  | .string _ => some .string
  | .number integer _ => some (if integer then .integer else .number)
  | .array _ _ => some .array
  | .tuple _ => some .array
  | .object _ _ _ => some .object
  | _ => none

theorem eq_null_of_typeName? {s : Shape} (h : s.typeName? = some .null) : s = .null := by
  cases s with
  | null => rfl
  | number integer checks => cases integer <;> cases h
  | any | never | boolean | literal | among | string | array | tuple | object | union
  | exclusiveUnion | intersection => cases h

def exportKeys : Shape → List String
  | .any => []
  | .never => ["not"]
  | .boolean => ["type"]
  | .null => ["type"]
  | .literal _ => ["const"]
  | .among _ => ["enum"]
  | .string _ => "type" :: StringRule.keywords
  | .number _ _ => "type" :: NumberRule.keywords
  | .array _ _ => "type" :: "items" :: ArrayRule.keywords
  | .tuple _ => ["type", "items", "minItems", "maxItems"]
  | .object _ _ _ => "type" :: "properties" :: "required" :: ObjectRule.keywords
  | .union _ => ["anyOf"]
  | .exclusiveUnion _ => ["oneOf"]
  | .intersection _ => ["allOf"]

def allKeys : List String :=
  ["type", "not", "const", "enum", "anyOf", "oneOf", "allOf", "items", "properties", "required"] ++
    StringRule.keywords ++ NumberRule.keywords ++ ArrayRule.keywords ++ ObjectRule.keywords

def typedKeys : List String :=
  ["type", "items", "properties", "required"] ++
    StringRule.keywords ++ NumberRule.keywords ++ ArrayRule.keywords ++ ObjectRule.keywords

theorem exportKeys_subset (s : Shape) : s.exportKeys ⊆ allKeys := by
  cases s <;> simp only [exportKeys] <;> decide

theorem exportKeys_subset_typedKeys {s : Shape} {t : TypeName} (h : s.typeName? = some t) :
    s.exportKeys ⊆ typedKeys := by
  cases s with
  | any | never | literal | among | union | exclusiveUnion | intersection => cases h
  | boolean | null | string | number | array | tuple | object =>
      simp only [exportKeys]
      decide

end Shape

theorem keys_entries {ρ : Type} (entry : ρ → String × Json) (checks : List (Check ρ)) :
    (checks.map fun c => entry c.rule).map (·.1) = (rules checks).map fun r => (entry r).1 := by
  simp [rules]

theorem notMem_entries {ρ : Type} {entry : ρ → String × Json} {checks : List (Check ρ)}
    {keys : List String} (he : ∀ r, (entry r).1 ∈ keys) {key : String} (hk : key ∉ keys) :
    key ∉ (checks.map fun c => entry c.rule).map (·.1) := by
  rw [keys_entries]
  intro hm
  obtain ⟨r, -, rfl⟩ := List.mem_map.1 hm
  exact hk (he r)

theorem lookup_typed {name key : String} (h : key ≠ "type") : (typed name).lookup key = none := by
  rw [typed, List.lookup_cons, beq_eq_false_iff_ne.2 h]
  rfl

theorem lookup_shape_of_notMem {s : Shape} {key : String} (h : key ∉ s.exportKeys) :
    s.toMembers.lookup key = none := by
  cases s with
  | any => rfl
  | never | literal | among | union | exclusiveUnion | intersection =>
      simp only [Shape.exportKeys, List.mem_singleton] at h
      rw [Shape.toMembers, List.lookup_cons, beq_eq_false_iff_ne.2 h]
      rfl
  | boolean | null =>
      simp only [Shape.exportKeys, List.mem_singleton] at h
      exact lookup_typed h
  | string checks =>
      rw [Shape.exportKeys, List.mem_cons, not_or] at h
      rw [Shape.toMembers, lookup_addEntries_of_notMem (notMem_entries StringRule.keyword_mem h.2),
        lookup_typed h.1]
  | number integer checks =>
      rw [Shape.exportKeys, List.mem_cons, not_or] at h
      rw [Shape.toMembers, lookup_addEntries_of_notMem (notMem_entries NumberRule.keyword_mem h.2),
        lookup_typed h.1]
  | array element checks =>
      rw [Shape.exportKeys, List.mem_cons, not_or, List.mem_cons, not_or] at h
      rw [Shape.toMembers, lookup_addEntries_of_notMem (notMem_entries ArrayRule.keyword_mem h.2.2),
        Json.lookup_put_of_ne h.2.1, lookup_typed h.1]
  | tuple vs =>
      rw [Shape.exportKeys, List.mem_cons, not_or] at h
      rw [Shape.toMembers, lookup_addEntries_of_notMem (by simpa using h.2), lookup_typed h.1]
  | object fields unknown checks =>
      simp only [Shape.exportKeys, List.mem_cons, not_or] at h
      obtain ⟨ht, hp, hr, hk⟩ := h
      rw [Shape.toMembers, lookup_addEntries_of_notMem (notMem_entries ObjectRule.keyword_mem hk)]
      split
      · rw [Json.lookup_put_of_ne hp, lookup_typed ht]
      · rw [Json.lookup_put_of_ne hr, Json.lookup_put_of_ne hp, lookup_typed ht]

theorem lookup_type_shape (s : Shape) :
    s.toMembers.lookup "type" = s.typeName?.map fun t => .string t.name := by
  cases s with
  | any | never | literal | among | union | exclusiveUnion | intersection =>
      exact lookup_shape_of_notMem (by simp [Shape.exportKeys])
  | boolean | null => rfl
  | string checks =>
      rw [Shape.toMembers, lookup_addEntries_of_notMem
        (notMem_entries StringRule.keyword_mem (by decide))]
      rfl
  | number integer checks =>
      rw [Shape.toMembers, lookup_addEntries_of_notMem
        (notMem_entries NumberRule.keyword_mem (by decide))]
      cases integer <;> rfl
  | array element checks =>
      rw [Shape.toMembers, lookup_addEntries_of_notMem
        (notMem_entries ArrayRule.keyword_mem (by decide)), Json.lookup_put_of_ne (by decide)]
      rfl
  | tuple vs =>
      rw [Shape.toMembers, lookup_addEntries_of_notMem (by simp)]
      rfl
  | object fields unknown checks =>
      rw [Shape.toMembers, lookup_addEntries_of_notMem
        (notMem_entries ObjectRule.keyword_mem (by decide))]
      split
      · rw [Json.lookup_put_of_ne (by decide)]
        rfl
      · rw [Json.lookup_put_of_ne (by decide), Json.lookup_put_of_ne (by decide)]
        rfl

theorem lookup_entries {ρ : Type} {entry : ρ → String × Json} {checks : List (Check ρ)}
    {schema : Members} (hd : DistinctRules entry checks) {key : String}
    (hk : schema.lookup key = none) :
    (addEntries schema (checks.map fun c => entry c.rule)).lookup key =
      ((rules checks).map entry).lookup key := by
  have he : (checks.map fun c => entry c.rule) = (rules checks).map entry := by
    simp [rules]
  rw [he]
  by_cases hm : key ∈ ((rules checks).map entry).map (·.1)
  · refine lookup_addEntries ?_ hm
    rw [List.map_map]
    exact hd
  · rw [lookup_addEntries_of_notMem hm, hk]
    symm
    rw [List.lookup_eq_none_iff]
    intro e he
    simp only [bne_iff_ne, ne_eq]
    rintro rfl
    exact hm (List.mem_map_of_mem he)

theorem exportAll_eq_map (vs : List Validator) : exportAll vs = vs.map Validator.toSchema := by
  induction vs with
  | nil => rfl
  | cons v rest ih => rw [exportAll, ih, List.map_cons, Validator.toSchema]

theorem mem_exportFields {fields : List Field} {properties : Members}
    (hd : (fields.map (·.name)).Nodup) (hn : ∀ f ∈ fields, f.name ∉ Json.keys properties)
    {m : String × Json} : m ∈ exportFields properties fields ↔
      m ∈ properties ∨ ∃ f ∈ fields, m = (f.name, f.validator.toSchema) := by
  induction fields generalizing properties with
  | nil => simp [exportFields]
  | cons f rest ih =>
      obtain ⟨name, required, v⟩ := f
      rw [List.map_cons, List.nodup_cons] at hd
      rw [List.forall_mem_cons] at hn
      rw [exportFields, ih hd.2, Json.mem_put_iff hn.1]
      · simp only [List.mem_cons, or_and_right, exists_or, exists_eq_left, or_assoc]
        exact or_left_comm
      · intro f hf hk
        rcases Json.mem_keys_put hk with hk | hk
        · exact hd.1 (List.mem_map.2 ⟨f, hf, hk⟩)
        · exact hn.2 f hf hk

namespace Validator

def base (v : Validator) : Members :=
  if v.nullable then orNull v.shape.toMembers else v.shape.toMembers

def modifierKeys : List String := ["title", "description", "default", "not", "enum"]

theorem toMembers_eq (v : Validator) : v.toMembers =
    putSome "title" (v.title.map .string) (putSome "description" (v.description.map .string)
      (putSome "default" v.defaultValue (putSome "not" (exportOption v.excluded)
        (putSome "enum" (v.allowed.map .array) v.base)))) := by
  rcases v with ⟨shape, nullable, defaultValue, description, title, allowed, excluded⟩
  rw [toMembers]
  rfl

theorem lookup_base (v : Validator) {key : String} (h : key ∉ modifierKeys) :
    v.toMembers.lookup key = v.base.lookup key := by
  simp only [modifierKeys, List.mem_cons, List.not_mem_nil, or_false, not_or] at h
  rw [toMembers_eq, lookup_putSome, if_neg h.1, lookup_putSome, if_neg h.2.1, lookup_putSome,
    if_neg h.2.2.1, lookup_putSome, if_neg h.2.2.2.1, lookup_putSome, if_neg h.2.2.2.2]

theorem lookup_enum (v : Validator) :
    v.toMembers.lookup "enum" = (v.allowed.map .array).or (v.base.lookup "enum") := by
  rw [toMembers_eq, lookup_putSome, if_neg (by decide), lookup_putSome, if_neg (by decide),
    lookup_putSome, if_neg (by decide), lookup_putSome, if_neg (by decide), lookup_putSome,
    if_pos rfl]

theorem lookup_not (v : Validator) :
    v.toMembers.lookup "not" = (exportOption v.excluded).or (v.base.lookup "not") := by
  rw [toMembers_eq, lookup_putSome, if_neg (by decide), lookup_putSome, if_neg (by decide),
    lookup_putSome, if_neg (by decide), lookup_putSome, if_pos rfl, lookup_putSome,
    if_neg (by decide)]

theorem lookup_default (v : Validator) :
    v.toMembers.lookup "default" = v.defaultValue.or (v.base.lookup "default") := by
  rw [toMembers_eq, lookup_putSome, if_neg (by decide), lookup_putSome, if_neg (by decide),
    lookup_putSome, if_pos rfl, lookup_putSome, if_neg (by decide), lookup_putSome,
    if_neg (by decide)]

theorem base_of_not_nullable {v : Validator} (h : v.nullable = false) :
    v.base = v.shape.toMembers := by
  rw [base, h, if_neg (by decide)]

theorem base_of_null {v : Validator} (h : v.shape = .null) : v.base = typed "null" := by
  rw [base, h]
  cases v.nullable <;> rfl

theorem base_of_typed {v : Validator} (h : v.nullable = true) {t : TypeName}
    (ht : v.shape.typeName? = some t) (hn : t ≠ .null) :
    v.base = put "type" (.array [.string t.name, .string "null"]) v.shape.toMembers := by
  have hname : t.name ≠ "null" := by
    cases t <;> first | decide | exact absurd rfl hn
  rw [base, if_pos h, orNull, lookup_type_shape, ht]
  exact if_neg hname

theorem base_of_untyped {v : Validator} (h : v.nullable = true) (ht : v.shape.typeName? = none) :
    v.base = [("anyOf", .array [.object v.shape.toMembers, .object (typed "null")])] := by
  rw [base, if_pos h, orNull, lookup_type_shape, ht]
  rfl

theorem lookup_type_of_typed {v : Validator} {t : TypeName} (ht : v.shape.typeName? = some t) :
    v.toMembers.lookup "type" = some (if v.nullable = true ∧ t ≠ .null then
      .array [.string t.name, .string "null"] else .string t.name) := by
  rw [lookup_base v (by decide)]
  split
  next h =>
    rw [base_of_typed h.1 ht h.2, Json.lookup_put_self]
  next h =>
    by_cases hn : v.nullable = true
    · have hnull : t = .null := by
        by_contra hne
        exact h ⟨hn, hne⟩
      subst hnull
      rw [base_of_null (Shape.eq_null_of_typeName? ht)]
      rfl
    · rw [base_of_not_nullable (Bool.eq_false_iff.2 hn), lookup_type_shape, ht]
      rfl

theorem lookup_of_typed {v : Validator} {t : TypeName} (ht : v.shape.typeName? = some t)
    {key : String} (hk : key ∉ "type" :: modifierKeys) :
    v.toMembers.lookup key = v.shape.toMembers.lookup key := by
  rw [List.mem_cons, not_or] at hk
  rw [lookup_base v hk.2]
  by_cases hn : v.nullable = true
  · by_cases hnull : t = .null
    · subst hnull
      have hs := Shape.eq_null_of_typeName? ht
      rw [base_of_null hs, hs]
      rfl
    · rw [base_of_typed hn ht hnull, Json.lookup_put_of_ne hk.1]
  · rw [base_of_not_nullable (Bool.eq_false_iff.2 hn)]

theorem lookup_of_untyped {v : Validator} (hn : v.nullable = true) (ht : v.shape.typeName? = none)
    {key : String} (hk : key ∉ "anyOf" :: modifierKeys) : v.toMembers.lookup key = none := by
  rw [List.mem_cons, not_or] at hk
  rw [lookup_base v hk.2, base_of_untyped hn ht, List.lookup_cons, beq_eq_false_iff_ne.2 hk.1]
  rfl

theorem lookup_anyOf_of_untyped {v : Validator} (hn : v.nullable = true)
    (ht : v.shape.typeName? = none) : v.toMembers.lookup "anyOf" =
      some (.array [.object v.shape.toMembers, .object (typed "null")]) := by
  rw [lookup_base v (by decide), base_of_untyped hn ht]
  rfl

theorem lookup_of_not_nullable {v : Validator} (hn : v.nullable = false) {key : String}
    (hk : key ∉ v.shape.exportKeys ++ modifierKeys) : v.toMembers.lookup key = none := by
  rw [List.mem_append, not_or] at hk
  rw [lookup_base v hk.2, base_of_not_nullable hn, lookup_shape_of_notMem hk.1]

theorem lookup_type_of_untyped {v : Validator} (ht : v.shape.typeName? = none) :
    v.toMembers.lookup "type" = none := by
  by_cases hn : v.nullable = true
  · exact lookup_of_untyped hn ht (by decide)
  · rw [lookup_base v (by decide), base_of_not_nullable (Bool.eq_false_iff.2 hn),
      lookup_type_shape, ht]
    rfl

theorem lookup_of_notMem (v : Validator) {key : String}
    (hk : key ∉ Shape.allKeys ++ modifierKeys) : v.toMembers.lookup key = none := by
  rw [List.mem_append, not_or] at hk
  have ht : key ≠ "type" := by
    rintro rfl
    exact hk.1 (by decide)
  have ha : key ≠ "anyOf" := by
    rintro rfl
    exact hk.1 (by decide)
  have hs : v.shape.toMembers.lookup key = none :=
    lookup_shape_of_notMem fun hm => hk.1 (Shape.exportKeys_subset _ hm)
  cases h : v.shape.typeName? with
  | some t => rw [lookup_of_typed h (by simp [ht, hk.2]), hs]
  | none =>
      by_cases hn : v.nullable = true
      · exact lookup_of_untyped hn h (by simp [ha, hk.2])
      · rw [lookup_base v hk.2, base_of_not_nullable (Bool.eq_false_iff.2 hn), hs]

theorem lookup_of_typed_of_notMem {v : Validator} {t : TypeName}
    (ht : v.shape.typeName? = some t) {key : String} (hk : key ∉ Shape.typedKeys ++ modifierKeys) :
    v.toMembers.lookup key = none := by
  rw [List.mem_append, not_or] at hk
  have hne : key ≠ "type" := by
    rintro rfl
    exact hk.1 (by decide)
  rw [lookup_of_typed ht (by simp [hne, hk.2])]
  exact lookup_shape_of_notMem fun hm => hk.1 (Shape.exportKeys_subset_typedKeys ht hm)

theorem base_lookup_eq_none (v : Validator) {key : String} (ht : key ≠ "type") (ha : key ≠ "anyOf")
    (hk : v.nullable = false ∨ v.shape.typeName?.isSome = true → key ∉ v.shape.exportKeys) :
    v.base.lookup key = none := by
  by_cases hn : v.nullable = true
  · cases h : v.shape.typeName? with
    | none =>
        rw [base_of_untyped hn h, List.lookup_cons, beq_eq_false_iff_ne.2 ha]
        rfl
    | some t =>
        have hs : v.shape.toMembers.lookup key = none :=
          lookup_shape_of_notMem (hk (.inr (by rw [h]; rfl)))
        by_cases hnull : t = .null
        · subst hnull
          rw [base_of_null (Shape.eq_null_of_typeName? h)]
          exact lookup_typed ht
        · rw [base_of_typed hn h hnull, Json.lookup_put_of_ne ht, hs]
  · have hn := Bool.eq_false_iff.2 hn
    rw [base_of_not_nullable hn, lookup_shape_of_notMem (hk (.inl hn))]

theorem lookup_default_eq (v : Validator) : v.toMembers.lookup "default" = v.defaultValue := by
  rw [lookup_default, base_lookup_eq_none v (by decide) (by decide), Option.or_none]
  exact fun _ hm => absurd (Shape.exportKeys_subset _ hm) (by decide)

theorem lookup_enum_eq (v : Validator) (h : v.nullable = true ∨ "enum" ∉ v.shape.exportKeys) :
    v.toMembers.lookup "enum" = v.allowed.map .array := by
  rw [lookup_enum, base_lookup_eq_none v (by decide) (by decide), Option.or_none]
  rintro (hn | ht) hm
  · rw [hn] at h
    exact h.resolve_left (by decide) hm
  · obtain ⟨t, ht⟩ := Option.isSome_iff_exists.1 ht
    exact absurd (Shape.exportKeys_subset_typedKeys ht hm) (by decide)

theorem lookup_not_eq (v : Validator) (h : v.nullable = true ∨ "not" ∉ v.shape.exportKeys) :
    v.toMembers.lookup "not" = exportOption v.excluded := by
  rw [lookup_not, base_lookup_eq_none v (by decide) (by decide), Option.or_none]
  rintro (hn | ht) hm
  · rw [hn] at h
    exact h.resolve_left (by decide) hm
  · obtain ⟨t, ht⟩ := Option.isSome_iff_exists.1 ht
    exact absurd (Shape.exportKeys_subset_typedKeys ht hm) (by decide)

end Validator

theorem exportFields_of_sorted {fields : List Field} {properties : Members}
    (h : Json.Sorted (properties ++ fields.map fun f => (f.name, f.validator.toSchema))) :
    exportFields properties fields =
      properties ++ fields.map fun f => (f.name, f.validator.toSchema) := by
  induction fields generalizing properties with
  | nil => rw [exportFields, List.map_nil, List.append_nil]
  | cons f rest ih =>
      obtain ⟨name, required, v⟩ := f
      rw [List.map_cons, List.append_cons] at h
      have hlast : ∀ key ∈ Json.keys properties, key < name := by
        intro key hk
        rw [Json.Sorted, Json.keys, List.append_assoc, List.map_append,
          List.pairwise_append] at h
        exact h.2.2 key hk name (List.mem_cons_self ..)
      rw [exportFields, Json.put_of_lt hlast, ← Validator.toSchema, ih h, List.append_assoc]
      rfl

theorem sorted_typed (name : String) : Json.Sorted (typed name) := List.pairwise_singleton _ _

theorem Json.Sorted.addEntries {schema : Members} (h : Sorted schema)
    (entries : List (String × Json)) : Sorted (addEntries schema entries) := by
  induction entries generalizing schema with
  | nil => exact h
  | cons e rest ih => exact ih (h.put e.1 e.2)

theorem Json.Sorted.putSome {schema : Members} (h : Sorted schema) (key : String)
    (x : Option Json) : Sorted (putSome key x schema) := by
  cases x with
  | none => exact h
  | some x => exact h.put key x

theorem sorted_orNull {schema : Members} (h : Json.Sorted schema) :
    Json.Sorted (orNull schema) := by
  rw [orNull]
  split
  · split
    · exact h
    · exact h.put _ _
  · exact List.pairwise_singleton _ _

theorem sorted_shape (s : Shape) : Json.Sorted s.toMembers := by
  cases s with
  | any => exact List.Pairwise.nil
  | never | literal | among | union | exclusiveUnion | intersection =>
      exact List.pairwise_singleton _ _
  | boolean | null => exact sorted_typed _
  | string checks | number integer checks => exact (sorted_typed _).addEntries _
  | array element checks => exact ((sorted_typed _).put _ _).addEntries _
  | tuple vs => exact (sorted_typed _).addEntries _
  | object fields unknown checks =>
      rw [Shape.toMembers]
      refine Json.Sorted.addEntries ?_ _
      split
      · exact (sorted_typed _).put _ _
      · exact ((sorted_typed _).put _ _).put _ _

theorem sorted_toMembers (v : Validator) : Json.Sorted v.toMembers := by
  have hbase : Json.Sorted v.base := by
    rw [Validator.base]
    split
    · exact sorted_orNull (sorted_shape _)
    · exact sorted_shape _
  rw [v.toMembers_eq]
  exact ((((hbase.putSome _ _).putSome _ _).putSome _ _).putSome _ _).putSome _ _

end SchemaCheck
