import SchemaCheck.Proofs.Schema.Restore

namespace SchemaCheck

open Json (Members put)
open Check (rules)
open Schema (TypeName mergeableKeys mergeableTypes? mergeParts? mergeAlternatives? typeValue)

/-- The shape says its type, and besides it the element of an array at most. -/
def Shape.isBare : Shape → Bool
  | .boolean => true
  | .null => true
  | .string checks => checks.isEmpty
  | .number _ checks => checks.isEmpty
  | .array _ checks => checks.isEmpty
  | _ => false

namespace Validator

def isBare (v : Validator) : Bool := v.shape.isBare && v.allowed.isNone && v.excluded.isNone

def element? (v : Validator) : Option Validator :=
  match v.shape with
  | .array element _ => some element
  | _ => none

def types (v : Validator) : List TypeName :=
  match v.shape.typeName? with
  | none => []
  | some t => if v.nullable = true ∧ t ≠ .null then [t, .null] else [t]

end Validator

/-- The element of all arrays, if the shape is a union whose export is merged. -/
def Shape.mergedElement? : Shape → Option Validator
  | .union vs => if vs.all (·.isBare) then vs.findSome? (·.element?) else none
  | _ => none

def Schema.TypeName.bare (element : Validator) : TypeName → Shape
  | .object => .object [] .accept []
  | .array => .array element []
  | .string => .string []
  | .number => .number false []
  | .integer => .number true []
  | .boolean => .boolean
  | .null => .null

section Bare

variable {t : TypeName} {element : Validator}

theorem Shape.isBare_iff {s : Shape} :
    s.isBare = true ↔ ∃ t element, t ≠ .object ∧ s = TypeName.bare element t := by
  constructor
  · intro h
    cases s with
    | boolean => exact ⟨.boolean, .any, by decide, rfl⟩
    | null => exact ⟨.null, .any, by decide, rfl⟩
    | string checks =>
        obtain rfl : checks = [] := List.isEmpty_iff.1 h
        exact ⟨.string, .any, by decide, rfl⟩
    | number integer checks =>
        obtain rfl : checks = [] := List.isEmpty_iff.1 h
        cases integer with
        | false => exact ⟨.number, .any, by decide, rfl⟩
        | true => exact ⟨.integer, .any, by decide, rfl⟩
    | array element checks =>
        obtain rfl : checks = [] := List.isEmpty_iff.1 h
        exact ⟨.array, element, by decide, rfl⟩
    | any | never | literal | among | tuple | object | union | exclusiveUnion | intersection =>
        cases h
  · rintro ⟨t, element, ht, rfl⟩
    cases t with
    | object => exact absurd rfl ht
    | array | string | number | integer | boolean | null => rfl

theorem typeName?_bare : (t.bare element).typeName? = some t := by
  cases t <;> rfl

theorem key_of_bare (ht : t ≠ .object) {m : String × Json} (hm : m ∈ (t.bare element).toMembers) :
    m.1 = "type" ∨ m.1 = "items" := by
  have htyped : ∀ name, m ∈ typed name → m.1 = "type" ∨ m.1 = "items" := by
    intro name hm
    obtain rfl : m = ("type", .string name) := by simpa [typed] using hm
    exact .inl rfl
  cases t with
  | object => exact absurd rfl ht
  | array =>
      rcases Json.mem_put hm with rfl | hm
      · exact .inr rfl
      · exact htyped _ hm
  | string | number | integer | boolean | null => exact htyped _ hm

theorem Validator.bare_of_isBare {v : Validator} (h : v.isBare = true) : ∃ t element,
    t ≠ .object ∧ v.shape = TypeName.bare element t ∧ v.allowed = none ∧ v.excluded = none := by
  obtain ⟨hs, ha, hx⟩ : v.shape.isBare = true ∧ v.allowed = none ∧ v.excluded = none := by
    simpa [Validator.isBare, and_assoc] using h
  obtain ⟨t, element, ht, hb⟩ := Shape.isBare_iff.1 hs
  exact ⟨t, element, ht, hb, ha, hx⟩

theorem mem_types {v : Validator} (ht : v.shape.typeName? = some t) (u : TypeName) :
    u ∈ v.types ↔ u = t ∨ (v.nullable = true ∧ u = .null) := by
  rw [Validator.types, ht]
  by_cases hn : v.nullable = true
  · by_cases hnull : t = .null
    · simp [hnull]
    · simp [hn, hnull]
  · simp [hn]

theorem element?_eq_some {v : Validator} :
    v.element? = some element ↔ ∃ checks, v.shape = .array element checks := by
  rw [Validator.element?]
  cases v.shape with
  | array e checks => simp
  | any | never | boolean | null | literal | among | string | number | tuple | object | union
  | exclusiveUnion | intersection => simp

theorem array_mem_types {v : Validator} (h : v.isBare = true) :
    .array ∈ v.types ↔ ∃ element, v.element? = some element := by
  obtain ⟨t, e, -, hs, -⟩ := v.bare_of_isBare h
  rw [mem_types (hs ▸ typeName?_bare)]
  simp only [element?_eq_some, hs]
  cases t <;> simp [TypeName.bare]

theorem object_notMem_types {v : Validator} (h : v.isBare = true) : .object ∉ v.types := by
  obtain ⟨t, e, ht, hs, -⟩ := v.bare_of_isBare h
  rw [mem_types (hs ▸ typeName?_bare)]
  rintro (rfl | ⟨-, hn⟩)
  · exact ht rfl
  · cases hn

theorem lookup_items_of_isBare {v : Validator} (h : v.isBare = true) :
    v.toMembers.lookup "items" = v.element?.map Validator.toSchema := by
  obtain ⟨t, e, ht, hs, -⟩ := v.bare_of_isBare h
  rw [Validator.lookup_of_typed (hs ▸ typeName?_bare) (by decide), Validator.element?, hs]
  cases t with
  | object => exact absurd rfl ht
  | array => exact Schema.lookup_items_array e []
  | string | number | integer | boolean | null => rfl

end Bare

theorem mem_putSome {key : String} {x : Option Json} {schema : Members} {m : String × Json}
    (h : m ∈ putSome key x schema) : m.1 = key ∨ m ∈ schema := by
  cases x with
  | none => exact .inr h
  | some x =>
      rcases Json.mem_put h with rfl | h
      · exact .inl rfl
      · exact .inr h

namespace Validator

theorem key_of_isBare {v : Validator} (h : v.isBare = true) {m : String × Json}
    (hm : m ∈ v.toMembers) : m.1 ∈ mergeableKeys := by
  obtain ⟨t, element, ht, hs, ha, hx⟩ := v.bare_of_isBare h
  have hshape : ∀ m ∈ v.shape.toMembers, m.1 = "type" ∨ m.1 = "items" := by
    rw [hs]
    exact fun m => key_of_bare ht
  have hbase : ∀ m ∈ v.base, m.1 = "type" ∨ m.1 = "items" := by
    intro m hm
    rw [base, orNull, lookup_type_shape, hs, typeName?_bare, ← hs] at hm
    simp only [Option.map_some] at hm
    split at hm
    · split at hm
      · exact hshape m hm
      · rcases Json.mem_put hm with rfl | hm
        · exact .inl rfl
        · exact hshape m hm
    · exact hshape m hm
  rw [toMembers_eq, ha, hx] at hm
  have hkeys : m.1 ∈ ["title", "description", "default", "type", "items"] := by
    rcases mem_putSome hm with h | hm
    · simp [h]
    · rcases mem_putSome hm with h | hm
      · simp [h]
      · rcases mem_putSome hm with h | hm
        · simp [h]
        · rcases hbase m hm with h | h <;> simp [h]
  revert hkeys
  generalize m.1 = key
  revert key
  decide

theorem mergeableTypes?_of_isBare {v : Validator} (h : v.isBare = true) :
    mergeableTypes? v.toMembers = some (v.types.map TypeName.name) := by
  obtain ⟨t, element, -, hs, -⟩ := v.bare_of_isBare h
  have ht : v.shape.typeName? = some t := hs ▸ typeName?_bare
  have hk : (v.toMembers.all fun m => mergeableKeys.contains m.1) = true :=
    List.all_eq_true.2 fun m hm => List.contains_iff_mem.2 (key_of_isBare h hm)
  rw [mergeableTypes?, if_pos hk, lookup_type_of_typed ht, types, ht]
  by_cases hn : v.nullable = true ∧ t ≠ .null
  · simp only [if_pos hn]
    rfl
  · simp only [if_neg hn]
    rfl

end Validator

theorem mergeableTypes?_of_key {schema : Members} (key : String) (hk : key ∉ mergeableKeys)
    {x : Json} (hx : schema.lookup key = some x) : mergeableTypes? schema = none := by
  rw [mergeableTypes?, if_neg]
  intro hall
  have hm := List.all_eq_true.1 hall _ (Json.mem_of_lookup hx)
  exact hk (List.contains_iff_mem.1 hm)

theorem exists_lookup_addEntries {key : String} {entries : List (String × Json)}
    (h : key ∈ entries.map (·.1)) (schema : Members) :
    ∃ x, (addEntries schema entries).lookup key = some x := by
  induction entries generalizing schema with
  | nil => cases h
  | cons e rest ih =>
      rw [addEntries, List.foldl_cons, ← addEntries]
      by_cases hm : key ∈ rest.map (·.1)
      · exact ih hm _
      · obtain rfl : key = e.1 := (List.mem_cons.1 h).resolve_right hm
        exact ⟨e.2, by rw [lookup_addEntries_of_notMem hm, Json.lookup_put_self]⟩

theorem exists_key_of_rule {ρ : Type} (entry : ρ → String × Json) {keywords : List String}
    (he : ∀ r, (entry r).1 ∈ keywords)
    (hk : ∀ key ∈ keywords, key ∉ mergeableKeys ∧ key ∉ "type" :: Validator.modifierKeys)
    {checks : List (Check ρ)} (hne : checks.isEmpty = false) (schema : Members) :
    ∃ key x, key ∉ mergeableKeys ∧ key ∉ "type" :: Validator.modifierKeys ∧
      (addEntries schema (checks.map fun c => entry c.rule)).lookup key = some x := by
  obtain ⟨c, rest, rfl⟩ : ∃ c rest, checks = c :: rest := by
    cases checks with
    | nil => cases hne
    | cons c rest => exact ⟨c, rest, rfl⟩
  have hmem : (entry c.rule).1 ∈ ((c :: rest).map fun c => entry c.rule).map (·.1) := by simp
  obtain ⟨x, hx⟩ := exists_lookup_addEntries hmem schema
  exact ⟨_, x, (hk _ (he c.rule)).1, (hk _ (he c.rule)).2, hx⟩

namespace Shape

theorem exists_key_of_not_isBare {s : Shape} {t : TypeName} (ht : s.typeName? = some t)
    (h : s.isBare = false) : ∃ key x, key ∉ mergeableKeys ∧
      key ∉ "type" :: Validator.modifierKeys ∧ s.toMembers.lookup key = some x := by
  cases s with
  | any | never | literal | among | union | exclusiveUnion | intersection => cases ht
  | boolean | null => cases h
  | string checks =>
      exact exists_key_of_rule StringRule.entry StringRule.keyword_mem (by decide) h _
  | number integer checks =>
      exact exists_key_of_rule NumberRule.entry NumberRule.keyword_mem (by decide) h _
  | array element checks =>
      exact exists_key_of_rule ArrayRule.entry ArrayRule.keyword_mem (by decide) h _
  | tuple vs =>
      refine ⟨"minItems", .int vs.length, by decide, by decide, ?_⟩
      rw [Shape.toMembers, lookup_addEntries (by simp) (by simp)]
      rfl
  | object fields unknown checks =>
      refine ⟨"properties", .object (exportFields [] fields), by decide, by decide, ?_⟩
      rw [Schema.lookup_object (by decide), Schema.lookup_properties]

end Shape

theorem Validator.mergeableTypes?_of_not_isBare {v : Validator} (h : v.isBare = false) :
    mergeableTypes? v.toMembers = none := by
  cases ht : v.shape.typeName? with
  | none =>
      rw [mergeableTypes?, lookup_type_of_untyped ht]
      split <;> rfl
  | some t =>
      cases ha : v.allowed with
      | some values =>
          apply mergeableTypes?_of_key "enum" (by decide) (x := .array values)
          rw [lookup_enum, ha]
          rfl
      | none =>
          cases hx : v.excluded with
          | some w =>
              apply mergeableTypes?_of_key "not" (by decide) (x := w.toSchema)
              rw [lookup_not, hx]
              rfl
          | none =>
              have hs : v.shape.isBare = false := by simpa [isBare, ha, hx] using h
              obtain ⟨key, x, hm, hk, hx⟩ := Shape.exists_key_of_not_isBare ht hs
              exact mergeableTypes?_of_key key hm ((lookup_of_typed ht hk).trans hx)

namespace Schema

theorem TypeName.name_injective {t u : TypeName} (h : t.name = u.name) : t = u :=
  Option.some.inj <| (TypeName.ofName?_name t).symm.trans (h ▸ TypeName.ofName?_name u)

theorem contains_name {ts : List TypeName} {t : TypeName} :
    (ts.map TypeName.name).contains t.name = true ↔ t ∈ ts := by
  rw [List.contains_iff_mem]
  exact List.mem_map_of_injective fun _ _ => TypeName.name_injective

def addType (ts : List TypeName) (t : TypeName) : List TypeName := if t ∈ ts then ts else ts ++ [t]

theorem mem_foldl_addType {ts us : List TypeName} {t : TypeName} :
    t ∈ us.foldl addType ts ↔ t ∈ ts ∨ t ∈ us := by
  induction us generalizing ts with
  | nil => simp
  | cons u rest ih =>
      rw [List.foldl_cons, ih, addType, List.mem_cons]
      split
      next hu =>
        constructor
        · exact Or.imp id .inr
        · rintro (h | rfl | h)
          · exact .inl h
          · exact .inl hu
          · exact .inr h
      next => rw [List.mem_append, List.mem_singleton, or_assoc]

theorem foldl_names (ts us : List TypeName) :
    (us.map TypeName.name).foldl (fun names n => if names.contains n then names else names ++ [n])
      (ts.map TypeName.name) = (us.foldl addType ts).map TypeName.name := by
  induction us generalizing ts with
  | nil => rfl
  | cons u rest ih =>
      rw [List.map_cons, List.foldl_cons, List.foldl_cons, ← ih, addType]
      by_cases hu : u ∈ ts
      · rw [if_pos (contains_name.2 hu), if_pos hu]
      · rw [if_neg (mt contains_name.1 hu), if_neg hu, List.map_append]
        rfl

theorem mergeParts?_of_isBare {vs : List Validator} (h : ∀ v ∈ vs, v.isBare = true)
    (ts : List TypeName) (items : Option Json) : ∃ us : List TypeName,
      mergeParts? (exportAll vs) (ts.map TypeName.name) items = some (us.map TypeName.name,
        items.or ((vs.findSome? Validator.element?).map Validator.toSchema)) ∧
      ∀ t, t ∈ us ↔ t ∈ ts ∨ ∃ v ∈ vs, t ∈ v.types := by
  induction vs generalizing ts items with
  | nil => exact ⟨ts, by simp [exportAll, mergeParts?], fun t => by simp⟩
  | cons v rest ih =>
      rw [List.forall_mem_cons] at h
      obtain ⟨us, hus, hmem⟩ := ih h.2 (v.types.foldl addType ts)
        (items.or (v.element?.map Validator.toSchema))
      refine ⟨us, ?_, fun t => ?_⟩
      · rw [exportAll, mergeParts?, Validator.mergeableTypes?_of_isBare h.1, Option.bind_some,
          foldl_names, lookup_items_of_isBare h.1, hus, List.findSome?_cons, Option.or_assoc]
        cases v.element? <;> simp
      · rw [hmem, mem_foldl_addType, or_assoc]
        simp

theorem mergeParts?_of_not_isBare {vs : List Validator} (h : ∃ v ∈ vs, v.isBare = false)
    (names : List String) (items : Option Json) :
    mergeParts? (exportAll vs) names items = none := by
  induction vs generalizing names items with
  | nil => simp at h
  | cons v rest ih =>
      rw [exportAll, mergeParts?]
      cases hv : v.isBare with
      | false => rw [Validator.mergeableTypes?_of_not_isBare hv, Option.bind_none]
      | true =>
          rw [Validator.mergeableTypes?_of_isBare hv, Option.bind_some]
          apply ih
          simpa [hv] using h

/-- Bare alternatives are merged just if one of them is an array. -/
theorem mergeAlternatives?_of_isBare {vs : List Validator} (h : ∀ v ∈ vs, v.isBare = true) :
    ∃ ts : List TypeName, (∀ t, t ∈ ts ↔ ∃ v ∈ vs, t ∈ v.types) ∧
      mergeAlternatives? (exportAll vs) = (vs.findSome? Validator.element?).map fun element =>
        [("items", element.toSchema), ("type", typeValue (ts.map TypeName.name))] := by
  obtain ⟨ts, hts, hm⟩ := mergeParts?_of_isBare h [] none
  have hm' : ∀ t, t ∈ ts ↔ ∃ v ∈ vs, t ∈ v.types := by simpa using hm
  refine ⟨ts, hm', ?_⟩
  rw [List.map_nil] at hts
  rw [mergeAlternatives?, hts, Option.bind_some, Option.none_or]
  cases he : vs.findSome? Validator.element? with
  | some element =>
      obtain ⟨v, hv, hve⟩ := List.exists_of_findSome?_eq_some he
      have ha : .array ∈ ts := (hm' _).2 ⟨v, hv, (array_mem_types (h v hv)).2 ⟨element, hve⟩⟩
      exact if_pos (contains_name.2 ha)
  | none =>
      have ha : .array ∉ ts := by
        intro ha
        obtain ⟨v, hv, hvt⟩ := (hm' _).1 ha
        obtain ⟨element, hve⟩ := (array_mem_types (h v hv)).1 hvt
        rw [List.findSome?_eq_none_iff.1 he v hv] at hve
        cases hve
      exact if_neg (mt contains_name.1 ha)

theorem bare_of_mergedElement? {vs : List Validator} {element : Validator}
    (h : (Shape.union vs).mergedElement? = some element) :
    (∀ v ∈ vs, v.isBare = true) ∧ vs.findSome? Validator.element? = some element := by
  rw [Shape.mergedElement?] at h
  split at h
  next hall => exact ⟨List.all_eq_true.1 hall, h⟩
  next => cases h

theorem mergeAlternatives?_eq_none {vs : List Validator}
    (h : (Shape.union vs).mergedElement? = none) : mergeAlternatives? (exportAll vs) = none := by
  rw [Shape.mergedElement?] at h
  split at h
  next hall =>
    obtain ⟨ts, -, hts⟩ := mergeAlternatives?_of_isBare (List.all_eq_true.1 hall)
    rw [hts, h]
    rfl
  next hall =>
    have hb : ∃ v ∈ vs, v.isBare = false := by simpa using hall
    rw [mergeAlternatives?, mergeParts?_of_not_isBare hb, Option.bind_none]

end Schema

end SchemaCheck
