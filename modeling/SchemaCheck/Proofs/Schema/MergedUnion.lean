import SchemaCheck.Proofs.Schema.Merging

namespace SchemaCheck

open Json (Members)
open Check (rules)
open Schema (TypeName)

/-- What the export of the shape is read as. Arrays that are merged take the element of the
first. -/
def Shape.Reread (s : Shape) (x : Json) : Prop :=
  s.Accepts x ∧ ∀ element, s.mergedElement? = some element →
    ∀ items, x = .array items → ∀ y ∈ items, element.Accepts y

namespace Schema

theorem mapM_read (ts : List TypeName) : (ts.map TypeName.name).mapM TypeName.read = .ok ts := by
  induction ts with
  | nil => rfl
  | cons t rest ih =>
      rw [List.map_cons, List.mapM_cons, ih, TypeName.read, TypeName.ofName?_name]
      rfl

theorem ofType_array (ts : List TypeName) :
    Form.ofType (.array (ts.map fun t => .string t.name)) = Form.ofTypes ts := by
  have hnames : (ts.map fun t => Json.string t.name) = (ts.map TypeName.name).map .string := by
    rw [List.map_map]
    rfl
  rw [hnames]
  change (strings .typeEntryNotString ((ts.map TypeName.name).map .string) >>=
    fun names => names.mapM TypeName.read >>= Form.ofTypes) = _
  rw [strings_map]
  change (ts.map TypeName.name).mapM TypeName.read >>= Form.ofTypes = _
  rw [mapM_read]
  rfl

theorem ofType_typeValue (ts : List TypeName) :
    Form.ofType (typeValue (ts.map TypeName.name)) = Form.ofTypes ts := by
  match ts with
  | [] => rfl
  | [t] =>
      change (TypeName.read t.name).map Form.typed = _
      rw [TypeName.read, TypeName.ofName?_name]
      rfl
  | t :: u :: rest =>
      change Form.ofType (.array (((t :: u :: rest).map TypeName.name).map .string)) = _
      rw [List.map_map]
      exact ofType_array _

section Bare

variable {t : TypeName} {element : Validator} {x : Json}

theorem wellFormed_bare : (t.bare element).WellFormed := by
  cases t <;> simp [TypeName.bare, Shape.WellFormed, DistinctRules, rules]

theorem bare_accepts_null : (t.bare element).Accepts .null ↔ t = .null := by
  cases t <;> simp [TypeName.bare, Shape.Accepts, Shape.eval, Json.isNull, keepIf]

theorem bare_accepts_array {items : List Json} : (t.bare element).Accepts (.array items) ↔
    t = .array ∧ ∀ y ∈ items, element.Accepts y := by
  cases t with
  | array => simp [TypeName.bare, Shape.accepts_array, rules, Rule.AllHold]
  | null | boolean => simp [TypeName.bare, Shape.Accepts, Shape.eval, Json.isNull, keepIf]
  | object => simp [TypeName.bare, Shape.accepts_object]
  | string => simp [TypeName.bare, Shape.accepts_string]
  | number | integer => simp [TypeName.bare, Shape.accepts_number]

theorem bare_accepts_congr (other : Validator) (hx : ∀ items, x ≠ .array items) :
    (t.bare element).Accepts x ↔ (t.bare other).Accepts x := by
  cases t with
  | array =>
      have hn : ∀ e : Validator, ¬ (Shape.array e []).Accepts x := by
        intro e h
        obtain ⟨items, he, -⟩ := Shape.accepts_array.1 h
        exact hx items he
      exact iff_of_false (hn element) (hn other)
  | null | boolean | object | string | number | integer => exact Iff.rfl

theorem describes_bare {node : Members} (ho : t ≠ .object)
    (hi : node.lookup "items" = some element.toSchema)
    (hn : ∀ key, key ≠ "items" → key ≠ "type" → node.lookup key = none) :
    Describes node t (t.bare element) := by
  intro key hk
  cases t with
  | object => exact absurd rfl ho
  | array =>
      by_cases he : key = "items"
      · subst he
        rw [hi]
        exact (lookup_items_array element []).symm
      · have ht : key ≠ "type" := by
          revert key
          decide
        rw [hn key he ht]
        exact ((Json.lookup_put_of_ne he _ _).trans (lookup_typed ht)).symm
  | boolean | null | string | number | integer =>
      have hne : key ≠ "items" ∧ key ≠ "type" := by
        revert key
        decide
      rw [hn key hne.1 hne.2]
      exact (lookup_typed hne.2).symm

theorem retyped_bare {path : String} {child : ChildCompiler} {node : Members} (ho : t ≠ .object)
    (he : Restores child element) (hi : node.lookup "items" = some element.toSchema)
    (hn : ∀ key, key ≠ "items" → key ≠ "type" → node.lookup key = none) :
    Retyped path child node t (t.bare element) := by
  refine retyped typeName?_bare wellFormed_bare ?_ ?_ (describes_bare ho hi hn)
  · cases t <;> trivial
  · intro v hv
    cases t with
    | array =>
        obtain rfl : v = element := by simpa [TypeName.bare, Shape.validators] using hv
        exact he
    | object => exact absurd rfl ho
    | boolean | null | string | number | integer => cases hv

end Bare

variable {path : String} {child : ChildCompiler} {element : Validator}

def mergedNode (element : Validator) (ts : List TypeName) : Members :=
  [("items", element.toSchema), ("type", typeValue (ts.map TypeName.name))]

theorem lookup_mergedNode {ts : List TypeName} {key : String} (hi : key ≠ "items")
    (ht : key ≠ "type") : (mergedNode element ts).lookup key = none := by
  rw [mergedNode, List.lookup_cons, beq_eq_false_iff_ne.2 hi, List.lookup_cons,
    beq_eq_false_iff_ne.2 ht]
  rfl

theorem ofTypeOrConst_mergedNode (ts : List TypeName) :
    Form.ofTypeOrConst (mergedNode element ts) = Form.ofTypes ts := by
  have hc : (mergedNode element ts).lookup "const" = none :=
    lookup_mergedNode (by decide) (by decide)
  have ht : (mergedNode element ts).lookup "type" = some (typeValue (ts.map TypeName.name)) := rfl
  rw [Form.ofTypeOrConst, hc, ht]
  exact ofType_typeValue ts

theorem retyped_narrow_mergedNode {ts : List TypeName} (he : Restores child element) {t : TypeName}
    (ht : t ≠ .object) :
    Retyped path child (narrow (mergedNode element ts) t) t (t.bare element) := by
  apply retyped_bare ht he
  · rw [narrow, Json.lookup_put_of_ne (by decide), Json.lookup_drop, if_neg (by decide)]
    rfl
  · intro key hi ht
    rw [narrow, Json.lookup_put_of_ne ht, Json.lookup_drop, lookup_mergedNode hi ht, ite_self]

theorem compileMerged_bare (path : String) {ts : List TypeName} (he : Restores child element)
    (ha : .array ∈ ts) (ho : .object ∉ ts) :
    ∃ s n, compileMerged path child (mergedNode element ts) =
        .ok { Validator.ofShape s with nullable := n } ∧ (n = true ↔ .null ∈ ts) ∧
      ∀ x, s.Accepts x ↔ ∃ t ∈ ts, t ≠ .null ∧ (t.bare element).Accepts x := by
  rcases ts with _ | ⟨t, _ | ⟨u, rest⟩⟩
  · cases ha
  · obtain rfl := List.mem_singleton.1 ha
    have hr : Retyped path child (mergedNode element [.array]) .array
        (TypeName.array.bare element) :=
      retyped_bare (by decide) he rfl fun _ => lookup_mergedNode
    obtain ⟨s, hs, hsa⟩ := hr
    refine ⟨s, false, ?_, by decide, fun x => by simp [hsa]⟩
    rw [compileMerged, ofTypeOrConst_mergedNode]
    exact hs
  · have hr : ∀ t' ∈ t :: u :: rest, t' ≠ .null →
        Retyped path child (narrow (mergedNode element (t :: u :: rest)) t') t'
          (t'.bare element) := by
      intro t' ht' _
      apply retyped_narrow_mergedNode he
      rintro rfl
      exact ho ht'
    obtain ⟨s, hs, hsa⟩ := compileTypes_retyped ⟨_, ha, by decide⟩ hr
    refine ⟨s, _, ?_, List.contains_iff_mem, hsa⟩
    rw [compileMerged, ofTypeOrConst_mergedNode]
    exact hs

theorem accepts_of_isBare {v : Validator} (h : v.isBare = true) : ∃ t element,
    v.shape = TypeName.bare element t ∧
      (∀ u, u ∈ v.types ↔ u = t ∨ (v.nullable = true ∧ u = .null)) ∧
      ∀ x, v.Accepts x ↔ (v.nullable = true ∧ x = .null) ∨ (t.bare element).Accepts x := by
  obtain ⟨t, element, -, hs, ha, hx⟩ := v.bare_of_isBare h
  refine ⟨t, element, hs, mem_types (hs ▸ typeName?_bare), fun x => ?_⟩
  rw [Validator.accepts_iff, hs, ha, hx]
  simp [allows]

theorem null_mem_types {v : Validator} (h : v.isBare = true) :
    .null ∈ v.types ↔ v.Accepts .null := by
  obtain ⟨t, e, -, ht, ha⟩ := accepts_of_isBare h
  rw [ht, ha, bare_accepts_null, eq_comm, or_comm]
  simp

theorem accepts_iff_types (element : Validator) {v : Validator} (h : v.isBare = true) {x : Json}
    (hn : x ≠ .null) (hx : ∀ items, x ≠ .array items) :
    v.Accepts x ↔ ∃ t ∈ v.types, t ≠ .null ∧ (t.bare element).Accepts x := by
  obtain ⟨t, e, -, ht, ha⟩ := accepts_of_isBare h
  rw [ha, bare_accepts_congr element hx]
  constructor
  · rintro (⟨-, rfl⟩ | h)
    · exact absurd rfl hn
    · refine ⟨t, (ht t).2 (.inl rfl), ?_, h⟩
      rintro rfl
      exact hn (Shape.accepts_null.1 h)
  · rintro ⟨u, hu, hnull, h⟩
    rcases (ht u).1 hu with rfl | ⟨-, rfl⟩
    · exact .inr h
    · exact absurd rfl hnull

theorem accepts_of_element {v : Validator} (h : v.isBare = true) (he : v.element? = some element)
    {items : List Json} (hi : ∀ y ∈ items, element.Accepts y) : v.Accepts (.array items) := by
  obtain ⟨t, e, hs, -, ha⟩ := accepts_of_isBare h
  obtain ⟨checks, hc⟩ := element?_eq_some.1 he
  rw [ha]
  rw [hs] at hc
  cases t with
  | array =>
      cases hc
      exact .inr (bare_accepts_array.2 ⟨rfl, hi⟩)
  | object | string | number | integer | boolean | null => cases hc

/-- Null is left to the modifier, arrays have the element of the first, and other values are
accepted by their types alone. -/
theorem reread_iff_types {vs : List Validator}
    (h : (Shape.union vs).mergedElement? = some element) {ts : List TypeName}
    (hm : ∀ t, t ∈ ts ↔ ∃ v ∈ vs, t ∈ v.types) (x : Json) :
    (∃ t ∈ ts, t ≠ .null ∧ (t.bare element).Accepts x) ↔
      x ≠ .null ∧ (Shape.union vs).Reread x := by
  obtain ⟨hb, hf⟩ := bare_of_mergedElement? h
  obtain ⟨first, hfirst, helement⟩ := List.exists_of_findSome?_eq_some hf
  rw [Shape.Reread, h, Shape.accepts_union]
  by_cases hnull : x = .null
  · subst hnull
    simp [bare_accepts_null]
  · by_cases hx : ∃ items, x = .array items
    · obtain ⟨items, rfl⟩ := hx
      simp only [bare_accepts_array, Option.some.injEq, forall_eq', Json.array.injEq]
      constructor
      · rintro ⟨t, -, -, -, hi⟩
        exact ⟨hnull, ⟨first, hfirst, accepts_of_element (hb _ hfirst) helement hi⟩, hi⟩
      · rintro ⟨-, -, hi⟩
        have ha : .array ∈ first.types := (array_mem_types (hb _ hfirst)).2 ⟨_, helement⟩
        exact ⟨.array, (hm _).2 ⟨first, hfirst, ha⟩, by decide, rfl, hi⟩
    · have hx' : ∀ items, x ≠ .array items := fun items he => hx ⟨items, he⟩
      constructor
      · rintro ⟨t, ht, hn, hta⟩
        obtain ⟨v, hv, hvt⟩ := (hm t).1 ht
        refine ⟨hnull, ⟨v, hv, ?_⟩, fun _ _ items he => absurd he (hx' items)⟩
        exact (accepts_iff_types element (hb v hv) hnull hx').2 ⟨t, hvt, hn, hta⟩
      · rintro ⟨-, ⟨v, hv, hva⟩, -⟩
        obtain ⟨t, ht, hn, hta⟩ := (accepts_iff_types element (hb v hv) hnull hx').1 hva
        exact ⟨t, (hm t).2 ⟨v, hv, ht⟩, hn, hta⟩

theorem mergeAlternatives?_of_mergedElement? {vs : List Validator}
    (h : (Shape.union vs).mergedElement? = some element) :
    ∃ ts, (∀ t, t ∈ ts ↔ ∃ v ∈ vs, t ∈ v.types) ∧ .array ∈ ts ∧ .object ∉ ts ∧
      mergeAlternatives? (exportAll vs) = some (mergedNode element ts) := by
  obtain ⟨hb, hf⟩ := bare_of_mergedElement? h
  obtain ⟨ts, hm, hts⟩ := mergeAlternatives?_of_isBare hb
  rw [hf] at hts
  refine ⟨ts, hm, ?_, ?_, hts⟩
  · obtain ⟨first, hfirst, helement⟩ := List.exists_of_findSome?_eq_some hf
    exact (hm _).2 ⟨first, hfirst, (array_mem_types (hb _ hfirst)).2 ⟨_, helement⟩⟩
  · intro hmem
    obtain ⟨v, hv, hvt⟩ := (hm _).1 hmem
    exact object_notMem_types (hb v hv) hvt

theorem compileAnyOf_merged (path : String) {vs : List Validator}
    (h : (Shape.union vs).mergedElement? = some element) (he : Restores child element) :
    ∃ s n, compileAnyOf path child (exportAll vs) =
        .ok { Validator.ofShape s with nullable := n } ∧
      (n = true ↔ (Shape.union vs).Accepts .null) ∧
      ∀ x, s.Accepts x ↔ x ≠ .null ∧ (Shape.union vs).Reread x := by
  obtain ⟨hb, -⟩ := bare_of_mergedElement? h
  obtain ⟨ts, hm, ha, ho, hts⟩ := mergeAlternatives?_of_mergedElement? h
  obtain ⟨s, n, hs, hn, hsa⟩ := compileMerged_bare path he ha ho
  refine ⟨s, n, ?_, ?_, fun x => ?_⟩
  · rw [compileAnyOf, hts]
    exact hs
  · rw [hn, hm, Shape.accepts_union]
    exact exists_congr fun v => and_congr_right fun hv => null_mem_types (hb v hv)
  · rw [hsa, reread_iff_types h hm]

end Schema

end SchemaCheck
