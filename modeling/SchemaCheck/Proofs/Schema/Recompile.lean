import SchemaCheck.Proofs.Schema.Outcome
import SchemaCheck.Proofs.Validator.WellFormed

namespace SchemaCheck

open Json (Members put)
open Schema (TypeName)

theorem Shape.reread_iff {s : Shape} (h : s.mergedElement? = none) {x : Json} :
    s.Reread x ↔ s.Accepts x := by
  simp [Shape.Reread, h]

theorem Shape.reread_null {s : Shape} : s.Reread .null ↔ s.Accepts .null := by
  simp [Shape.Reread]

theorem Shape.mergedElement?_of_typeName? {s : Shape} {t : TypeName} (h : s.typeName? = some t) :
    s.mergedElement? = none := by
  cases s with
  | union => cases h
  | any | never | boolean | null | literal | among | string | number | array | tuple | object
  | exclusiveUnion | intersection => rfl

namespace Schema

/-- All that the export of `v` is compiled from is restored, but for the shape of a nullable one. -/
structure RestoresParts (child : ChildCompiler) (v : Validator) : Prop where
  children : ∀ w ∈ v.children, Restores child w
  element : ∀ element, v.shape.mergedElement? = some element → Restores child element
  any : Restores child .any
  null : Restores child (.ofShape .null)

variable {path : String} {child : ChildCompiler} {follow : String → Result} {v : Validator}

theorem RestoresParts.excluded (h : RestoresParts child v) :
    ∀ w, v.excluded = some w → Restores child w := by
  intro w hw
  refine h.children w (List.mem_append_right _ ?_)
  rw [hw]
  exact List.mem_singleton_self w

theorem RestoresParts.below (h : RestoresParts child v) :
    ∀ w ∈ v.shape.validators, Restores child w :=
  fun w hw => h.children w (List.mem_append_left _ hw)

theorem outcome_of_export (hp : RestoresParts child v) {form : Form} {s : Shape} {n : Bool}
    (hf : Form.ofNode v.toMembers = .ok form) (hr : ∀ reference, form ≠ .ref reference)
    (hb : compileForm path child follow v.toMembers form =
      .ok { Validator.ofShape s with nullable := n })
    (ha : form.isEnum = true ∧ v.allowed = none ∨
      form.isEnum = false ∧ v.toMembers.lookup "enum" = v.allowed.map .array)
    (hx : v.toMembers.lookup "not" = exportOption v.excluded) :
    Outcome (compileMembers path child follow v.toMembers)
      (∀ x, v.Listed x → (n = true ∧ x = .null) ∨ s.Accepts x)
      (fun x => (n = true ∧ x = .null) ∨ (s.Accepts x ∧ v.Admits x)) v.defaultValue := by
  have h := outcome_of_form hf hr hb (v.lookup_of_notMem (by decide)) ha hx hp.excluded
  rw [v.lookup_default_eq] at h
  refine h.congr ?_ fun x => Iff.rfl
  constructor
  · rintro hok x ⟨values, hv, hm⟩
    exact hok values hv x hm
  · intro hok values hv x hm
    exact hok x ⟨values, hv, hm⟩

/-- What is accepted when a validator that is not nullable comes back. A shape that is overwritten
accepts all values, and merging makes a union nullable that has null among its types. -/
def AcceptsAgain (v : Validator) (x : Json) : Prop :=
  ((v.isOverwritten = true ∨ v.shape.Reread x) ∧ v.Admits x) ∨
    (v.shape.mergedElement?.isSome = true ∧ x = .null ∧ v.shape.Accepts .null)

def OutcomeNotNullable (v : Validator) (r : Result) : Prop :=
  Outcome r (∀ x, v.Listed x → v.shape.Reread x) (AcceptsAgain v) v.defaultValue

theorem outcome_same (hp : RestoresParts child v) {form : Form} {s : Shape}
    (hf : Form.ofNode v.toMembers = .ok form) (hr : ∀ reference, form ≠ .ref reference)
    (hb : compileForm path child follow v.toMembers form = .ok (.ofShape s))
    (hs : ∀ x, s.Accepts x ↔ v.shape.Accepts x) (hm : v.shape.mergedElement? = none)
    (ho : v.isOverwritten = false)
    (ha : form.isEnum = true ∧ v.allowed = none ∨
      form.isEnum = false ∧ v.toMembers.lookup "enum" = v.allowed.map .array)
    (hx : v.toMembers.lookup "not" = exportOption v.excluded) :
    OutcomeNotNullable v (compileMembers path child follow v.toMembers) := by
  have h := outcome_of_export hp hf hr (n := false) hb ha hx
  refine h.congr (forall₂_congr fun x _ => ?_) fun x => ?_
  · simp [Shape.reread_iff hm, hs]
  · simp [AcceptsAgain, ho, hm, Shape.reread_iff hm, hs]

theorem TypeName.notMem_of_mem_keys {t : TypeName} {key : String} (h : key ∈ t.keys) :
    key ∉ "type" :: (Validator.modifierKeys ++ modifierKeys) := by
  revert key
  cases t <;> decide

theorem describes_typed {t : TypeName} (ht : v.shape.typeName? = some t) :
    Describes v.toMembers t v.shape := by
  intro key hk
  refine Validator.lookup_of_typed ht fun hm => TypeName.notMem_of_mem_keys hk ?_
  rcases List.mem_cons.1 hm with rfl | hm
  · exact List.mem_cons_self
  · exact List.mem_cons_of_mem _ (List.mem_append_left _ hm)

theorem describes_narrow {t : TypeName} (ht : v.shape.typeName? = some t) :
    Describes (narrow v.toMembers t) t v.shape := by
  intro key hk
  have hn := TypeName.notMem_of_mem_keys hk
  rw [List.mem_cons, not_or, List.mem_append, not_or] at hn
  rw [narrow, Json.lookup_put_of_ne hn.1, Json.lookup_drop, if_neg hn.2.2,
    describes_typed ht key hk]

theorem isOverwritten_of_typed {t : TypeName} (ht : v.shape.typeName? = some t) :
    v.isOverwritten = false := by
  rw [Validator.isOverwritten]
  split
  next hs =>
    rw [hs] at ht
    cases ht
  next hs =>
    rw [hs] at ht
    cases ht
  next hs =>
    rw [hs] at ht
    cases ht
  next => rfl

theorem ofNode_export_typed {t : TypeName} (ht : v.shape.typeName? = some t) :
    Form.ofNode v.toMembers = if v.nullable = true ∧ t ≠ .null then .ok (.types [t, .null])
      else .ok (.typed t) := by
  have hl : ∀ key ∈ leadingKeys, v.toMembers.lookup key = none := by
    intro key hk
    refine Validator.lookup_of_typed_of_notMem ht ?_
    revert key
    decide
  have hc : v.toMembers.lookup "const" = none :=
    Validator.lookup_of_typed_of_notMem ht (by decide)
  rw [ofNode_of_type hl hc (Validator.lookup_type_of_typed ht)]
  split
  · exact ofType_typeValue [t, .null]
  · exact ofType_typeValue [t]

theorem notMem_of_typed {t : TypeName} (ht : v.shape.typeName? = some t) :
    "enum" ∉ v.shape.exportKeys ∧ "not" ∉ v.shape.exportKeys := by
  constructor <;> intro hm <;>
    exact absurd (Shape.exportKeys_subset_typedKeys ht hm) (by decide)

theorem outcome_typed (hw : v.shape.WellFormed) (hu : v.AcceptsUnknown)
    (hp : RestoresParts child v) {t : TypeName} (ht : v.shape.typeName? = some t)
    (hn : ¬ (v.nullable = true ∧ t ≠ .null)) :
    OutcomeNotNullable v (compileMembers path child follow v.toMembers) := by
  have hr : Retyped path child v.toMembers t v.shape :=
    retyped ht hw hu hp.below (describes_typed ht)
  obtain ⟨s, hs, ha⟩ := hr
  have hf := ofNode_export_typed ht
  rw [if_neg hn] at hf
  exact outcome_same hp hf (by simp) hs ha (Shape.mergedElement?_of_typeName? ht)
    (isOverwritten_of_typed ht) (.inr ⟨rfl, v.lookup_enum_eq (.inr (notMem_of_typed ht).1)⟩)
    (v.lookup_not_eq (.inr (notMem_of_typed ht).2))

theorem outcome_typed_nullable (hw : v.shape.WellFormed) (hu : v.AcceptsUnknown)
    (hp : RestoresParts child v) {t : TypeName} (ht : v.shape.typeName? = some t)
    (hn : v.nullable = true) (hne : t ≠ .null) :
    Outcome (compileMembers path child follow v.toMembers)
      (∀ x, v.Listed x → x = .null ∨ v.shape.Accepts x)
      (fun x => x = .null ∨ (v.shape.Accepts x ∧ v.Admits x)) v.defaultValue := by
  have hr : ∀ u ∈ [t, .null], u ≠ .null → Retyped path child (narrow v.toMembers u) u v.shape := by
    intro u hm hnull
    obtain rfl : u = t := by simpa [hnull] using hm
    exact retyped ht hw hu hp.below (describes_narrow ht)
  obtain ⟨s, hs, ha⟩ := compileTypes_retyped ⟨t, by simp, hne⟩ hr
  have hs' : ∀ x, s.Accepts x ↔ v.shape.Accepts x := by
    intro x
    rw [ha]
    simp [hne]
  have hf := ofNode_export_typed ht
  rw [if_pos ⟨hn, hne⟩] at hf
  have hform : compileForm path child follow v.toMembers (.types [t, .null]) =
      .ok { Validator.ofShape s with nullable := [t, .null].contains .null } := hs
  have h := outcome_of_export hp hf (by simp) hform
    (.inr ⟨rfl, v.lookup_enum_eq (.inl hn)⟩) (v.lookup_not_eq (.inl hn))
  refine h.congr (forall₂_congr fun x _ => ?_) fun x => ?_
  · simp [hs']
  · simp [hs']

theorem mergeableTypes?_of_untyped {schema : Members} (h : schema.lookup "type" = none) :
    mergeableTypes? schema = none := by
  rw [mergeableTypes?, h]
  split <;> rfl

theorem mergeAlternatives?_orNull {s : Shape} (ht : s.typeName? = none) :
    mergeAlternatives? [.object s.toMembers, .object (typed "null")] = none := by
  have htype : s.toMembers.lookup "type" = none := by
    rw [lookup_type_shape, ht]
    rfl
  rw [mergeAlternatives?, mergeParts?, mergeableTypes?_of_untyped htype]
  rfl

theorem ofNode_untyped_nullable (hn : v.nullable = true) (ht : v.shape.typeName? = none) :
    Form.ofNode v.toMembers =
      .ok (.anyOf [.object v.shape.toMembers, .object (typed "null")]) :=
  ofNode_anyOf (by simp) (v.lookup_anyOf_of_untyped hn ht)

theorem outcome_untyped_nullable (hp : RestoresParts child v) (hn : v.nullable = true)
    (ht : v.shape.typeName? = none) (hbare : ∀ segments, ∃ b,
      child segments (.object v.shape.toMembers) = .ok b ∧ ∀ x, b.Accepts x ↔ v.shape.Reread x) :
    Outcome (compileMembers path child follow v.toMembers)
      (∀ x, v.Listed x → v.shape.Reread x ∨ x = .null)
      (fun x => (v.shape.Reread x ∨ x = .null) ∧ v.Admits x) v.defaultValue := by
  obtain ⟨b, hb, hba⟩ := hbare ["anyOf", toString 0]
  obtain ⟨n, hnull, hna⟩ := hp.null ["anyOf", toString 1]
  have hmerge := mergeAlternatives?_orNull ht
  have hform : compileForm path child follow v.toMembers
      (.anyOf [.object v.shape.toMembers, .object (typed "null")]) =
        .ok (.ofShape (.union [b, n])) := by
    have hnull' : child ["anyOf", toString (0 + 1)] (.object (typed "null")) = .ok n := hnull
    simp only [compileForm, compileAnyOf, hmerge, compileEach, hb, hnull', bind, Except.bind]
    rfl
  have hs : ∀ x, (Shape.union [b, n]).Accepts x ↔ v.shape.Reread x ∨ x = .null := by
    intro x
    rw [Shape.accepts_union]
    simp [hba, hna.accepts, Validator.accepts_ofShape, Shape.accepts_null]
  have h := outcome_of_export hp (ofNode_untyped_nullable hn ht) (by simp) (n := false) hform
    (.inr ⟨rfl, v.lookup_enum_eq (.inl hn)⟩) (v.lookup_not_eq (.inl hn))
  refine h.congr (forall₂_congr fun x _ => ?_) fun x => ?_
  · simp [hs]
  · simp [hs]

end Schema

end SchemaCheck
