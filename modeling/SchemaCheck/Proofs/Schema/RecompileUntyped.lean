import SchemaCheck.Proofs.Schema.Recompile

namespace SchemaCheck.Schema

open Json (Members)

variable {path : String} {child : ChildCompiler} {follow : String → Result} {v : Validator}

theorem exportAll_ne_nil {vs : List Validator} (two : 2 ≤ vs.length) : exportAll vs ≠ [] := by
  rw [exportAll_eq_map]
  exact mt List.map_eq_nil_iff.1 (ne_nil_of_two two)

theorem lookup_shape_of_not_nullable (hn : v.nullable = false) {key : String}
    (hk : key ∉ Validator.modifierKeys) :
    v.toMembers.lookup key = v.shape.toMembers.lookup key := by
  rw [v.lookup_base hk, Validator.base_of_not_nullable hn]

section Forms

variable (hn : v.nullable = false) {vs : List Validator} (two : 2 ≤ vs.length)
include hn two

theorem ofNode_union (hs : v.shape = .union vs) :
    Form.ofNode v.toMembers = .ok (.anyOf (exportAll vs)) := by
  apply ofNode_anyOf (exportAll_ne_nil two)
  rw [lookup_shape_of_not_nullable hn (by decide), hs]
  rfl

theorem ofNode_exclusiveUnion (hs : v.shape = .exclusiveUnion vs) :
    Form.ofNode v.toMembers = .ok (.oneOf (exportAll vs)) := by
  apply ofNode_oneOf (exportAll_ne_nil two)
  · exact Validator.lookup_of_not_nullable hn (by rw [hs, Shape.exportKeys]; decide)
  · rw [lookup_shape_of_not_nullable hn (by decide), hs]
    rfl

theorem ofNode_intersection (hs : v.shape = .intersection vs) :
    Form.ofNode v.toMembers = .ok (.allOf (exportAll vs)) := by
  apply ofNode_allOf (exportAll_ne_nil two)
  · intro key hk
    apply Validator.lookup_of_not_nullable hn
    rw [hs, Shape.exportKeys]
    revert key
    decide
  · rw [lookup_shape_of_not_nullable hn (by decide), hs]
    rfl

end Forms

theorem combineEach_restores {vs : List Validator} (two : 2 ≤ vs.length)
    (h : ∀ w ∈ vs, Restores child w) (keyword : String) (shape : List Validator → Shape) :
    ∃ us, (compileEach child keyword 0 (exportAll vs)).map (combine shape) =
      .ok (.ofShape (shape us)) ∧ List.Forall₂ Alike us vs := by
  obtain ⟨us, hus, ha⟩ := compileEach_restores h keyword 0
  refine ⟨us, ?_, ha⟩
  rw [hus]
  exact congrArg Except.ok (combine_of_two (ha.length_eq ▸ two))

theorem outcome_combination (hp : RestoresParts child v) {vs : List Validator} {keyword : String}
    {form : Form} {shape : List Validator → Shape} (hs : v.shape = shape vs)
    (hvs : (shape vs).validators = vs) (two : 2 ≤ vs.length)
    (hf : Form.ofNode v.toMembers = .ok form) (hr : ∀ reference, form ≠ .ref reference)
    (hc : compileForm path child follow v.toMembers form =
      (compileEach child keyword 0 (exportAll vs)).map (combine shape))
    (hacc : ∀ us x, List.Forall₂ (fun u w : Validator => u.Accepts x ↔ w.Accepts x) us vs →
      ((shape us).Accepts x ↔ (shape vs).Accepts x))
    (hm : v.shape.mergedElement? = none) (ho : v.isOverwritten = false)
    (ha : form.isEnum = false ∧ v.toMembers.lookup "enum" = v.allowed.map .array)
    (hx : v.toMembers.lookup "not" = exportOption v.excluded) :
    OutcomeNotNullable v (compileMembers path child follow v.toMembers) := by
  have hb : ∀ w ∈ vs, Restores child w := by
    intro w hw
    apply hp.below
    rw [hs, hvs]
    exact hw
  obtain ⟨us, hus, hall⟩ := combineEach_restores two hb keyword shape
  apply outcome_same hp hf hr (hc.trans hus) ?_ hm ho (.inr ha) hx
  intro x
  rw [hs]
  exact hacc us x (hall.imp fun _ _ h => h.accepts x)

theorem outcome_union (hp : RestoresParts child v) (hn : v.nullable = false)
    {vs : List Validator} (hs : v.shape = .union vs) (two : 2 ≤ vs.length) :
    OutcomeNotNullable v (compileMembers path child follow v.toMembers) := by
  have hf := ofNode_union hn two hs
  have ha : v.toMembers.lookup "enum" = v.allowed.map .array :=
    v.lookup_enum_eq (.inr (by simp [hs, Shape.exportKeys]))
  have hx : v.toMembers.lookup "not" = exportOption v.excluded :=
    v.lookup_not_eq (.inr (by simp [hs, Shape.exportKeys]))
  have ho : v.isOverwritten = false := by
    rw [Validator.isOverwritten, hs]
  cases hm : v.shape.mergedElement? with
  | none =>
      have hc : compileForm path child follow v.toMembers (.anyOf (exportAll vs)) =
          (compileEach child "anyOf" 0 (exportAll vs)).map (combine .union) := by
        rw [compileForm, compileAnyOf, mergeAlternatives?_eq_none (hs ▸ hm)]
      apply outcome_combination hp hs rfl two hf (by simp) hc ?_ hm ho ⟨rfl, ha⟩ hx
      intro us x h
      rw [Shape.accepts_union, Shape.accepts_union]
      exact exists_mem_iff h
  | some element =>
      obtain ⟨s, n, hc, hnull, hsa⟩ :=
        compileAnyOf_merged path (hs ▸ hm) (hp.element element hm)
      have hform : compileForm path child follow v.toMembers (.anyOf (exportAll vs)) =
          .ok { Validator.ofShape s with nullable := n } := hc
      have h := outcome_of_export hp hf (by simp) hform (.inr ⟨rfl, ha⟩) hx
      refine h.congr (forall₂_congr fun x _ => ?_) fun x => ?_
      · rw [hsa, hnull, hs]
        by_cases hx : x = .null
        · subst hx
          simp [Shape.reread_null]
        · simp [hx]
      · rw [AcceptsAgain, hsa, hnull, ho, hm, hs]
        by_cases hx : x = .null
        · subst hx
          simp [Shape.reread_null]
          exact fun h _ => h
        · simp [hx]

theorem outcome_exclusiveUnion (hp : RestoresParts child v) (hn : v.nullable = false)
    {vs : List Validator} (hs : v.shape = .exclusiveUnion vs) (two : 2 ≤ vs.length) :
    OutcomeNotNullable v (compileMembers path child follow v.toMembers) := by
  apply outcome_combination hp hs rfl two (ofNode_exclusiveUnion hn two hs) (by simp) rfl
  · intro us x h
    rw [Shape.accepts_exclusiveUnion, Shape.accepts_exclusiveUnion]
    exact exactlyOne_iff h
  · rw [hs]
    rfl
  · rw [Validator.isOverwritten, hs]
  · exact ⟨rfl, v.lookup_enum_eq (.inr (by simp [hs, Shape.exportKeys]))⟩
  · exact v.lookup_not_eq (.inr (by simp [hs, Shape.exportKeys]))

theorem outcome_intersection (hp : RestoresParts child v) (hn : v.nullable = false)
    {vs : List Validator} (hs : v.shape = .intersection vs) (two : 2 ≤ vs.length) :
    OutcomeNotNullable v (compileMembers path child follow v.toMembers) := by
  apply outcome_combination hp hs rfl two (ofNode_intersection hn two hs) (by simp) rfl
  · intro us x h
    rw [Shape.accepts_intersection, Shape.accepts_intersection]
    exact forall_mem_iff h
  · rw [hs]
    rfl
  · rw [Validator.isOverwritten, hs]
  · exact ⟨rfl, v.lookup_enum_eq (.inr (by simp [hs, Shape.exportKeys]))⟩
  · exact v.lookup_not_eq (.inr (by simp [hs, Shape.exportKeys]))

theorem reread_of_listed (hw : v.WellFormedNode) (hn : v.nullable = false)
    (hm : v.shape.mergedElement? = none) : ∀ x, v.Listed x → v.shape.Reread x := by
  rintro x ⟨values, hv, hx⟩
  rw [Shape.reread_iff hm]
  exact (hw.allowed values hv x hx).resolve_left (by simp [hn])

theorem lookup_leaf (hn : v.nullable = false)
    (hk : v.shape.exportKeys ⊆ ["not", "const", "enum"]) {key : String}
    (h : key ∈ ["type", "properties", "items", "prefixItems"] ++ leadingKeys) :
    v.toMembers.lookup key = none := by
  have hkeys : ∀ k ∈ ["type", "properties", "items", "prefixItems"] ++ leadingKeys,
      k ∉ ["not", "const", "enum"] ++ Validator.modifierKeys := by decide
  refine Validator.lookup_of_not_nullable hn fun hm => hkeys key h ?_
  rcases List.mem_append.1 hm with hm | hm
  · exact List.mem_append_left _ (hk hm)
  · exact List.mem_append_right _ hm

theorem ofNode_leaf_enum (hn : v.nullable = false)
    (hk : v.shape.exportKeys ⊆ ["not", "const", "enum"]) {values : List Json}
    (he : v.toMembers.lookup "enum" = some (.array values)) :
    Form.ofNode v.toMembers = .ok (.enum values) :=
  ofNode_enum (fun _ hm => lookup_leaf hn hk (List.mem_append_right _ hm))
    (lookup_leaf hn hk (by decide)) he

theorem ofNode_leaf_any (hn : v.nullable = false) (hk : v.shape.exportKeys ⊆ ["not"])
    (ha : v.allowed = none) : Form.ofNode v.toMembers = .ok .any := by
  have hleaf : v.shape.exportKeys ⊆ ["not", "const", "enum"] := by
    intro key hm
    rw [List.mem_singleton.1 (hk hm)]
    decide
  apply ofNode_any (fun _ hm => lookup_leaf hn hleaf (List.mem_append_right _ hm))
  rw [List.forall_mem_cons]
  constructor
  · rw [v.lookup_enum_eq (.inr fun hm => absurd (hk hm) (by decide)), ha]
    rfl
  · rw [List.forall_mem_cons]
    constructor
    · apply Validator.lookup_of_not_nullable hn
      rw [List.mem_append, not_or]
      exact ⟨fun hm => absurd (hk hm) (by decide), by decide⟩
    · intro key hm
      apply lookup_leaf hn hleaf
      exact List.mem_append_left _ hm

theorem ofNode_literal (hn : v.nullable = false) (ha : v.allowed = none) {x : Json}
    (hs : v.shape = .literal x) : Form.ofNode v.toMembers = .ok (.const x) := by
  have hk : v.shape.exportKeys ⊆ ["not", "const", "enum"] := by
    simp [hs, Shape.exportKeys]
  have he : v.toMembers.lookup "enum" = none := by
    rw [v.lookup_enum_eq (.inr (by simp [hs, Shape.exportKeys])), ha]
    rfl
  have hc : v.toMembers.lookup "const" = some x := by
    rw [lookup_shape_of_not_nullable hn (by decide), hs]
    rfl
  exact ofNode_const (fun _ hm => lookup_leaf hn hk (List.mem_append_right _ hm)) he hc

theorem ofNode_among (hn : v.nullable = false) (ha : v.allowed = none) {xs : List Json}
    (hs : v.shape = .among xs) : Form.ofNode v.toMembers = .ok (.enum xs) := by
  refine ofNode_leaf_enum hn (by simp [hs, Shape.exportKeys]) ?_
  rw [v.lookup_enum, ha, Validator.base_of_not_nullable hn, hs]
  rfl

theorem outcome_leaf_allowed (hn : v.nullable = false)
    (hk : v.shape.exportKeys ⊆ ["not", "const", "enum"]) {values : List Json}
    (hv : v.allowed = some values) {excluded : Option Validator}
    (hx : v.toMembers.lookup "not" = exportOption excluded)
    (he : ∀ w, excluded = some w → Restores child w) :
    Outcome (compileMembers path child follow v.toMembers) True
      (fun x => Validator.Passes v.allowed excluded x) v.defaultValue := by
  obtain ⟨s, hs, hsa⟩ := compileEnum_eq values
  have hl : v.toMembers.lookup "enum" = some (.array values) := by
    rw [v.lookup_enum, hv]
    rfl
  have hb : compileForm path child follow v.toMembers (.enum values) = .ok (.ofShape s) :=
    congrArg Except.ok hs
  have h := outcome_of_form (ofNode_leaf_enum hn hk hl) (by simp) (n := false) hb
    (v.lookup_of_notMem (by decide)) (.inl ⟨rfl, rfl⟩) hx he
  rw [v.lookup_default_eq] at h
  refine h.congr (by simp) fun x => ?_
  rw [hsa, hv]
  simp [Validator.Passes, allows, amongValues_iff]

theorem outcome_any (hp : RestoresParts child v) (hn : v.nullable = false)
    (hs : v.shape = .any) :
    OutcomeNotNullable v (compileMembers path child follow v.toMembers) := by
  have hm : v.shape.mergedElement? = none := by
    rw [hs]
    rfl
  have he : v.toMembers.lookup "enum" = v.allowed.map .array :=
    v.lookup_enum_eq (.inr (by simp [hs, Shape.exportKeys]))
  have hx : v.toMembers.lookup "not" = exportOption v.excluded :=
    v.lookup_not_eq (.inr (by simp [hs, Shape.exportKeys]))
  cases hv : v.allowed with
  | none =>
      have hf : Form.ofNode v.toMembers = .ok .any :=
        ofNode_leaf_any hn (by simp [hs, Shape.exportKeys]) hv
      apply outcome_same hp hf (by simp) (s := .any) rfl (fun x => by rw [hs]) hm ?_
        (.inr ⟨rfl, he⟩) hx
      rw [Validator.isOverwritten, hs]
  | some values =>
      have hr : ∀ x, v.shape.Reread x := by
        intro x
        rw [Shape.reread_iff hm, hs]
        exact Shape.accepts_any
      have hk : v.shape.exportKeys ⊆ ["not", "const", "enum"] := by
        simp [hs, Shape.exportKeys]
      refine (outcome_leaf_allowed hn hk hv hx hp.excluded).congr ?_ fun x => ?_
      · exact iff_of_true trivial fun x _ => hr x
      · simp [AcceptsAgain, hr, hm, Validator.Admits]

theorem outcome_never (hw : v.WellFormedNode) (hp : RestoresParts child v)
    (hn : v.nullable = false) (hs : v.shape = .never) :
    OutcomeNotNullable v (compileMembers path child follow v.toMembers) := by
  have hm : v.shape.mergedElement? = none := by
    rw [hs]
    rfl
  have he : v.toMembers.lookup "enum" = v.allowed.map .array :=
    v.lookup_enum_eq (.inr (by simp [hs, Shape.exportKeys]))
  have hx : v.toMembers.lookup "not" = exportOption (some (v.excluded.getD .any)) := by
    rw [v.lookup_not, Validator.base_of_not_nullable hn, hs]
    cases v.excluded <;> rfl
  have hr : ∀ w, some (v.excluded.getD .any) = some w → Restores child w := by
    rintro w ⟨⟩
    cases h : v.excluded with
    | none => exact hp.any
    | some w => exact hp.excluded w h
  have h : Outcome (compileMembers path child follow v.toMembers) True
      (fun x => Validator.Passes v.allowed (some (v.excluded.getD .any)) x) v.defaultValue := by
    cases hv : v.allowed with
    | none =>
        rw [hv] at he
        have hf : Form.ofNode v.toMembers = .ok .any :=
          ofNode_leaf_any hn (by simp [hs, Shape.exportKeys]) hv
        have hb : compileForm path child follow v.toMembers .any = .ok (.ofShape .any) := rfl
        have h := outcome_of_form hf (by simp) (n := false) hb (v.lookup_of_notMem (by decide))
          (.inr ⟨rfl, he⟩) hx hr
        rw [v.lookup_default_eq] at h
        exact h.congr (by simp) fun x => by simp [Shape.accepts_any]
    | some values =>
        rw [← hv]
        have hk : v.shape.exportKeys ⊆ ["not", "const", "enum"] := by
          simp [hs, Shape.exportKeys]
        exact outcome_leaf_allowed hn hk hv hx hr
  refine h.congr (iff_of_true trivial (reread_of_listed hw hn hm)) fun x => ?_
  have ha : ¬ v.shape.Reread x := by
    rw [Shape.reread_iff hm, hs]
    exact Shape.not_accepts_never
  have ho : v.isOverwritten = v.excluded.isSome := by
    rw [Validator.isOverwritten, hs]
  rw [AcceptsAgain, Validator.Admits, ho]
  cases v.excluded with
  | none =>
      simp [ha, hm, Validator.Passes, Validator.any, Validator.accepts_ofShape, Shape.accepts_any]
  | some w => simp [hm]

theorem outcome_values (hw : v.WellFormedNode) (hp : RestoresParts child v)
    (hn : v.nullable = false) (hs : (∃ x, v.shape = .literal x) ∨ ∃ xs, v.shape = .among xs) :
    OutcomeNotNullable v (compileMembers path child follow v.toMembers) := by
  have hm : v.shape.mergedElement? = none := by
    rcases hs with ⟨x, hs⟩ | ⟨xs, hs⟩ <;>
    · rw [hs]
      rfl
  have ho : v.isOverwritten = v.allowed.isSome := by
    rcases hs with ⟨x, hs⟩ | ⟨xs, hs⟩ <;> rw [Validator.isOverwritten, hs]
  have hk : v.shape.exportKeys ⊆ ["not", "const", "enum"] := by
    rcases hs with ⟨x, hs⟩ | ⟨xs, hs⟩ <;> simp [hs, Shape.exportKeys]
  have hx : v.toMembers.lookup "not" = exportOption v.excluded := by
    rcases hs with ⟨x, hs⟩ | ⟨xs, hs⟩ <;>
    · exact v.lookup_not_eq (.inr (by simp [hs, Shape.exportKeys]))
  cases hv : v.allowed with
  | none =>
      rw [hv] at ho
      rcases hs with ⟨x, hs⟩ | ⟨xs, hs⟩
      · have he : v.toMembers.lookup "enum" = v.allowed.map .array :=
          v.lookup_enum_eq (.inr (by simp [hs, Shape.exportKeys]))
        exact outcome_same hp (ofNode_literal hn hv hs) (by simp) (s := .literal x) rfl
          (fun y => by rw [hs]) hm ho (.inr ⟨rfl, he⟩) hx
      · obtain ⟨s, hb, hsa⟩ := compileEnum_eq xs
        refine outcome_same hp (ofNode_among hn hv hs) (by simp) (s := s)
          (congrArg Except.ok hb) (fun x => ?_) hm ho (.inl ⟨rfl, hv⟩) hx
        rw [hsa, hs, Shape.accepts_among]
  | some values =>
      rw [hv] at ho
      refine (outcome_leaf_allowed hn hk hv hx hp.excluded).congr ?_ fun x => ?_
      · exact iff_of_true trivial (reread_of_listed hw hn hm)
      · simp [AcceptsAgain, ho, hm, Validator.Admits]

theorem outcome_not_nullable (hw : v.WellFormedNode) (hu : v.AcceptsUnknown)
    (hp : RestoresParts child v) (hn : v.nullable = false) :
    OutcomeNotNullable v (compileMembers path child follow v.toMembers) := by
  cases hs : v.shape with
  | any => exact outcome_any hp hn hs
  | never => exact outcome_never hw hp hn hs
  | literal x => exact outcome_values hw hp hn (.inl ⟨x, hs⟩)
  | among xs => exact outcome_values hw hp hn (.inr ⟨xs, hs⟩)
  | union vs =>
      have two := hw.shape
      rw [hs] at two
      exact outcome_union hp hn hs two
  | exclusiveUnion vs =>
      have two := hw.shape
      rw [hs] at two
      exact outcome_exclusiveUnion hp hn hs two
  | intersection vs =>
      have two := hw.shape
      rw [hs] at two
      exact outcome_intersection hp hn hs two
  | boolean | null | string | number | array | tuple | object =>
      obtain ⟨t, ht⟩ : ∃ t, v.shape.typeName? = some t := by
        rw [hs]
        exact ⟨_, rfl⟩
      exact outcome_typed hw.shape hu hp ht (by simp [hn])

end SchemaCheck.Schema
