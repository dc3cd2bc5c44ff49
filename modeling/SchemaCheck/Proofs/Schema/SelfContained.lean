import SchemaCheck.Proofs.Schema.Depth
import SchemaCheck.Proofs.Schema.RoundTrip
import SchemaCheck.Proofs.Schema.Strict

namespace SchemaCheck

open Json (Members)
open Schema (TypeName)

namespace Schema

/-- The compilation succeeds unless it goes too deep. -/
def OnlyTooDeep {α : Type} (r : Except Error α) : Prop :=
  ErrorsIn (fun e => e.code = .recursionDepthExceeded) r

namespace OnlyTooDeep

variable {α β : Type} {r : Except Error α}

theorem ok {a : α} : OnlyTooDeep (.ok a) := by
  rintro e ⟨⟩

theorem of_ok (h : ∃ a, r = .ok a) : OnlyTooDeep r := by
  obtain ⟨a, rfl⟩ := h
  exact .ok

theorem bind {k : α → Except Error β} (h : OnlyTooDeep r)
    (hk : ∀ a, r = .ok a → OnlyTooDeep (k a)) : OnlyTooDeep (r >>= k) :=
  ErrorsIn.bind h hk

theorem map (h : OnlyTooDeep r) (f : α → β) : OnlyTooDeep (r.map f) := by
  cases r with
  | error e =>
      rintro _ ⟨⟩
      exact h e rfl
  | ok a => exact .ok

theorem descend {c : Context} {segments : List String} : OnlyTooDeep (c.descend segments) := by
  intro e he
  obtain ⟨-, rfl⟩ := Context.descend_eq_error he
  rfl

end OnlyTooDeep

/-- Wherever the value stands as a child, it is compiled unless that goes too deep. -/
def StopsAtDepth (child : ChildCompiler) (x : Json) : Prop :=
  ∀ segments, OnlyTooDeep (child segments x)

theorem stopsAtDepth_childOf {x : Json} (h : ∀ d : Context, OnlyTooDeep (compileNode d x))
    (c : Context) : StopsAtDepth (childOf c) x :=
  fun _ => OnlyTooDeep.descend.bind fun d _ => h d

variable {path : String} {child : ChildCompiler} {follow : String → Result} {node : Members}

theorem compileEach_onlyTooDeep {xs : List Json} (h : ∀ x ∈ xs, StopsAtDepth child x)
    (keyword : String) (i : Nat) : OnlyTooDeep (compileEach child keyword i xs) := by
  induction xs generalizing i with
  | nil => exact .ok
  | cons x rest ih =>
      rw [List.forall_mem_cons] at h
      refine (h.1 _).bind fun v _ => ?_
      exact (ih h.2 (i + 1)).bind fun vs _ => .ok

theorem compileProperties_onlyTooDeep {properties : Members}
    (h : ∀ p ∈ properties, StopsAtDepth child p.2) (required : List String) :
    OnlyTooDeep (compileProperties child required properties) := by
  induction properties with
  | nil => exact .ok
  | cons p rest ih =>
      rw [List.forall_mem_cons] at h
      refine (h.1 _).bind fun v _ => ?_
      exact (ih h.2).bind fun fields _ => .ok

structure ReadsObject (path : String) (child : ChildCompiler) (node : Members) : Prop where
  required : ∃ required, requiredKeys node = .ok required
  properties : ∃ properties, node.lookup "properties" = some (.object properties) ∧
    ∀ p ∈ properties, StopsAtDepth child p.2
  unknown : node.lookup "additionalProperties" = none ∨
    node.lookup "additionalProperties" = some (.bool false)
  checks : ∃ checks, objectChecks node path = .ok checks

theorem ReadsObject.onlyTooDeep (h : ReadsObject path child node) :
    OnlyTooDeep (compileObject path child node) := by
  obtain ⟨required, hr⟩ := h.required
  obtain ⟨properties, hp, hstops⟩ := h.properties
  have hfields : OnlyTooDeep (compileFields path child required node) := by
    rw [compileFields, hp]
    exact compileProperties_onlyTooDeep hstops required
  have hunknown : OnlyTooDeep (compileUnknown path child node) := by
    rw [compileUnknown]
    rcases h.unknown with hu | hu <;> rw [hu] <;> exact .ok
  rw [compileObject, hr]
  refine hfields.bind fun fields _ => hunknown.bind fun unknown _ => ?_
  exact (OnlyTooDeep.of_ok h.checks).bind fun checks _ => .ok

/-- The strict copy has fewer properties, and says nothing else but that it is closed. -/
theorem ReadsObject.strict (h : ReadsObject path child node) :
    ReadsObject path child (strictNode node) where
  required := by
    rw [requiredKeys, lookup_strictNode (by decide) (by decide)]
    exact h.required
  properties := by
    obtain ⟨properties, hp, hstops⟩ := h.properties
    refine ⟨_, lookup_properties_strictNode_of_object hp, fun p hm => ?_⟩
    exact hstops p (List.mem_filter.1 hm).1
  unknown := by
    rw [lookup_additional_strictNode]
    rcases h.unknown with hu | hu <;> simp [hu]
  checks := by
    rw [objectChecks_strictNode]
    exact h.checks

section Shapes

variable {s : Shape}

theorem readsObject_export {fields : List Field} {unknown : UnknownKeys}
    {checks : List (Check ObjectRule)} (hd : (fields.map (·.name)).Nodup)
    (hc : DistinctRules ObjectRule.entry checks)
    (hf : ∀ f ∈ fields, StopsAtDepth child f.validator.toSchema)
    (h : Describes node .object (.object fields unknown checks)) :
    ReadsObject path child node where
  required := ⟨_, requiredKeys_export (h _ (by decide))⟩
  properties := by
    refine ⟨_, lookup_properties_export h, fun p hp => ?_⟩
    have hm := (mem_exportFields hd (fun _ _ h => by cases h)).1 hp
    obtain ⟨f, hmem, rfl⟩ := hm.resolve_left (List.not_mem_nil)
    exact hf f hmem
  unknown := .inl (lookup_additional_export h)
  checks := by
    obtain ⟨cs, hcs, -⟩ := objectChecks_of_written (writtenIn_object h hc) path
    exact ⟨cs, hcs⟩

theorem compileTyped_onlyTooDeep {t : TypeName} (ht : s.typeName? = some t) (hw : s.WellFormed)
    (hv : ∀ v ∈ s.validators, StopsAtDepth child v.toSchema) (h : Describes node t s) :
    OnlyTooDeep (compileTyped path child node t) := by
  cases s with
  | any | never | literal | among | union | exclusiveUnion | intersection => cases ht
  | boolean | null =>
      cases ht
      exact .ok
  | string checks =>
      cases ht
      have hr : Retyped path child node .string (.string checks) := retyped_string hw h
      exact .of_ok (hr.imp' _ fun _ => And.left)
  | number integer checks =>
      cases ht
      have hk : ∀ key ∈ NumberRule.keywords,
          node.lookup key = (Shape.number integer checks).toMembers.lookup key := by
        intro key hk
        refine h key ?_
        cases integer <;> exact hk
      have hr : Retyped path child node (if integer then .integer else .number)
        (.number integer checks) := retyped_number hw hk
      exact .of_ok (hr.imp' _ fun _ => And.left)
  | array element checks =>
      cases ht
      rw [compileTyped, compileArray_export h, compileList, compileElement_export h]
      obtain ⟨cs, hcs, -⟩ := arrayChecks_of_written (writtenIn_array h hw) path
      refine (hv element (List.mem_singleton_self _) _).bind fun u _ => ?_
      exact (OnlyTooDeep.of_ok ⟨cs, hcs⟩).bind fun checks _ => .ok
  | tuple vs =>
      cases ht
      rw [compileTyped, compileArray, lookup_items_tuple h]
      refine (compileEach_onlyTooDeep (fun x hx => ?_) "items" 0).bind fun us _ => .ok
      rw [exportAll_eq_map] at hx
      obtain ⟨v, hm, rfl⟩ := List.mem_map.1 hx
      exact hv v hm
  | object fields unknown checks =>
      cases ht
      have hf : ∀ f ∈ fields, StopsAtDepth child f.validator.toSchema := fun f hf =>
        hv _ (List.mem_append_left _ (List.mem_map_of_mem hf))
      exact (readsObject_export hw.1 hw.2 hf h).onlyTooDeep

theorem compileTyped_strictNode_onlyTooDeep {t : TypeName} (ht : s.typeName? = some t)
    (hw : s.WellFormed) (hv : ∀ v ∈ s.validators, StopsAtDepth child v.toSchema)
    (h : Describes node t s) : OnlyTooDeep (compileTyped path child (strictNode node) t) := by
  by_cases ho : t = .object
  · subst ho
    cases s with
    | object fields unknown checks =>
        have hf : ∀ f ∈ fields, StopsAtDepth child f.validator.toSchema := fun f hf =>
          hv _ (List.mem_append_left _ (List.mem_map_of_mem hf))
        exact (readsObject_export hw.1 hw.2 hf h).strict.onlyTooDeep
    | number integer checks => cases integer <;> cases ht
    | any | never | boolean | null | literal | among | string | array | tuple | union
    | exclusiveUnion | intersection => cases ht
  · have hsame : ∀ key ∈ t.reads, (strictNode node).lookup key = node.lookup key := fun key hk =>
      lookup_strictNode (notMem_reads_of_ne_object ho hk).1 (notMem_reads_of_ne_object ho hk).2
    rw [compileTyped_congr hsame]
    exact compileTyped_onlyTooDeep ht hw hv h

end Shapes

theorem compileBranches_onlyTooDeep {ts : List TypeName}
    (h : ∀ t ∈ ts, OnlyTooDeep (compileTyped path child node t)) :
    OnlyTooDeep (compileBranches path child node ts) := by
  induction ts with
  | nil => exact .ok
  | cons t rest ih =>
      rw [List.forall_mem_cons] at h
      rw [compileBranches, ← (like_narrow node t).compileTyped]
      exact h.1.bind fun v _ => (ih h.2).bind fun vs _ => .ok

theorem compileTypes_onlyTooDeep {ts : List TypeName}
    (h : ∀ t ∈ ts, OnlyTooDeep (compileTyped path child node t)) :
    OnlyTooDeep (compileTypes path child node ts) := by
  refine (compileBranches_onlyTooDeep fun t ht => h t (mem_branchTypes.1 ht).1).bind fun vs _ => ?_
  split
  · exact .ok
  · split <;> exact .ok

theorem compileMembers_onlyTooDeep {form : Form} (hf : Form.ofNode node = .ok form)
    (hr : ∀ reference, form ≠ .ref reference)
    (hb : OnlyTooDeep (compileForm path child follow node form))
    (hn : node.lookup "nullable" = none)
    (he : form.isEnum = true ∨ node.lookup "enum" = none)
    (hx : ∀ x, node.lookup "not" = some x → StopsAtDepth child x) :
    OnlyTooDeep (compileMembers path child follow node) := by
  rw [compileMembers_eq hf hr]
  refine hb.bind fun v _ => ?_
  rw [modify_of_absent hn he]
  refine OnlyTooDeep.bind ?_ fun v _ => .ok
  rw [setExcluded]
  split
  next => exact .ok
  next x hl => exact (hx x hl _).bind fun u _ => .ok

/-- All that the export of `v` is compiled from stops at the depth. -/
structure PartsStopAtDepth (child : ChildCompiler) (v : Validator) : Prop where
  children : ∀ w ∈ v.children, StopsAtDepth child w.toSchema
  element : ∀ element, v.shape.mergedElement? = some element → StopsAtDepth child element.toSchema
  bare : v.nullable = true → StopsAtDepth child (.object v.shape.toMembers)
  any : StopsAtDepth child Validator.any.toSchema
  null : StopsAtDepth child (Validator.ofShape .null).toSchema

section Exports

variable {v : Validator} (hp : PartsStopAtDepth child v)

theorem notMem_exportKeys {s : Shape} (h : s ≠ .never) : "not" ∉ s.exportKeys := by
  cases s with
  | never => exact absurd rfl h
  | any | boolean | null | literal | among | string | number | array | tuple | object | union
  | exclusiveUnion | intersection =>
      simp only [Shape.exportKeys]
      decide

include hp

theorem PartsStopAtDepth.below : ∀ w ∈ v.shape.validators, StopsAtDepth child w.toSchema :=
  fun w hw => hp.children w (List.mem_append_left _ hw)

theorem PartsStopAtDepth.exportAll {vs : List Validator} (hs : v.shape.validators = vs) :
    ∀ x ∈ exportAll vs, StopsAtDepth child x := by
  intro x hx
  rw [exportAll_eq_map] at hx
  obtain ⟨w, hw, rfl⟩ := List.mem_map.1 hx
  exact hp.below w (hs ▸ hw)

theorem PartsStopAtDepth.not : ∀ x, v.toMembers.lookup "not" = some x → StopsAtDepth child x := by
  intro x hx
  rw [v.lookup_not] at hx
  cases he : v.excluded with
  | some w =>
      rw [he] at hx
      cases hx
      refine hp.children w (List.mem_append_right _ ?_)
      rw [he]
      exact List.mem_singleton_self w
  | none =>
      rw [he, exportOption, Option.none_or] at hx
      by_cases hnever : v.nullable = false ∧ v.shape = .never
      · rw [Validator.base_of_not_nullable hnever.1, hnever.2] at hx
        cases hx
        exact hp.any
      · have habsent : v.base.lookup "not" = none := by
          refine v.base_lookup_eq_none (by decide) (by decide) fun h => notMem_exportKeys ?_
          rintro hs
          rcases h with hn | ht
          · exact hnever ⟨hn, hs⟩
          · rw [hs] at ht
            cases ht
        cases habsent.symm.trans hx

variable (ha : v.allowed = none)
include ha

theorem compileMembers_typed_onlyTooDeep {t : TypeName} (ht : v.shape.typeName? = some t)
    (hnode : ∀ key ∈ ["nullable", "enum", "not"], node.lookup key = v.toMembers.lookup key)
    (hform : Form.ofNode node = Form.ofNode v.toMembers)
    (htyped : OnlyTooDeep (compileTyped path child node t)) :
    OnlyTooDeep (compileMembers path child follow node) := by
  obtain ⟨ts, form, hts, hf, hmem⟩ : ∃ ts form, Form.ofTypes ts = .ok form ∧
      Form.ofNode v.toMembers = .ok form ∧ ∀ u ∈ ts, u = t ∨ u = .null := by
    have hf := ofNode_export_typed ht
    split at hf
    · exact ⟨[t, .null], _, rfl, hf, by simp⟩
    · exact ⟨[t], _, rfl, hf, by simp⟩
  have hn : node.lookup "nullable" = none :=
    (hnode _ (by decide)).trans (v.lookup_of_notMem (by decide))
  have he : node.lookup "enum" = none := by
    rw [hnode _ (by decide), v.lookup_enum_eq (.inr (notMem_of_typed ht).1), ha]
    rfl
  obtain ⟨-, hr, -⟩ := properties_of_ofTypes hts
  refine compileMembers_onlyTooDeep (hform.trans hf) hr ?_ hn (.inr he) ?_
  · rw [compileForm_ofTypes hts]
    refine compileTypes_onlyTooDeep fun u hu => ?_
    rcases hmem u hu with rfl | rfl
    · exact htyped
    · exact .ok
  · rw [hnode _ (by decide)]
    exact hp.not

theorem compileMembers_untyped_onlyTooDeep {form : Form}
    (hf : Form.ofNode v.toMembers = .ok form) (hr : ∀ reference, form ≠ .ref reference)
    (hb : OnlyTooDeep (compileForm path child follow v.toMembers form))
    (he : form.isEnum = true ∨ v.nullable = true ∨ "enum" ∉ v.shape.exportKeys) :
    OnlyTooDeep (compileMembers path child follow v.toMembers) := by
  refine compileMembers_onlyTooDeep hf hr hb (v.lookup_of_notMem (by decide)) ?_ hp.not
  refine he.imp_right fun h => ?_
  rw [v.lookup_enum_eq h, ha]
  rfl

end Exports

theorem compileAnyOf_merged_onlyTooDeep {vs : List Validator} {element : Validator}
    (h : (Shape.union vs).mergedElement? = some element)
    (he : StopsAtDepth child element.toSchema) :
    OnlyTooDeep (compileAnyOf path child (exportAll vs)) := by
  obtain ⟨ts, -, harray, hobject, hmerged⟩ := mergeAlternatives?_of_mergedElement? h
  have hbare : ∀ t ∈ ts, OnlyTooDeep (compileTyped path child (mergedNode element ts) t) := by
    intro t ht
    have ho : t ≠ .object := by
      rintro rfl
      exact hobject ht
    refine compileTyped_onlyTooDeep typeName?_bare wellFormed_bare (fun v hv => ?_)
      (describes_bare ho rfl fun _ => lookup_mergedNode)
    cases t with
    | array =>
        obtain rfl : v = element := by simpa [TypeName.bare, Shape.validators] using hv
        exact he
    | object => exact absurd rfl ho
    | boolean | null | string | number | integer => cases hv
  rw [compileAnyOf, hmerged]
  change OnlyTooDeep (compileMerged path child (mergedNode element ts))
  rw [compileMerged, ofTypeOrConst_mergedNode]
  rcases ts with _ | ⟨t, _ | ⟨u, rest⟩⟩
  · cases harray
  · exact hbare t (List.mem_singleton_self t)
  · exact compileTypes_onlyTooDeep hbare

theorem compileMembers_export_onlyTooDeep {v : Validator} (hw : v.shape.WellFormed)
    (ha : v.allowed = none) (hp : PartsStopAtDepth child v) :
    OnlyTooDeep (compileMembers path child follow v.toMembers) := by
  cases ht : v.shape.typeName? with
  | some t =>
      exact compileMembers_typed_onlyTooDeep hp ha ht (fun _ _ => rfl) rfl
        (compileTyped_onlyTooDeep ht hw hp.below (describes_typed ht))
  | none =>
      by_cases hn : v.nullable = true
      · refine compileMembers_untyped_onlyTooDeep hp ha (ofNode_untyped_nullable hn ht) (by simp) ?_
          (.inr (.inl hn))
        rw [compileForm, compileAnyOf, mergeAlternatives?_orNull ht]
        refine (compileEach_onlyTooDeep ?_ "anyOf" 0).map _
        simp only [List.forall_mem_cons]
        exact ⟨hp.bare hn, hp.null, List.forall_mem_nil _⟩
      · have hn := Bool.eq_false_iff.2 hn
        cases hs : v.shape with
        | boolean | null | string | number | array | tuple | object =>
            rw [hs] at ht
            cases ht
        | any | never =>
            have hk : v.shape.exportKeys ⊆ ["not"] := by
              simp [hs, Shape.exportKeys]
            exact compileMembers_untyped_onlyTooDeep hp ha (ofNode_leaf_any hn hk ha) (by simp) .ok
              (.inr (.inr fun hm => absurd (hk hm) (by decide)))
        | literal x =>
            exact compileMembers_untyped_onlyTooDeep hp ha (ofNode_literal hn ha hs) (by simp) .ok
              (.inr (.inr (by simp [hs, Shape.exportKeys])))
        | among xs =>
            exact compileMembers_untyped_onlyTooDeep hp ha (ofNode_among hn ha hs) (by simp) .ok
              (.inl rfl)
        | union vs =>
            rw [hs] at hw
            refine compileMembers_untyped_onlyTooDeep hp ha (ofNode_union hn hw hs) (by simp) ?_
              (.inr (.inr (by simp [hs, Shape.exportKeys])))
            cases hm : v.shape.mergedElement? with
            | some element => exact compileAnyOf_merged_onlyTooDeep (hs ▸ hm) (hp.element _ hm)
            | none =>
                rw [compileForm, compileAnyOf, mergeAlternatives?_eq_none (hs ▸ hm)]
                exact (compileEach_onlyTooDeep (hp.exportAll (hs ▸ rfl)) _ 0).map _
        | exclusiveUnion vs =>
            rw [hs] at hw
            exact compileMembers_untyped_onlyTooDeep hp ha (ofNode_exclusiveUnion hn hw hs)
              (by simp)
              ((compileEach_onlyTooDeep (hp.exportAll (hs ▸ rfl)) _ 0).map _)
              (.inr (.inr (by simp [hs, Shape.exportKeys])))
        | intersection vs =>
            rw [hs] at hw
            exact compileMembers_untyped_onlyTooDeep hp ha (ofNode_intersection hn hw hs)
              (by simp)
              ((compileEach_onlyTooDeep (hp.exportAll (hs ▸ rfl)) _ 0).map _)
              (.inr (.inr (by simp [hs, Shape.exportKeys])))

def ExportStopsAtDepth (v : Validator) : Prop :=
  ∀ c : Context, OnlyTooDeep (compileNode c v.toSchema)

section Whole

variable {v : Validator}

theorem partsStopAtDepth (h : ∀ w ∈ v.children, w.Everywhere ExportStopsAtDepth)
    (hbare : v.nullable = true → ExportStopsAtDepth (.ofShape v.shape)) (c : Context) :
    PartsStopAtDepth (childOf c) v where
  children := fun w hw => stopsAtDepth_childOf (h w hw).here c
  element := fun _ he => stopsAtDepth_childOf (mergedElement?_everywhere h he) c
  bare := fun hn => stopsAtDepth_childOf (hbare hn) c
  any := stopsAtDepth_childOf (fun d => .of_ok
    ((restoresFrom_any d (Nat.zero_le _)).imp fun _ => And.left)) c
  null := stopsAtDepth_childOf (fun d => .of_ok
    ((restoresFrom_null d (Nat.zero_le _)).imp fun _ => And.left)) c

/-- A nullable shape is exported beside null, so it is compiled without its modifiers first. -/
theorem partsStopAtDepth_of_children (hw : v.shape.WellFormed)
    (h : ∀ w ∈ v.children, w.Everywhere ExportStopsAtDepth) (c : Context) :
    PartsStopAtDepth (childOf c) v := by
  refine partsStopAtDepth h (fun _ d => ?_) c
  have hb : ∀ w ∈ (Validator.ofShape v.shape).children, w.Everywhere ExportStopsAtDepth := by
    intro w hw
    refine h w (List.mem_append_left _ ?_)
    simpa [Validator.children, Validator.ofShape] using hw
  rw [compileNode_export]
  have hbare : (Validator.ofShape v.shape).nullable = true →
      ExportStopsAtDepth (.ofShape (Validator.ofShape v.shape).shape) :=
    fun hn => absurd hn Bool.false_ne_true
  exact compileMembers_export_onlyTooDeep hw rfl (partsStopAtDepth hb hbare d)

theorem exportStopsAtDepth (hw : v.WellFormed) (ha : v.Everywhere fun w => w.allowed = none) :
    v.Everywhere ExportStopsAtDepth := by
  induction v using Validator.induction with
  | step v ih =>
      have hc : ∀ w ∈ v.children, w.Everywhere ExportStopsAtDepth := fun w hm =>
        ih w hm (hw.child hm) (ha.child hm)
      refine Validator.everywhere_iff.2 ⟨fun c => ?_, hc⟩
      rw [compileNode_export]
      have hp := partsStopAtDepth_of_children hw.here.shape hc c
      exact compileMembers_export_onlyTooDeep hw.here.shape ha.here hp

theorem isObjectSchema_of_untyped (ht : v.shape.typeName? = none) :
    isObjectSchema v.toMembers = false := by
  have hp : v.toMembers.lookup "properties" = none := by
    by_cases hn : v.nullable = true
    · exact Validator.lookup_of_untyped hn ht (by decide)
    · refine Validator.lookup_of_not_nullable (Bool.eq_false_iff.2 hn) ?_
      cases hs : v.shape with
      | boolean | null | string | number | array | tuple | object =>
          rw [hs] at ht
          cases ht
      | any | never | literal | among | union | exclusiveUnion | intersection =>
          simp only [Shape.exportKeys]
          decide
  rw [isObjectSchema, Validator.lookup_type_of_untyped ht, Json.hasKey, hp]
  rfl

theorem compile_export_onlyTooDeep (hw : v.WellFormed)
    (ha : v.Everywhere fun w => w.allowed = none) (options : Options) :
    OnlyTooDeep (compile v.toSchema options []) := by
  have hlenient : OnlyTooDeep (compileNode (.start v.toSchema [] options) v.toSchema) :=
    (exportStopsAtDepth hw ha).here _
  rw [compile]
  split
  next =>
    rw [Validator.toSchema, prune]
    split
    next ho =>
      have hobject := (Bool.and_eq_true_iff.1 ho).1
      obtain ⟨t, ht⟩ : ∃ t, v.shape.typeName? = some t := by
        rw [← Option.isSome_iff_exists, Option.isSome_iff_ne_none]
        intro ht
        rw [isObjectSchema_of_untyped ht] at hobject
        cases hobject
      have hp := partsStopAtDepth_of_children hw.here.shape
        (fun w hm => (exportStopsAtDepth hw ha).child hm) (.start v.toSchema [] options)
      rw [compileNode_eq]
      refine compileMembers_typed_onlyTooDeep hp ha.here ht (fun key hk => ?_) ofNode_strictNode
        (compileTyped_strictNode_onlyTooDeep ht hw.here.shape hp.below (describes_typed ht))
      apply lookup_strictNode <;> rintro rfl <;> revert hk <;> decide
    next => exact hlenient
  next => exact hlenient

end Whole

theorem exists_ok_of_neverTooDeep {r : Result} (h : OnlyTooDeep r) (hn : NeverTooDeep r) :
    ∃ u, r = .ok u := by
  cases r with
  | ok u => exact ⟨u, rfl⟩
  | error e =>
      have he := h e rfl
      cases e with
      | tooDeep path limit => exact absurd rfl (hn path limit)
      | malformed | unsupported | unresolvable | cycle | invalidPattern => cases he

/-- The export is compiled under any options to a sufficient depth, and fails for lack of depth
alone. -/
theorem compile_export {schema : Json} (hs : schema.hasDistinctKeys = true)
    {definitions : Members} (hd : ∀ m ∈ definitions, m.2.hasDistinctKeys = true)
    {options : Options} {v : Validator} (hv : compile schema options definitions = .ok v)
    (ha : ∀ w, Validator.Node w v → w.allowed = none) :
    (∀ others : Options, (∃ u, compile v.toSchema others [] = .ok u) ∨
      ∃ e, compile v.toSchema others [] = .error e ∧ e.code = .recursionDepthExceeded) ∧
    ∃ n, ∀ others : Options, n ≤ others.maxDepth → ∃ u, compile v.toSchema others [] = .ok u := by
  have honly := compile_export_onlyTooDeep (wellFormed_of_compile hs hd hv) ha
  constructor
  · intro others
    cases hr : compile v.toSchema others [] with
    | ok u => exact .inl ⟨u, rfl⟩
    | error e => exact .inr ⟨e, rfl, honly others e hr⟩
  · exact ⟨_, fun others h => exists_ok_of_neverTooDeep (honly others)
      (compile_neverTooDeep v.toSchema [] others.strict h)⟩

def tagsSchema : Json :=
  .object [("anyOf", .array [.object [("items", .object [("type", .string "string")]),
      ("type", .string "array")], .object [("type", .string "string")]]),
    ("not", .object [("const", .string "none")]), ("nullable", .bool true)]

def tag : Validator := .ofShape (.string [])

def tags : Validator :=
  { shape := .union [.ofShape (.array tag []), tag], nullable := true,
    excluded := some (.ofShape (.literal (.string "none"))) }

theorem compile_export_tags : compile tagsSchema {} [] = .ok tags ∧
    ((∃ u, compile tags.toSchema { strict := true, maxDepth := 1 } [] = .ok u) ∨
      ∃ e, compile tags.toSchema { strict := true, maxDepth := 1 } [] = .error e ∧
        e.code = .recursionDepthExceeded) ∧
    ∃ n, ∀ others : Options, n ≤ others.maxDepth →
      ∃ u, compile tags.toSchema others [] = .ok u := by
  have hv : compile tagsSchema {} [] = .ok tags := by
    with_unfolding_all rfl
  have htag : tag.Everywhere fun w => w.allowed = none := Validator.everywhere_of_leaf rfl rfl
  have hlist : (Validator.ofShape (.array tag [])).Everywhere fun w => w.allowed = none := by
    refine Validator.everywhere_iff.2 ⟨rfl, fun w hw => ?_⟩
    obtain rfl := List.mem_singleton.1 hw
    exact htag
  have ha : tags.Everywhere fun w => w.allowed = none := by
    refine Validator.everywhere_iff.2 ⟨rfl, ?_⟩
    change ∀ w ∈ [Validator.ofShape (.array tag []), tag, .ofShape (.literal (.string "none"))], _
    simp only [List.forall_mem_cons]
    exact ⟨hlist, htag, Validator.everywhere_of_leaf rfl rfl,
      List.forall_mem_nil _⟩
  have h := compile_export (by decide) (List.forall_mem_nil _) hv ha
  exact ⟨hv, h.1 _, h.2⟩

end Schema

end SchemaCheck
