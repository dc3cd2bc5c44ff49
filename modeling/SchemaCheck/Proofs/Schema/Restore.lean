import Mathlib.Data.List.Nodup
import SchemaCheck.Proofs.Schema.Reread

namespace SchemaCheck

/-- An object of the shape accepts unknown keys, as one does that says nothing of them. -/
def Shape.AcceptsUnknown : Shape → Prop
  | .object _ unknown _ => unknown = .accept
  | _ => True

def Validator.AcceptsUnknown (v : Validator) : Prop := v.shape.AcceptsUnknown

namespace Schema

open Json (Members put int)
open Check (rules)

/-- The two accept the same values, and have the same default. -/
structure Alike (u v : Validator) : Prop where
  accepts : ∀ x, u.Accepts x ↔ v.Accepts x
  default : u.defaultValue = v.defaultValue

/-- The schema of the validator is compiled to a validator alike, wherever it stands. -/
def Restores (child : ChildCompiler) (v : Validator) : Prop :=
  ∀ segments, ∃ u, child segments v.toSchema = .ok u ∧ Alike u v

def TypeName.keys : TypeName → List String
  | .object => ["properties", "required", "additionalProperties"] ++ ObjectRule.keywords
  | .array => ["items", "prefixItems"] ++ ArrayRule.keywords
  | .string => StringRule.keywords
  | .number => NumberRule.keywords
  | .integer => NumberRule.keywords
  | .boolean => []
  | .null => []

variable {path : String} {child : ChildCompiler} {node : Members}

theorem compileEach_ok {α : Type} {schemaOf : α → Json} {R : Validator → α → Prop} {as : List α}
    (h : ∀ a ∈ as, ∀ segments, ∃ v, child segments (schemaOf a) = .ok v ∧ R v a)
    (keyword : String) (i : Nat) :
    ∃ vs, compileEach child keyword i (as.map schemaOf) = .ok vs ∧ List.Forall₂ R vs as := by
  induction as generalizing i with
  | nil => exact ⟨[], rfl, .nil⟩
  | cons a rest ih =>
      rw [List.forall_mem_cons] at h
      obtain ⟨v, hv, ha⟩ := h.1 [keyword, toString i]
      obtain ⟨vs, hvs, hall⟩ := ih h.2 (i + 1)
      refine ⟨v :: vs, ?_, .cons ha hall⟩
      rw [List.map_cons, compileEach, hv, hvs]
      rfl

theorem compileEach_restores {vs : List Validator} (h : ∀ v ∈ vs, Restores child v)
    (keyword : String) (i : Nat) :
    ∃ us, compileEach child keyword i (exportAll vs) = .ok us ∧ List.Forall₂ Alike us vs := by
  rw [exportAll_eq_map]
  exact compileEach_ok h keyword i

theorem compileProperties_ok {R : Validator → String × Json → Prop} {properties : Members}
    (h : ∀ p ∈ properties, ∀ segments, ∃ v, child segments p.2 = .ok v ∧ R v p)
    (required : List String) :
    ∃ fields, compileProperties child required properties = .ok fields ∧
      List.Forall₂ (fun f p => f.name = p.1 ∧ f.required = required.contains p.1 ∧
        R f.validator p) fields properties := by
  induction properties with
  | nil => exact ⟨[], rfl, .nil⟩
  | cons p rest ih =>
      obtain ⟨name, x⟩ := p
      rw [List.forall_mem_cons] at h
      obtain ⟨v, hv, hp⟩ := h.1 ["properties", name]
      obtain ⟨fields, hfields, hall⟩ := ih h.2
      refine ⟨⟨name, required.contains name, v⟩ :: fields, ?_, .cons ⟨rfl, rfl, hp⟩ hall⟩
      rw [compileProperties, hv, hfields]
      rfl

theorem writtenIn_of_entries {ρ α : Type} [Rule ρ α] {table : RuleTable ρ}
    {entry : ρ → String × Json} {checks : List (Check ρ)} (schema : Members)
    (hd : DistinctRules entry checks) (hr : ∀ r ∈ rules checks, ReadsBack table entry r)
    (hs : ∀ e ∈ table, schema.lookup e.1 = none)
    (h : ∀ e ∈ table, node.lookup e.1 =
      (addEntries schema (checks.map fun c => entry c.rule)).lookup e.1) :
    WrittenIn table entry checks node where
  distinct := hd
  readsBack := hr
  lookup := fun e he => (h e he).trans (lookup_entries hd (hs e he))

def Retyped (path : String) (child : ChildCompiler) (node : Members) (t : TypeName) (s : Shape) :
    Prop :=
  ∃ s', compileTyped path child node t = .ok (.ofShape s') ∧ ∀ x, s'.Accepts x ↔ s.Accepts x

/-- The node says under the keys of the type what the schema of the shape says. -/
def Describes (node : Members) (t : TypeName) (s : Shape) : Prop :=
  ∀ key ∈ t.keys, node.lookup key = s.toMembers.lookup key

theorem retyped_string {checks : List (Check StringRule)}
    (hd : DistinctRules StringRule.entry checks) (h : Describes node .string (.string checks)) :
    Retyped path child node .string (.string checks) := by
  have hk : ∀ e ∈ stringTable, e.1 ∈ TypeName.string.keys := by decide
  have hw : WrittenIn stringTable StringRule.entry checks node :=
    writtenIn_of_entries (typed "string") hd (fun r _ => stringRule_readsBack r) (by decide)
      fun e he => h e.1 (hk e he)
  obtain ⟨cs, hcs, ha⟩ := stringChecks_of_written hw path
  refine ⟨.string cs, ?_, fun x => ?_⟩
  · rw [compileTyped, hcs]
    rfl
  · simp only [Shape.accepts_string, ha]

theorem retyped_number {integer : Bool} {checks : List (Check NumberRule)}
    (hw : (Shape.number integer checks).WellFormed)
    (h : ∀ key ∈ NumberRule.keywords,
      node.lookup key = (Shape.number integer checks).toMembers.lookup key) :
    Retyped path child node (if integer then .integer else .number) (.number integer checks) := by
  have hk : ∀ e ∈ numberTable, e.1 ∈ NumberRule.keywords := by decide
  have hr : ∀ r ∈ rules checks, ReadsBack numberTable NumberRule.entry r := by
    refine fun r hr => numberRule_readsBack ?_
    rintro step rfl
    exact hw.2 step hr
  have hs : ∀ e ∈ numberTable,
      (typed (if integer then "integer" else "number")).lookup e.1 = none := by
    cases integer <;> decide
  have hwritten : WrittenIn numberTable NumberRule.entry checks node :=
    writtenIn_of_entries _ hw.1 hr hs fun e he => h e.1 (hk e he)
  obtain ⟨cs, hcs, ha⟩ := numberChecks_of_written hwritten path
  have hc : compileTyped path child node (if integer then .integer else .number) =
      numberChecks node path >>= fun cs => .ok (.ofShape (.number integer cs)) := by
    cases integer <;> rfl
  refine ⟨.number integer cs, ?_, fun x => ?_⟩
  · rw [hc, hcs]
    rfl
  · simp only [Shape.accepts_number, ha]

theorem lookup_items_array (element : Validator) (checks : List (Check ArrayRule)) :
    (Shape.array element checks).toMembers.lookup "items" = some element.toSchema := by
  rw [Shape.toMembers,
    lookup_addEntries_of_notMem (notMem_entries ArrayRule.keyword_mem (by decide)),
    Json.lookup_put_self, Validator.toSchema]

section Array

variable {element : Validator} {checks : List (Check ArrayRule)}
  (h : Describes node .array (.array element checks))
include h

theorem writtenIn_array (hd : DistinctRules ArrayRule.entry checks) :
    WrittenIn arrayTable ArrayRule.entry checks node := by
  have hk : ∀ e ∈ arrayTable, e.1 ∈ TypeName.array.keys := by decide
  have hs : ∀ e ∈ arrayTable, (put "items" element.toSchema (typed "array")).lookup e.1 = none := by
    intro e he
    have hne : e.1 ≠ "items" ∧ e.1 ≠ "type" := by
      revert e
      decide
    rw [Json.lookup_put_of_ne hne.1, lookup_typed hne.2]
  refine writtenIn_of_entries (put "items" element.toSchema (typed "array")) hd
    (fun r _ => arrayRule_readsBack r) hs fun e he => ?_
  rw [h e.1 (hk e he), Shape.toMembers, Validator.toSchema]

theorem compileElement_export : compileElement child node = child ["items"] element.toSchema := by
  have hi : node.lookup "items" = some element.toSchema :=
    (h _ (by decide)).trans (lookup_items_array element checks)
  rw [compileElement, hi]

theorem compileArray_export : compileArray path child node = compileList path child node := by
  have hi : node.lookup "items" = some element.toSchema :=
    (h _ (by decide)).trans (lookup_items_array element checks)
  have hp : node.lookup "prefixItems" = none :=
    (h _ (by decide)).trans (lookup_shape_of_notMem
      (show "prefixItems" ∉ "type" :: "items" :: ArrayRule.keywords by decide))
  rw [compileArray, hi, Validator.toSchema, hp]

theorem retyped_array (hd : DistinctRules ArrayRule.entry checks) (he : Restores child element) :
    Retyped path child node .array (.array element checks) := by
  obtain ⟨cs, hcs, ha⟩ := arrayChecks_of_written (writtenIn_array h hd) path
  obtain ⟨u, hu, hue⟩ := he ["items"]
  refine ⟨.array u cs, ?_, fun x => ?_⟩
  · rw [compileTyped, compileArray_export h, compileList, compileElement_export h, hu, hcs]
    rfl
  · simp only [Shape.accepts_array, ha, hue.accepts]

end Array

theorem lookup_items_tuple {vs : List Validator} (h : Describes node .array (.tuple vs)) :
    node.lookup "items" = some (.array (exportAll vs)) := by
  rw [h _ (by decide), Shape.toMembers, lookup_addEntries (by simp) (by simp)]
  rfl

theorem retyped_tuple {vs : List Validator} (hv : ∀ v ∈ vs, Restores child v)
    (h : Describes node .array (.tuple vs)) : Retyped path child node .array (.tuple vs) := by
  obtain ⟨us, hus, ha⟩ := compileEach_restores hv "items" 0
  refine ⟨.tuple us, ?_, fun x => ?_⟩
  · rw [compileTyped, compileArray, lookup_items_tuple h]
    simp only [compileTuple, hus, bind, Except.bind]
  · simp only [Shape.accepts_tuple, forall₂_iff (ha.imp fun _ _ h => h.accepts)]

structure FieldAlike (g f : Field) : Prop where
  name : g.name = f.name
  required : g.required = f.required
  validator : Alike g.validator f.validator

theorem FieldAlike.accepts_iff {f g : Field} (h : FieldAlike g f) {members : Members} :
    g.Accepts members ↔ f.Accepts members := by
  constructor
  · intro hg
    constructor
    · intro y hy
      exact (h.validator.accepts y).1 (hg.present y (h.name ▸ hy))
    · intro hl hr
      rw [← h.validator.default]
      exact hg.absent (h.name ▸ hl) (h.required.trans hr)
  · intro hf
    constructor
    · intro y hy
      exact (h.validator.accepts y).2 (hf.present y (h.name ▸ hy))
    · intro hl hr
      rw [h.validator.default]
      exact hf.absent (h.name ▸ hl) (h.required.symm.trans hr)

structure FieldsAlike (gs fields : List Field) : Prop where
  left : ∀ g ∈ gs, ∃ f ∈ fields, FieldAlike g f
  right : ∀ f ∈ fields, ∃ g ∈ gs, FieldAlike g f

theorem FieldsAlike.accepts_iff {gs fields : List Field} (h : FieldsAlike gs fields)
    {members : Members} : (∀ g ∈ gs, g.Accepts members) ↔ ∀ f ∈ fields, f.Accepts members := by
  constructor
  · intro hall f hf
    obtain ⟨g, hg, ha⟩ := h.right f hf
    exact ha.accepts_iff.1 (hall g hg)
  · intro hall g hg
    obtain ⟨f, hf, ha⟩ := h.left g hg
    exact ha.accepts_iff.2 (hall f hf)

theorem compileProperties_restores {fields : List Field}
    (hf : ∀ f ∈ fields, Restores child f.validator) {required : List String}
    (hr : ∀ f ∈ fields, required.contains f.name = f.required) {properties : Members}
    (hp : ∀ p ∈ properties, ∃ f ∈ fields, p = (f.name, f.validator.toSchema)) :
    ∃ gs, compileProperties child required properties = .ok gs ∧
      List.Forall₂ (fun g p => ∃ f ∈ fields, p = (f.name, f.validator.toSchema) ∧ FieldAlike g f)
        gs properties := by
  have hchild : ∀ p ∈ properties, ∀ segments, ∃ u, child segments p.2 = .ok u ∧
      ∃ f ∈ fields, p = (f.name, f.validator.toSchema) ∧ Alike u f.validator := by
    intro p hm segments
    obtain ⟨f, hmem, rfl⟩ := hp p hm
    obtain ⟨u, hu, ha⟩ := hf f hmem segments
    exact ⟨u, hu, f, hmem, rfl, ha⟩
  obtain ⟨gs, hgs, hall⟩ := compileProperties_ok hchild required
  refine ⟨gs, hgs, hall.imp ?_⟩
  rintro g p ⟨hname, hreq, f, hm, rfl, ha⟩
  exact ⟨f, hm, rfl, hname, hreq.trans (hr f hm), ha⟩

section Fields

variable {fields : List Field} (hd : (fields.map (·.name)).Nodup)
include hd

theorem contains_required {f : Field} (hf : f ∈ fields) :
    ((fields.filter (·.required)).map (·.name)).contains f.name = f.required := by
  rw [Bool.eq_iff_iff, List.contains_iff_mem, List.mem_map]
  constructor
  · rintro ⟨g, hg, hn⟩
    obtain ⟨hg, hr⟩ := List.mem_filter.1 hg
    rwa [← List.inj_on_of_nodup_map hd hg hf hn]
  · intro hr
    exact ⟨f, List.mem_filter.2 ⟨hf, hr⟩, rfl⟩

theorem exportFields_restores (hf : ∀ f ∈ fields, Restores child f.validator) :
    ∃ gs, compileProperties child ((fields.filter (·.required)).map (·.name))
      (exportFields [] fields) = .ok gs ∧ FieldsAlike gs fields := by
  have hp : ∀ {p}, p ∈ exportFields [] fields ↔
      ∃ f ∈ fields, p = (f.name, f.validator.toSchema) := by
    intro p
    rw [mem_exportFields hd (fun _ _ h => by cases h)]
    simp
  obtain ⟨gs, hgs, hall⟩ := compileProperties_restores hf (fun f hm => contains_required hd hm)
    fun p hm => hp.1 hm
  refine ⟨gs, hgs, ?_, ?_⟩
  · intro g hg
    obtain ⟨p, -, f, hm, -, ha⟩ := exists_of_forall₂_left hall hg
    exact ⟨f, hm, ha⟩
  · intro f hm
    obtain ⟨g, hg, f', hm', he, ha⟩ :=
      exists_of_forall₂_left hall.flip (hp.2 ⟨f, hm, rfl⟩)
    have hff : f = f' := List.inj_on_of_nodup_map hd hm hm' (congrArg Prod.fst he)
    exact ⟨g, hg, hff ▸ ha⟩

end Fields

def fieldMembers (fields : List Field) : Members :=
  if (requiredNames fields).isEmpty then
    put "properties" (.object (exportFields [] fields)) (typed "object")
  else put "required" (.array (requiredNames fields))
    (put "properties" (.object (exportFields [] fields)) (typed "object"))

theorem toMembers_object (fields : List Field) (unknown : UnknownKeys)
    (checks : List (Check ObjectRule)) : (Shape.object fields unknown checks).toMembers =
      addEntries (fieldMembers fields) (checks.map fun c => c.rule.entry) := by
  rw [Shape.toMembers]
  rfl

theorem lookup_fieldMembers {fields : List Field} {key : String}
    (h : key ∉ ["type", "properties", "required"]) : (fieldMembers fields).lookup key = none := by
  simp only [List.mem_cons, List.not_mem_nil, or_false, not_or] at h
  rw [fieldMembers]
  split
  · rw [Json.lookup_put_of_ne h.2.1, lookup_typed h.1]
  · rw [Json.lookup_put_of_ne h.2.2, Json.lookup_put_of_ne h.2.1, lookup_typed h.1]

theorem lookup_properties (fields : List Field) : (fieldMembers fields).lookup "properties" =
    some (.object (exportFields [] fields)) := by
  rw [fieldMembers]
  split
  · rw [Json.lookup_put_self]
  · rw [Json.lookup_put_of_ne (by decide), Json.lookup_put_self]

theorem lookup_required (fields : List Field) : (fieldMembers fields).lookup "required" =
    if requiredNames fields = [] then none else some (.array (requiredNames fields)) := by
  rw [fieldMembers]
  by_cases h : requiredNames fields = []
  · rw [if_pos h, if_pos (List.isEmpty_iff.2 h), Json.lookup_put_of_ne (by decide),
      lookup_typed (by decide)]
  · rw [if_neg h, if_neg (mt List.isEmpty_iff.1 h), Json.lookup_put_self]

theorem lookup_object {fields : List Field} {unknown : UnknownKeys}
    {checks : List (Check ObjectRule)} {key : String} (hk : key ∉ ObjectRule.keywords) :
    (Shape.object fields unknown checks).toMembers.lookup key =
      (fieldMembers fields).lookup key := by
  rw [toMembers_object, lookup_addEntries_of_notMem (notMem_entries ObjectRule.keyword_mem hk)]

theorem requiredKeys_export {fields : List Field} {unknown : UnknownKeys}
    {checks : List (Check ObjectRule)} (h : node.lookup "required" =
      (Shape.object fields unknown checks).toMembers.lookup "required") :
    requiredKeys node = .ok ((fields.filter (·.required)).map (·.name)) := by
  have hn : requiredNames fields = ((fields.filter (·.required)).map (·.name)).map .string := by
    simp [requiredNames]
  rw [lookup_object (by decide), lookup_required] at h
  by_cases he : requiredNames fields = []
  · rw [if_pos he] at h
    rw [requiredKeys, h, List.map_eq_nil_iff.1 (hn.symm.trans he)]
  · rw [if_neg he] at h
    rw [requiredKeys, h]
    change strings _ (requiredNames fields) = _
    rw [hn, strings_map]

section Object

variable {fields : List Field} {unknown : UnknownKeys} {checks : List (Check ObjectRule)}
  (h : Describes node .object (.object fields unknown checks))
include h

theorem writtenIn_object (hc : DistinctRules ObjectRule.entry checks) :
    WrittenIn objectTable ObjectRule.entry checks node := by
  have hk : ∀ e ∈ objectTable, e.1 ∈ TypeName.object.keys := by decide
  have hs : ∀ e ∈ objectTable, e.1 ∉ ["type", "properties", "required"] := by decide
  refine writtenIn_of_entries (fieldMembers fields) hc (fun r _ => objectRule_readsBack r)
    (fun e he => lookup_fieldMembers (hs e he)) fun e he => ?_
  rw [h e.1 (hk e he), toMembers_object]

theorem lookup_properties_export :
    node.lookup "properties" = some (.object (exportFields [] fields)) := by
  rw [h _ (by decide), lookup_object (by decide), lookup_properties]

theorem lookup_additional_export : node.lookup "additionalProperties" = none := by
  rw [h _ (by decide), lookup_object (by decide), lookup_fieldMembers (by decide)]

end Object

theorem retyped_object {fields : List Field} {checks : List (Check ObjectRule)}
    (hd : (fields.map (·.name)).Nodup) (hc : DistinctRules ObjectRule.entry checks)
    (hf : ∀ f ∈ fields, Restores child f.validator)
    (h : Describes node .object (.object fields .accept checks)) :
    Retyped path child node .object (.object fields .accept checks) := by
  obtain ⟨cs, hcs, ha⟩ := objectChecks_of_written (writtenIn_object h hc) path
  obtain ⟨gs, hgs, halike⟩ := exportFields_restores hd hf
  have hp := lookup_properties_export h
  have hu : compileUnknown path child node = .ok .accept := by
    rw [compileUnknown, lookup_additional_export h]
  have hadd : addRequired gs ((fields.filter (·.required)).map (·.name)) = gs := by
    refine addRequired_of_named fun name hn => ?_
    obtain ⟨f, hm, rfl⟩ := List.mem_map.1 hn
    obtain ⟨g, hg, hga⟩ := halike.right f (List.mem_filter.1 hm).1
    exact List.any_eq_true.2 ⟨g, hg, by simpa using hga.name⟩
  refine ⟨.object gs .accept cs, ?_, fun x => ?_⟩
  · rw [compileTyped, compileObject, requiredKeys_export (h _ (by decide)), malformedAt]
    simp only [compileFields, hp, hgs, hu, hcs, hadd, bind, Except.bind]
  · rw [Shape.accepts_object, Shape.accepts_object]
    refine exists_congr fun members => and_congr_right fun _ => ?_
    rw [halike.accepts_iff, ha]
    exact Iff.rfl

theorem retyped {t : TypeName} {s : Shape} (ht : s.typeName? = some t) (hw : s.WellFormed)
    (hu : s.AcceptsUnknown) (hv : ∀ v ∈ s.validators, Restores child v) (h : Describes node t s) :
    Retyped path child node t s := by
  cases s with
  | any | never | literal | among | union | exclusiveUnion | intersection => cases ht
  | boolean =>
      cases ht
      exact ⟨.boolean, rfl, fun _ => Iff.rfl⟩
  | null =>
      cases ht
      exact ⟨.null, rfl, fun _ => Iff.rfl⟩
  | string checks =>
      cases ht
      exact retyped_string hw h
  | number integer checks =>
      cases ht
      refine retyped_number hw fun key hk => h key ?_
      cases integer <;> exact hk
  | array element checks =>
      cases ht
      exact retyped_array h hw (hv element (by simp [Shape.validators]))
  | tuple vs =>
      cases ht
      exact retyped_tuple hv h
  | object fields unknown checks =>
      cases ht
      cases hu
      refine retyped_object hw.1 hw.2 (fun f hf => hv _ ?_) h
      exact List.mem_append_left _ (List.mem_map_of_mem hf)

theorem mem_branchTypes {ts : List TypeName} {t : TypeName} :
    t ∈ branchTypes ts ↔ t ∈ ts ∧ t ≠ .null := by
  have h : ∀ us, t ∈ ts.foldl (fun us t => if t = .null ∨ t ∈ us then us else us ++ [t]) us ↔
      t ∈ us ∨ (t ∈ ts ∧ t ≠ .null) := by
    induction ts with
    | nil => simp
    | cons u rest ih =>
        intro us
        rw [List.foldl_cons, ih]
        by_cases hu : u = .null ∨ u ∈ us
        · rw [if_pos hu, List.mem_cons]
          constructor
          · rintro (h | ⟨h, hn⟩)
            · exact .inl h
            · exact .inr ⟨.inr h, hn⟩
          · rintro (h | ⟨rfl | h, hn⟩)
            · exact .inl h
            · exact .inl (hu.resolve_left hn)
            · exact .inr ⟨h, hn⟩
        · rw [not_or] at hu
          rw [if_neg (not_or.2 hu), List.mem_append, List.mem_singleton, List.mem_cons, or_assoc,
            or_and_right]
          refine or_congr Iff.rfl (or_congr ?_ Iff.rfl)
          constructor
          · rintro rfl
            exact ⟨rfl, hu.1⟩
          · exact And.left
  rw [branchTypes, h]
  simp

def IsShape (u : Validator) (s : Shape) : Prop :=
  ∃ s', u = .ofShape s' ∧ ∀ x, s'.Accepts x ↔ s.Accepts x

theorem compileBranches_retyped {shapeOf : TypeName → Shape} {ts : List TypeName}
    (h : ∀ t ∈ ts, Retyped path child (narrow node t) t (shapeOf t)) :
    ∃ us, compileBranches path child node ts = .ok us ∧
      List.Forall₂ (fun u t => IsShape u (shapeOf t)) us ts := by
  induction ts with
  | nil => exact ⟨[], rfl, .nil⟩
  | cons t rest ih =>
      rw [List.forall_mem_cons] at h
      obtain ⟨s, hs, ha⟩ := h.1
      obtain ⟨us, hus, hall⟩ := ih h.2
      refine ⟨.ofShape s :: us, ?_, .cons ⟨s, rfl, ha⟩ hall⟩
      rw [compileBranches, hs, hus]
      rfl

theorem combine_union {us : List Validator} (hne : us ≠ [])
    (h : ∀ u ∈ us, ∃ s, u = .ofShape s) :
    ∃ s, combine .union us = .ofShape s ∧ ∀ x, s.Accepts x ↔ ∃ u ∈ us, u.Accepts x := by
  match us, hne with
  | [u], _ =>
      obtain ⟨s, rfl⟩ := h u (by simp)
      exact ⟨s, rfl, fun x => by simp [Validator.accepts_ofShape]⟩
  | u :: v :: rest, _ => exact ⟨_, rfl, fun x => Shape.accepts_union⟩

/-- A list of types accepts what one of them does; null is taken out to make it nullable. -/
theorem compileTypes_retyped {shapeOf : TypeName → Shape} {ts : List TypeName}
    (hne : ∃ t ∈ ts, t ≠ .null)
    (h : ∀ t ∈ ts, t ≠ .null → Retyped path child (narrow node t) t (shapeOf t)) :
    ∃ s, compileTypes path child node ts =
        .ok { Validator.ofShape s with nullable := ts.contains .null } ∧
      ∀ x, s.Accepts x ↔ ∃ t ∈ ts, t ≠ .null ∧ (shapeOf t).Accepts x := by
  have hb : ∀ t ∈ branchTypes ts, Retyped path child (narrow node t) t (shapeOf t) :=
    fun t ht => h t (mem_branchTypes.1 ht).1 (mem_branchTypes.1 ht).2
  obtain ⟨us, hus, hall⟩ := compileBranches_retyped hb
  have hnil : us ≠ [] := by
    rintro rfl
    obtain ⟨t, ht⟩ := hne
    have hm := mem_branchTypes.2 ht
    rw [List.eq_nil_of_length_eq_zero hall.length_eq.symm] at hm
    cases hm
  obtain ⟨s, hs, ha⟩ := combine_union hnil fun u hu => by
    obtain ⟨t, -, s, rfl, -⟩ := exists_of_forall₂_left hall hu
    exact ⟨s, rfl⟩
  refine ⟨s, ?_, fun x => ?_⟩
  · rw [compileTypes, hus]
    change (if us.isEmpty = true then _ else _ : Result) = _
    rw [if_neg (by simpa using hnil), hs]
    cases ts.contains .null <;> rfl
  · have hx : List.Forall₂ (fun u t => u.Accepts x ↔ (shapeOf t).Accepts x) us
        (branchTypes ts) := by
      refine hall.imp fun u t hu => ?_
      obtain ⟨s, rfl, ha⟩ := hu
      exact Validator.accepts_ofShape.trans (ha x)
    rw [ha, exists_mem_iff hx]
    simp only [mem_branchTypes, and_assoc]

end Schema

end SchemaCheck
