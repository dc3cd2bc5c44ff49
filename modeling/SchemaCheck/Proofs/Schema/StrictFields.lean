import SchemaCheck.Proofs.Schema.TypeLists
import SchemaCheck.Proofs.Validator.Defaults

namespace SchemaCheck.Schema

open Json (Members hasKey)

def declared (node : Members) : Members :=
  match node.lookup "properties" with
  | some (.object properties) => properties
  | _ => []

def strictNode (node : Members) : Members := closeKeys (dropOptional node)

/-- The properties of that name stay: it is required, or nothing is. -/
def keeps (node : Members) (name : String) : Bool :=
  (listedRequired node).isEmpty || (listedRequired node).contains name

section StrictNode

variable {node : Members}

theorem lookup_dropOptional {key : String} (hp : key ≠ "properties") :
    (dropOptional node).lookup key = node.lookup key := by
  rw [dropOptional]
  split
  · split
    · rfl
    · exact Json.lookup_put_of_ne hp _ _
  · rfl

theorem lookup_strictNode {key : String} (hp : key ≠ "properties")
    (ha : key ≠ "additionalProperties") : (strictNode node).lookup key = node.lookup key := by
  rw [strictNode, closeKeys]
  split
  · exact lookup_dropOptional hp
  · rw [Json.lookup_put_of_ne ha, lookup_dropOptional hp]

theorem lookup_additional_strictNode : (strictNode node).lookup "additionalProperties" =
    (node.lookup "additionalProperties").or (some (.bool false)) := by
  rw [strictNode, closeKeys, hasKey, lookup_dropOptional (by decide)]
  cases hl : node.lookup "additionalProperties" with
  | none => exact Json.lookup_put_self ..
  | some x => exact (lookup_dropOptional (by decide)).trans hl

theorem lookup_properties_strictNode_of_object {properties : Members}
    (h : node.lookup "properties" = some (.object properties)) :
    (strictNode node).lookup "properties" =
      some (.object (properties.filter fun m => keeps node m.1)) := by
  have hd : (dropOptional node).lookup "properties" =
      some (.object (properties.filter fun m => keeps node m.1)) := by
    rw [dropOptional, h]
    simp only [keeps]
    cases hr : (listedRequired node).isEmpty with
    | true => simp [h]
    | false => exact Json.lookup_put_self ..
  rw [strictNode, closeKeys]
  split
  · exact hd
  · rw [Json.lookup_put_of_ne (by decide), hd]

theorem lookup_properties_strictNode (h : ∀ properties,
    node.lookup "properties" ≠ some (.object properties)) :
    (strictNode node).lookup "properties" = node.lookup "properties" := by
  have hd : dropOptional node = node := by
    rw [dropOptional]
    split
    next properties hp => exact absurd hp (h properties)
    next => rfl
  rw [strictNode, closeKeys, hd]
  split
  · rfl
  · exact Json.lookup_put_of_ne (by decide) _ _

theorem hasKey_properties_strictNode :
    hasKey "properties" (strictNode node) = hasKey "properties" node := by
  by_cases h : ∃ properties, node.lookup "properties" = some (.object properties)
  · obtain ⟨properties, hp⟩ := h
    rw [hasKey, hasKey, lookup_properties_strictNode_of_object hp, hp]
    rfl
  · have h : ∀ properties, node.lookup "properties" ≠ some (.object properties) :=
      fun properties hp => h ⟨properties, hp⟩
    rw [hasKey, hasKey, lookup_properties_strictNode h]

theorem ofNode_strictNode : Form.ofNode (strictNode node) = Form.ofNode node := by
  have hl : ∀ key ∈ ["anyOf", "oneOf", "allOf", "$ref", "type", "enum", "const", "items",
      "prefixItems"], (strictNode node).lookup key = node.lookup key := by
    intro key hk
    apply lookup_strictNode <;> rintro rfl <;> revert hk <;> decide
  have hi : Form.implicit (strictNode node) = Form.implicit node := by
    rw [Form.implicit, Form.implicit, hasKey_properties_strictNode]
    simp only [hasKey, hl "items" (by decide), hl "prefixItems" (by decide)]
    rfl
  simp only [Form.ofNode, Form.untypedEnum?, Form.ofTypeOrConst, hi, hasKey,
    hl "anyOf" (by decide), hl "oneOf" (by decide), hl "allOf" (by decide),
    hl "$ref" (by decide), hl "type" (by decide), hl "enum" (by decide),
    hl "const" (by decide)]
  rfl

end StrictNode

section Fields

variable {path : String} {child : ChildCompiler} {node : Members} {keep : String → Bool}

theorem compileProperties_filter (keep : String → Bool) {required : List String}
    {properties : Members} {fields : List Field}
    (h : compileProperties child required properties = .ok fields) :
    compileProperties child required (properties.filter fun m => keep m.1) =
      .ok (fields.filter fun f => keep f.name) := by
  induction properties generalizing fields with
  | nil =>
      cases h
      rfl
  | cons m rest ih =>
      obtain ⟨name, x⟩ := m
      obtain ⟨v, hv, h⟩ := bind_eq_ok h
      obtain ⟨others, ho, h⟩ := bind_eq_ok h
      cases h
      cases hk : keep name with
      | false =>
          simp only [List.filter_cons, hk]
          exact ih ho
      | true =>
          simp only [List.filter_cons, hk, if_true, compileProperties, hv, ih ho]
          rfl

theorem addRequired_filter {fields : List Field} {required : List String}
    (h : ∀ name ∈ required, keep name = true) :
    addRequired (fields.filter fun f => keep f.name) required =
      (addRequired fields required).filter fun f => keep f.name := by
  induction required generalizing fields with
  | nil => rfl
  | cons name rest ih =>
      rw [List.forall_mem_cons] at h
      have hname : Field.hasName (fields.filter fun f => keep f.name) name =
          Field.hasName fields name := by
        rw [Bool.eq_iff_iff, hasName_iff, hasName_iff]
        simp only [List.mem_filter, and_assoc]
        refine exists_congr fun f => and_congr_right fun _ => and_iff_right_of_imp ?_
        rintro rfl
        exact h.1
      rw [addRequired, addRequired, hname]
      split
      · exact ih h.2
      · rw [← ih h.2, List.filter_append]
        simp only [List.filter_cons, h.1, if_true, List.filter_nil]

theorem mem_addRequired {fields : List Field} {f : Field} (hf : f ∈ fields)
    (required : List String) : f ∈ addRequired fields required := by
  induction required generalizing fields with
  | nil => exact hf
  | cons name rest ih =>
      rw [addRequired]
      split
      · exact ih hf
      · exact ih (List.mem_append_left _ hf)

theorem of_mem_addRequired {fields : List Field} {required : List String} {f : Field}
    (h : f ∈ addRequired fields required) :
    f ∈ fields ∨ ∃ name ∈ required, f = ⟨name, true, .any⟩ := by
  induction required generalizing fields with
  | nil => exact .inl h
  | cons name rest ih =>
      rw [List.exists_mem_cons_iff]
      rw [addRequired] at h
      split at h
      · exact (ih h).imp_right .inr
      · rcases ih h with h | h
        · exact (List.mem_append.1 h).imp_right fun h => .inl (List.mem_singleton.1 h)
        · exact .inr (.inr h)

theorem hasName_addRequired {fields : List Field} {required : List String} {name : String} :
    Field.hasName (addRequired fields required) name = true ↔
      Field.hasName fields name = true ∨ name ∈ required := by
  induction required generalizing fields with
  | nil => simp [addRequired]
  | cons n rest ih =>
      rw [addRequired, List.mem_cons]
      split
      next hn =>
        rw [ih]
        constructor
        · exact Or.imp_right .inr
        · rintro (h | rfl | h)
          · exact .inl h
          · exact .inl hn
          · exact .inr h
      next =>
        have happ : Field.hasName (fields ++ [⟨n, true, .any⟩]) name = true ↔
            Field.hasName fields name = true ∨ name = n := by
          rw [eq_comm (a := name)]
          simp [Field.hasName]
        rw [ih, happ, or_assoc]

end Fields

theorem listedRequired_of_requiredKeys {node : Members} {required : List String}
    (h : requiredKeys node = .ok required) : listedRequired node = required := by
  rw [requiredKeys] at h
  rw [listedRequired]
  split at h
  next hl =>
    cases h
    rw [hl]
  next names hl =>
    rw [hl, strings_eq_ok h]
    simp [List.filterMap_map, Function.comp_def, Json.string?]
  next => cases h

theorem objectChecks_strictNode (node : Members) (path : String) :
    objectChecks (strictNode node) path = objectChecks node path := by
  have hl : ∀ key ∈ ["errorMessage", "minProperties", "maxProperties",
      "minProperties" ++ "Message", "maxProperties" ++ "Message"],
      (strictNode node).lookup key = node.lookup key := by
    intro key hk
    apply lookup_strictNode <;> rintro rfl <;> revert hk <;> decide
  simp only [objectChecks, constraint, customMessage, hl "errorMessage" (by decide),
    hl "minProperties" (by decide), hl "maxProperties" (by decide),
    hl ("minProperties" ++ "Message") (by decide), hl ("maxProperties" ++ "Message") (by decide)]

/-- What the properties and the required names of a root make. -/
structure RootFields (child : ChildCompiler) (node : Members) (fields : List Field) : Prop where
  property : ∀ m ∈ declared node,
    ∃ f ∈ fields, f.name = m.1 ∧ child ["properties", m.1] m.2 = .ok f.validator
  dropped : ∀ f ∈ fields, keeps node f.name = false → f.required = false ∧
    ∃ x, (f.name, x) ∈ declared node ∧ child ["properties", f.name] x = .ok f.validator
  named : ∀ name, Field.hasName fields name = true ↔
    name ∈ Json.keys (declared node) ∨ name ∈ listedRequired node

section Object

variable {path : String} {child : ChildCompiler} {node : Members} {required : List String}
  {fields : List Field}

theorem compileProperties_eq_ok {properties : Members}
    
    (h : compileProperties child required properties = .ok fields) :
    List.Forall₂ (fun m f => f.name = m.1 ∧ f.required = required.contains m.1 ∧
      child ["properties", m.1] m.2 = .ok f.validator) properties fields := by
  induction properties generalizing fields with
  | nil =>
      cases h
      exact .nil
  | cons m rest ih =>
      obtain ⟨name, x⟩ := m
      obtain ⟨v, hv, h⟩ := bind_eq_ok h
      obtain ⟨others, ho, h⟩ := bind_eq_ok h
      cases h
      exact .cons ⟨rfl, rfl, hv⟩ (ih ho)

theorem compileFields_eq_ok (h : compileFields path child required node = .ok fields) :
    compileProperties child required (declared node) = .ok fields := by
  rw [compileFields] at h
  rw [declared]
  split at h
  next hl =>
    rw [hl]
    exact h
  next properties hl =>
    rw [hl]
    exact h
  next => cases h

theorem hasName_compileFields_iff {name : String}
    (h : compileFields path child required node = .ok fields) :
    Field.hasName fields name = true ↔ name ∈ Json.keys (declared node) := by
  have hpairs := compileProperties_eq_ok (compileFields_eq_ok h)
  rw [hasName_iff, Json.keys, List.mem_map]
  constructor
  · rintro ⟨f, hf, rfl⟩
    obtain ⟨m, hm, hn, -⟩ := exists_of_forall₂_left hpairs.flip hf
    exact ⟨m, hm, hn.symm⟩
  · rintro ⟨m, hm, rfl⟩
    obtain ⟨f, hf, hn, -⟩ := exists_of_forall₂_left hpairs hm
    exact ⟨f, hf, hn⟩

theorem compileObject_eq_ok {v : Validator} (h : compileObject path child node = .ok v) :
    ∃ fields unknown checks, compileFields path child (listedRequired node) node = .ok fields ∧
      compileUnknown path child node = .ok unknown ∧
      v = .ofShape (.object (addRequired fields (listedRequired node)) unknown checks) := by
  obtain ⟨required, hrequired, h⟩ := bind_eq_ok h
  obtain ⟨fields, hfields, h⟩ := bind_eq_ok h
  obtain ⟨unknown, hunknown, h⟩ := bind_eq_ok h
  obtain ⟨checks, -, h⟩ := bind_eq_ok h
  cases h
  obtain rfl := listedRequired_of_requiredKeys (malformedAt_eq_ok hrequired)
  exact ⟨fields, unknown, checks, hfields, hunknown, rfl⟩

theorem compileFields_strictNode (h : compileFields path child required node = .ok fields) :
    compileFields path child required (strictNode node) =
      .ok (fields.filter fun f => keeps node f.name) := by
  have hp := compileProperties_filter (keeps node) (compileFields_eq_ok h)
  rw [compileFields] at h ⊢
  rw [declared] at hp
  split at h
  next hl =>
    rw [lookup_properties_strictNode (by simp [hl]), hl]
    cases h
    rfl
  next properties hl =>
    rw [lookup_properties_strictNode_of_object hl]
    rwa [hl] at hp
  next => cases h

theorem keeps_of_mem {name : String} (h : name ∈ listedRequired node) : keeps node name = true := by
  rw [keeps, Bool.or_eq_true_iff]
  exact .inr (List.contains_iff_mem.2 h)

theorem rootFields_of_compileFields (hr : listedRequired node = required)
    (h : compileFields path child required node = .ok fields) :
    RootFields child node (addRequired fields required) := by
  have hpairs := compileProperties_eq_ok (compileFields_eq_ok h)
  constructor
  · intro m hm
    obtain ⟨f, hf, hn, -, hc⟩ := exists_of_forall₂_left hpairs hm
    exact ⟨f, mem_addRequired hf _, hn, hc⟩
  · intro f hf hk
    have hn : f.name ∉ required := by
      rintro hn
      rw [keeps_of_mem (hr ▸ hn)] at hk
      cases hk
    rcases of_mem_addRequired hf with hf | ⟨name, hm, rfl⟩
    · obtain ⟨⟨name, x⟩, hm, rfl, hreq, hc⟩ := exists_of_forall₂_left hpairs.flip hf
      refine ⟨?_, x, hm, hc⟩
      rw [hreq]
      simpa using hn
    · exact absurd hm hn
  · intro name
    rw [hasName_addRequired, hr, hasName_compileFields_iff h]

theorem compileUnknown_strictNode {unknown : UnknownKeys}
    (h : compileUnknown path child node = .ok unknown) :
    compileUnknown path child (strictNode node) =
      .ok (if hasKey "additionalProperties" node then unknown else .reject) := by
  rw [compileUnknown] at h ⊢
  rw [lookup_additional_strictNode, hasKey]
  cases hl : node.lookup "additionalProperties" with
  | none => rfl
  | some x =>
      rw [hl] at h
      exact h

theorem compileObject_strictNode {v : Validator} (h : compileObject path child node = .ok v) :
    ∃ fields unknown checks, RootFields child node fields ∧
      compileUnknown path child node = .ok unknown ∧
      v = .ofShape (.object fields unknown checks) ∧
      compileObject path child (strictNode node) =
        .ok (.ofShape (.object (fields.filter fun f => keeps node f.name)
          (if hasKey "additionalProperties" node then unknown else .reject) checks)) := by
  obtain ⟨required, hrequired, h⟩ := bind_eq_ok h
  obtain ⟨fields, hfields, h⟩ := bind_eq_ok h
  obtain ⟨unknown, hunknown, h⟩ := bind_eq_ok h
  obtain ⟨checks, hchecks, h⟩ := bind_eq_ok h
  cases h
  have hlisted := listedRequired_of_requiredKeys (malformedAt_eq_ok hrequired)
  have hkeeps : ∀ name ∈ required, keeps node name = true :=
    fun name hn => keeps_of_mem (hlisted ▸ hn)
  have hkeys : requiredKeys (strictNode node) = requiredKeys node := by
    rw [requiredKeys, requiredKeys, lookup_strictNode (by decide) (by decide)]
  refine ⟨_, unknown, checks, rootFields_of_compileFields hlisted hfields, hunknown, rfl, ?_⟩
  simp only [← addRequired_filter hkeeps, compileObject, hkeys, hrequired,
    compileFields_strictNode hfields, compileUnknown_strictNode hunknown, objectChecks_strictNode,
    hchecks, bind, Except.bind]

end Object

/-- The keys that the strict copy of a root keeps: the required ones, or all that are declared if
none is required. -/
def keptKeys (node : Members) : List String :=
  if (listedRequired node).isEmpty then Json.keys (declared node) else listedRequired node

section Acceptance

variable {child : ChildCompiler} {node members : Members} {fields : List Field}
  {unknown closed : UnknownKeys} {checks : List (Check ObjectRule)}

theorem hasName_filter {keep : String → Bool} {name : String} :
    Field.hasName (fields.filter fun f => keep f.name) name = true ↔
      Field.hasName fields name = true ∧ keep name = true := by
  rw [hasName_iff, hasName_iff]
  simp only [List.mem_filter]
  constructor
  · rintro ⟨f, ⟨hf, hk⟩, rfl⟩
    exact ⟨⟨f, hf, rfl⟩, hk⟩
  · rintro ⟨⟨f, hf, rfl⟩, hk⟩
    exact ⟨f, ⟨hf, hk⟩, rfl⟩

theorem RootFields.mem_keptKeys (h : RootFields child node fields) {key : String} :
    key ∈ keptKeys node ↔
      Field.hasName (fields.filter fun f => keeps node f.name) key = true := by
  rw [hasName_filter, h.named, keptKeys, keeps]
  cases hr : listedRequired node with
  | nil => simp
  | cons name rest =>
      simp only [List.isEmpty_cons, Bool.false_eq_true, if_false, Bool.false_or,
        List.contains_iff_mem]
      exact ⟨fun hk => ⟨.inr hk, hk⟩, And.right⟩

theorem filter_unnamed_eq_nil : (members.filter fun m => !Field.hasName fields m.1) = [] ↔
    ∀ key ∈ Json.keys members, Field.hasName fields key = true := by
  simp [List.filter_eq_nil_iff, Json.keys]

theorem RootFields.accepts_of_dropped (h : RootFields child node fields) {f : Field}
    (hf : f ∈ fields) (hk : keeps node f.name = false) (hn : members.lookup f.name = none) :
    f.Accepts members := by
  constructor
  · intro y hy
    cases hn.symm.trans hy
  · intro _ hr
    rw [(h.dropped f hf hk).1] at hr
    cases hr

theorem lookup_eq_none_of_kept {keep : String → Bool}
    (h : ∀ key ∈ Json.keys members, keep key = true) {name : String} (hk : keep name = false) :
    members.lookup name = none := by
  refine Option.eq_none_iff_forall_ne_some.2 fun y hy => ?_
  rw [h name (List.mem_map_of_mem (Json.mem_of_lookup hy))] at hk
  cases hk

theorem RootFields.accepts_closed_iff (h : RootFields child node fields) :
    (Shape.object (fields.filter fun f => keeps node f.name) .reject checks).Accepts
        (.object members) ↔
      (Shape.object fields .accept checks).Accepts (.object members) ∧
        ∀ key ∈ Json.keys members, key ∈ keptKeys node := by
  have hkeys : UnknownKeys.reject.Accepts (members.filter fun m =>
      !Field.hasName (fields.filter fun f => keeps node f.name) m.1) ↔
        ∀ key ∈ Json.keys members, key ∈ keptKeys node := by
    rw [UnknownKeys.Accepts, filter_unnamed_eq_nil]
    simp only [h.mem_keptKeys]
  rw [Shape.accepts_object, Shape.accepts_object]
  simp only [Json.object.injEq, exists_eq_left', hkeys, List.mem_filter, and_imp]
  constructor
  · rintro ⟨hf, hk, hc⟩
    refine ⟨⟨fun f hm => ?_, trivial, hc⟩, hk⟩
    cases hkeep : keeps node f.name with
    | true => exact hf f hm hkeep
    | false =>
        refine h.accepts_of_dropped hm hkeep (lookup_eq_none_of_kept (fun key hkey => ?_) hkeep)
        exact (hasName_filter.1 (h.mem_keptKeys.1 (hk key hkey))).2
  · rintro ⟨⟨hf, -, hc⟩, hk⟩
    exact ⟨fun f hm _ => hf f hm, hk, hc⟩

theorem unknown_accepts_of_sublist {others fewer : Members} (hs : fewer.Sublist others)
    (h : unknown.Accepts others) : unknown.Accepts fewer := by
  cases unknown with
  | reject => exact List.sublist_nil.1 (h ▸ hs)
  | accept => trivial
  | validate v => exact fun m hm => h m (hs.subset hm)

/-- The member of that name is accepted by each property of that name that is dropped. -/
def DroppedAccept (child : ChildCompiler) (node members : Members) : Prop :=
  ∀ m ∈ declared node, keeps node m.1 = false → ∀ y, members.lookup m.1 = some y →
    ∃ u, child ["properties", m.1] m.2 = .ok u ∧ u.isValid y = true

theorem RootFields.droppedAccept (h : RootFields child node fields)
    (ha : (Shape.object fields unknown checks).Accepts (.object members)) :
    DroppedAccept child node members := by
  intro m hm _ y hy
  obtain ⟨f, hf, hn, hc⟩ := h.property m hm
  obtain ⟨_, ⟨⟩, hfields, -⟩ := Shape.accepts_object.1 ha
  exact ⟨f.validator, hc, Validator.isValid_iff.2 ((hfields f hf).present y (hn ▸ hy))⟩

/-- Of what the strict copy accepts, only members that are dropped may fail the root. -/
theorem RootFields.accepts_of_strict (h : RootFields child node fields)
    (hs : (Shape.object (fields.filter fun f => keeps node f.name) closed checks).Accepts
      (.object members)) (hu : ∀ others, closed.Accepts others → unknown.Accepts others)
    (hd : DroppedAccept child node members) :
    (Shape.object fields unknown checks).Accepts (.object members) := by
  obtain ⟨_, ⟨⟩, hfields, hunknown, hchecks⟩ := Shape.accepts_object.1 hs
  refine Shape.accepts_object.2 ⟨members, rfl, fun f hf => ?_, ?_, hchecks⟩
  · cases hk : keeps node f.name with
    | true => exact hfields f (List.mem_filter.2 ⟨hf, hk⟩)
    | false =>
        obtain ⟨hr, x, hx, hc⟩ := h.dropped f hf hk
        constructor
        · intro y hy
          obtain ⟨u, hu, hv⟩ := hd _ hx hk y hy
          cases hc.symm.trans hu
          exact Validator.isValid_iff.1 hv
        · intro _ hreq
          cases hr.symm.trans hreq
  · refine unknown_accepts_of_sublist (List.monotone_filter_right _ fun m hm => ?_) (hu _ hunknown)
    simp only [Bool.not_eq_true'] at hm ⊢
    refine Bool.eq_false_iff.2 fun hn => ?_
    rw [(hasName_filter.1 hn).1] at hm
    cases hm

theorem RootFields.droppedAccept_of_closed (h : RootFields child node fields)
    (hs : (Shape.object (fields.filter fun f => keeps node f.name) .reject checks).Accepts
      (.object members)) : DroppedAccept child node members := by
  have hkeys := (h.accepts_closed_iff.1 hs).2
  intro m _ hk y hy
  have hn := lookup_eq_none_of_kept
    (fun key hkey => (hasName_filter.1 (h.mem_keptKeys.1 (hkeys key hkey))).2) hk
  cases hn.symm.trans hy

end Acceptance

end SchemaCheck.Schema
