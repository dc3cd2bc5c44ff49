import SchemaCheck.Proofs.Schema.Modifiers
import SchemaCheck.Proofs.Schema.PlainForms

namespace SchemaCheck

open Json (Members)

namespace Validator

variable {v w : Validator}

theorem accepts_withNullable {x : Json} :
    v.withNullable.Accepts x ↔ x = .null ∨ v.Accepts x := by
  rw [accepts_iff, accepts_iff, ← or_assoc, or_iff_left_of_imp And.right]
  simp only [withNullable, true_and]

theorem eval_withNullable (v : Validator) (x : Json) :
    v.withNullable.eval x = if x.isNull then some .null else v.eval x := by
  obtain ⟨shape, nullable, defaultValue, description, title, allowed, excluded⟩ := v
  cases h : x.isNull <;> simp [withNullable, eval, h]

theorem eval_ofShape (s : Shape) (x : Json) : (ofShape s).eval x = s.eval x := by
  simp [ofShape, eval, allows, excludes, keepIf]

theorem eval_congr (h : Schema.SameTests v w) (x : Json) : v.eval x = w.eval x := by
  obtain ⟨shape, nullable, defaultValue, description, title, allowed, excluded⟩ := v
  obtain ⟨hshape, hnullable, hallowed, hexcluded⟩ := h
  cases w
  cases hshape
  cases hnullable
  cases hallowed
  cases hexcluded
  rfl

theorem toOption_parse (v : Validator) (x : Json) : (v.parse x).toOption = v.eval x := by
  cases h : v.eval x with
  | some y => rw [parse_of_eval_eq_some h]; rfl
  | none =>
      obtain ⟨e, he, -⟩ := parse_of_eval_eq_none h
      rw [he]
      rfl

end Validator

namespace Schema

def TypeName.reads (t : TypeName) : List String :=
  "errorMessage" :: t.keys ++ t.keys.map (· ++ "Message")

section Reads

variable {path : String} {child : ChildCompiler} {node other : Members} {t : TypeName}
  (h : ∀ key ∈ t.reads, node.lookup key = other.lookup key)
include h

theorem lookup_congr (key : String) (hk : key ∈ t.keys) : node.lookup key = other.lookup key :=
  h key (List.mem_append_left _ (List.mem_cons_of_mem _ hk))

theorem customMessage_congr {keyword : String} (hk : keyword ∈ t.keys) :
    customMessage node keyword = customMessage other keyword := by
  have hm : keyword ++ "Message" ∈ t.reads :=
    List.mem_append_right _ (List.mem_map.2 ⟨keyword, hk, rfl⟩)
  rw [customMessage, customMessage, h _ hm, h "errorMessage" (List.mem_cons_self ..)]

theorem constraint_congr {ρ : Type} (keyword : String) (hk : keyword ∈ t.keys)
    (read : Json → Except Mistake (Option ρ)) :
    constraint node path keyword read = constraint other path keyword read := by
  rw [constraint, constraint, lookup_congr h _ hk, customMessage_congr h hk]

theorem exclude_congr (side : Side) (hk : side.keyword ∈ t.keys)
    (checks : List (Check NumberRule)) :
    side.exclude node path checks = side.exclude other path checks := by
  rw [Side.exclude, Side.exclude, lookup_congr h _ hk, customMessage_congr h hk,
    constraint_congr h _ hk]

theorem numberChecks_congr (hk : ∀ key ∈ NumberRule.keywords, key ∈ t.keys) :
    numberChecks node path = numberChecks other path := by
  simp only [numberChecks, constraint_congr h _ (hk "minimum" (by decide)),
    constraint_congr h _ (hk "maximum" (by decide)),
    constraint_congr h _ (hk "multipleOf" (by decide)),
    exclude_congr h .lower (hk _ (by decide)), exclude_congr h .upper (hk _ (by decide))]

theorem compileTyped_congr : compileTyped path child node t = compileTyped path child other t := by
  cases t with
  | object =>
      simp only [compileTyped, compileObject, requiredKeys, compileFields, compileUnknown,
        objectChecks, lookup_congr h "required" (by decide),
        lookup_congr h "properties" (by decide),
        lookup_congr h "additionalProperties" (by decide),
        constraint_congr h "minProperties" (by decide),
        constraint_congr h "maxProperties" (by decide)]
  | array =>
      simp only [compileTyped, compileArray, compileList, compileElement, arrayChecks,
        lookup_congr h "items" (by decide),
        lookup_congr h "prefixItems" (by decide),
        constraint_congr h "minItems" (by decide),
        constraint_congr h "maxItems" (by decide),
        constraint_congr h "uniqueItems" (by decide)]
  | string =>
      simp only [compileTyped, stringChecks, constraint_congr h "minLength" (by decide),
        constraint_congr h "maxLength" (by decide),
        constraint_congr h "pattern" (by decide),
        constraint_congr h "format" (by decide)]
  | number | integer => rw [compileTyped, compileTyped, numberChecks_congr h fun _ hk => hk]
  | boolean | null => rfl

end Reads

/-- The node says the type, and accepts the value by that type. -/
def TypeAccepts (c : Context) (node : Members) (x : Json) (t : TypeName) : Prop :=
  ∃ u, compileTyped c.path (childOf c) node t = .ok u ∧ u.Accepts x

section Types

variable {c : Context} {node : Members} {x : Json} {t : TypeName} {ts : List TypeName}
  {v : Validator}

theorem typeAccepts_of_ok (h : compileTyped c.path (childOf c) node t = .ok v) :
    TypeAccepts c node x t ↔ v.Accepts x := by
  rw [TypeAccepts, h]
  simp

theorem typeAccepts_null : TypeAccepts c node x .null ↔ x = .null := by
  rw [typeAccepts_of_ok rfl, Validator.accepts_ofShape, Shape.accepts_null]

theorem TypeAccepts.congr {other : Members}
    (h : ∀ key ∈ t.reads, node.lookup key = other.lookup key) :
    TypeAccepts c node x t ↔ TypeAccepts c other x t := by
  rw [TypeAccepts, TypeAccepts, compileTyped_congr h]

theorem holds_of_accepts {s : Shape} (ht : s.typeName? = some t) (hx : s.Accepts x) :
    t.Holds x := by
  cases s with
  | any | never | literal | among | union | exclusiveUnion | intersection => cases ht
  | boolean =>
      cases ht
      exact Shape.accepts_boolean.1 hx
  | null =>
      cases ht
      exact Shape.accepts_null.1 hx
  | string checks =>
      cases ht
      obtain ⟨s, he, -⟩ := Shape.accepts_string.1 hx
      exact ⟨s, he⟩
  | number integer checks =>
      obtain ⟨n, he, hi, -⟩ := Shape.accepts_number.1 hx
      cases integer with
      | false =>
          cases ht
          exact ⟨n, he⟩
      | true =>
          cases ht
          exact ⟨n, he, hi rfl⟩
  | array element checks =>
      cases ht
      obtain ⟨items, he, -⟩ := Shape.accepts_array.1 hx
      exact ⟨items, he⟩
  | tuple vs =>
      cases ht
      obtain ⟨items, he, -⟩ := Shape.accepts_tuple.1 hx
      exact ⟨items, he⟩
  | object fields unknown checks =>
      cases ht
      obtain ⟨members, he, -⟩ := Shape.accepts_object.1 hx
      exact ⟨members, he⟩

theorem holds_of_typeAccepts (h : TypeAccepts c node x t) : t.Holds x := by
  obtain ⟨u, hu, hx⟩ := h
  obtain ⟨s, rfl, ht⟩ := compileTyped_produces t u hu
  exact holds_of_accepts ht (Validator.accepts_ofShape.1 hx)

theorem accepts_combine_union {vs : List Validator} :
    (combine .union vs).Accepts x ↔ ∃ v ∈ vs, v.Accepts x := by
  match vs with
  | [v] => simp [combine]
  | [] | _ :: _ :: _ => exact Validator.accepts_ofShape.trans Shape.accepts_union

theorem exists_accepts_of_compileBranches {vs : List Validator}
    (h : compileBranches c.path (childOf c) node ts = .ok vs) :
    (∃ v ∈ vs, v.Accepts x) ↔ ∃ t ∈ ts, TypeAccepts c node x t := by
  induction ts generalizing vs with
  | nil =>
      cases h
      simp
  | cons t rest ih =>
      obtain ⟨v, hv, h⟩ := bind_eq_ok h
      obtain ⟨ws, hws, h⟩ := bind_eq_ok h
      cases h
      rw [← (like_narrow node t).compileTyped] at hv
      rw [List.exists_mem_cons_iff, List.exists_mem_cons_iff, ih hws, typeAccepts_of_ok hv]

/-- Null among the types is no branch, but makes the union nullable. -/
theorem accepts_compileTypes (hne : ts ≠ [])
    (h : compileTypes c.path (childOf c) node ts = .ok v) :
    v.Accepts x ↔ ∃ t ∈ ts, TypeAccepts c node x t := by
  obtain ⟨vs, hvs, h⟩ := bind_eq_ok h
  have hnull : (∃ t ∈ ts, TypeAccepts c node x t) ↔
      (.null ∈ ts ∧ x = .null) ∨ ∃ v ∈ vs, v.Accepts x := by
    rw [exists_accepts_of_compileBranches hvs]
    simp only [mem_branchTypes]
    constructor
    · rintro ⟨t, ht, ha⟩
      by_cases hn : t = .null
      · subst hn
        exact .inl ⟨ht, typeAccepts_null.1 ha⟩
      · exact .inr ⟨t, ⟨ht, hn⟩, ha⟩
    · rintro (⟨ht, hx⟩ | ⟨t, ⟨ht, -⟩, ha⟩)
      · exact ⟨.null, ht, typeAccepts_null.2 hx⟩
      · exact ⟨t, ht, ha⟩
  rw [hnull]
  split at h
  next he =>
    cases h
    obtain rfl := List.isEmpty_iff.1 he
    have hmem : .null ∈ ts := by
      obtain ⟨t, ht⟩ := List.exists_mem_of_ne_nil ts hne
      by_contra hn
      have hb : t ∈ branchTypes ts := mem_branchTypes.2 ⟨ht, fun h => hn (h ▸ ht)⟩
      have hl := (compileBranches_produces _ _ hvs).1
      rw [List.eq_nil_of_length_eq_zero hl.symm] at hb
      cases hb
    simp [Validator.accepts_ofShape, Shape.accepts_null, hmem]
  next =>
    split at h
    next hc =>
      cases h
      have hmem : .null ∈ ts := List.contains_iff_mem.1 hc
      rw [Validator.accepts_withNullable, accepts_combine_union]
      simp [hmem]
    next hc =>
      cases h
      have hmem : .null ∉ ts := fun hm => hc (List.contains_iff_mem.2 hm)
      rw [accepts_combine_union]
      simp [hmem]

theorem compileTypes_produces {path : String} {child : ChildCompiler} :
    Produces (fun v => v.allowed = none ∧ v.excluded = none)
      (compileTypes path child node ts) := by
  refine (compileBranches_produces _).bind fun vs hvs => ?_
  obtain ⟨s, hs⟩ := exists_combine_eq_ofShape .union hvs.2
  rw [hs]
  split
  · exact .ok ⟨rfl, rfl⟩
  · split <;> exact .ok ⟨rfl, rfl⟩

/-- Null is let through by a node that says so, or that lists null and another type. -/
def LetsNull (node : Members) (ts : List TypeName) : Prop :=
  node.lookup "nullable" = some (.bool true) ∨ (.null ∈ ts ∧ ∃ t ∈ ts, t ≠ .null)

theorem exists_ofNode_of_compileNode (h : compileNode c (.object node) = .ok v) :
    ∃ form, Form.ofNode node = .ok form := by
  cases hf : Form.ofNode node with
  | error complaint =>
      rw [compileNode_eq, compileStep, compileMembers, hf] at h
      cases h
  | ok form => exact ⟨form, rfl⟩

theorem ofType_eq_ok {y : Json} {form : Form} (h : Form.ofType y = .ok form) :
    ∃ ts, Form.ofTypes ts = .ok form ∧
      ((∃ t, ts = [t]) ∨ y = .array (ts.map fun t => .string t.name)) := by
  cases y with
  | string name =>
      obtain ⟨t, -, rfl⟩ := map_eq_ok h
      exact ⟨[t], rfl, .inl ⟨t, rfl⟩⟩
  | array items =>
      obtain ⟨names, hnames, h⟩ := bind_eq_ok h
      obtain ⟨ts, hts, h⟩ := bind_eq_ok h
      refine ⟨ts, h, .inr ?_⟩
      rw [strings_eq_ok hnames, names_of_mapM_read hts, List.map_map]
      rfl
  | null | bool b | number n | object members => cases h

theorem properties_of_ofTypes {form : Form} (h : Form.ofTypes ts = .ok form) :
    ts ≠ [] ∧ (∀ reference, form ≠ .ref reference) ∧ form.isEnum = false := by
  match ts with
  | [] => cases h
  | [t] | _ :: _ :: _ =>
      cases h
      exact ⟨List.cons_ne_nil _ _, nofun, rfl⟩

/-- A node that is read as types accepts a null that is let through, and what one of the types
accepts and the enumeration and the exclusion admit. -/
theorem isValid_of_types {form : Form} (hts : Form.ofTypes ts = .ok form)
    (hf : Form.ofNode node = .ok form) (hv : compileNode c (.object node) = .ok v) :
    v.isValid x = true ↔ (LetsNull node ts ∧ x = .null) ∨
      ((∃ t ∈ ts, TypeAccepts c node x t) ∧ NodeAdmits c node x) := by
  obtain ⟨hne, hr, he⟩ := properties_of_ofTypes hts
  obtain ⟨w, hw, hm⟩ := modified_of_compileNode hf hr he hv
  rw [compileForm_ofTypes hts] at hw
  obtain ⟨hallowed, hexcluded⟩ := compileTypes_produces w hw
  have hnull := nullable_of_compileTypes hw
  have hw : (∃ t ∈ ts, TypeAccepts c node x t) ↔
      (w.nullable = true ∧ x = .null) ∨ w.shape.Accepts x := by
    rw [← accepts_compileTypes hne hw, Validator.accepts_iff, hallowed, hexcluded]
    simp [allows]
  rw [hm.accepts_iff, hm.admits_iff, hm.nullable, hallowed, hexcluded, hw, LetsNull, ← hnull]
  constructor
  · rintro (hn | ⟨hs, hadmits, -⟩)
    · exact .inl hn
    · exact .inr ⟨.inr hs, hadmits⟩
  · rintro (hn | ⟨⟨hn, hx⟩ | hs, hadmits⟩)
    · exact .inl hn
    · exact .inl ⟨.inr hn, hx⟩
    · exact .inr ⟨hs, hadmits, fun _ => rfl, fun _ _ h => by cases h⟩

theorem isValid_of_types_of_unrestricted {form : Form} (hts : Form.ofTypes ts = .ok form)
    (hf : Form.ofNode node = .ok form) (hm : ∀ key ∈ ["enum", "not"], node.lookup key = none)
    (hv : compileNode c (.object node) = .ok v) :
    v.isValid x = true ↔ (node.lookup "nullable" = some (.bool true) ∧ x = .null) ∨
      ∃ t ∈ ts, TypeAccepts c node x t := by
  have hadmits : NodeAdmits c node x :=
    ⟨by simp [hm "enum" (by decide)], by simp [hm "not" (by decide)]⟩
  rw [isValid_of_types hts hf hv, and_iff_left hadmits, LetsNull]
  constructor
  · rintro (⟨hl | ⟨ht, -⟩, rfl⟩ | ha)
    · exact .inl ⟨hl, rfl⟩
    · exact .inr ⟨.null, ht, typeAccepts_null.2 rfl⟩
    · exact .inr ha
  · rintro (⟨hl, hx⟩ | ha)
    · exact .inl ⟨.inl hl, hx⟩
    · exact .inr ha

theorem isValid_of_types_of_absent {form : Form} (hts : Form.ofTypes ts = .ok form)
    (hf : Form.ofNode node = .ok form)
    (hm : ∀ key ∈ ["enum", "not", "nullable"], node.lookup key = none)
    (hv : compileNode c (.object node) = .ok v) :
    v.isValid x = true ↔ ∃ t ∈ ts, TypeAccepts c node x t := by
  have hn : node.lookup "nullable" = none := hm _ (by decide)
  rw [isValid_of_types_of_unrestricted hts hf
    (fun key hk => hm key (by revert key; decide)) hv]
  simp [hn]

theorem compileTyped_of_types {form : Form} (hts : Form.ofTypes ts = .ok form)
    (hf : Form.ofNode node = .ok form) (hv : compileNode c (.object node) = .ok v) :
    ∀ t ∈ ts, ∃ u, compileTyped c.path (childOf c) node t = .ok u := by
  obtain ⟨-, hr, he⟩ := properties_of_ofTypes hts
  obtain ⟨w, hw, -⟩ := modified_of_compileNode hf hr he hv
  rw [compileForm_ofTypes hts] at hw
  obtain ⟨vs, hvs, -⟩ := bind_eq_ok hw
  intro t ht
  by_cases hn : t = .null
  · subst hn
    exact ⟨_, rfl⟩
  · rw [(like_narrow node t).compileTyped]
    exact compiles_of_compileBranches hvs t (mem_branchTypes.2 ⟨ht, hn⟩)

end Types

theorem eval_withMetadata (node : Members) (w : Validator) (x : Json) :
    (withMetadata node w).eval x = w.eval x := by
  have h : SameTests (withMetadata node w) w := ⟨rfl, rfl, rfl, rfl⟩
  exact Validator.eval_congr h x

def finish (path : String) (child : ChildCompiler) (node : Members) (w : Validator) : Result := do
  let v ← refineEnum path node w
  let v ← setExcluded child node v
  .ok (withMetadata node v)

theorem finish_congr {path : String} {child : ChildCompiler} {node other : Members}
    (h : ∀ key ∈ ["enum", "not", "default", "description", "title"],
      node.lookup key = other.lookup key) (w : Validator) :
    finish path child node w = finish path child other w := by
  simp only [finish, refineEnum, setExcluded, withMetadata, h "enum" (by decide),
    h "not" (by decide), h "default" (by decide), h "description" (by decide),
    h "title" (by decide)]

theorem finish_of_absent {path : String} {child : ChildCompiler} {node : Members}
    (h : ∀ key ∈ ["enum", "not"], node.lookup key = none) (w : Validator) :
    finish path child node w = .ok (withMetadata node w) := by
  simp only [finish, refineEnum, setExcluded, h "enum" (by decide), h "not" (by decide)]
  rfl

theorem compileNode_of_types {c : Context} {node : Members} (ts : List TypeName) {form : Form}
    (hts : Form.ofTypes ts = .ok form) (hf : Form.ofNode node = .ok form) :
    compileNode c (.object node) = (do
      let w ← compileTypes c.path (childOf c) node ts
      let w ← setNullable c.path node w
      finish c.path (childOf c) node w) := by
  obtain ⟨-, hr, he⟩ := properties_of_ofTypes hts
  rw [compileNode_eq, compileStep, compileMembers_eq hf hr, compileForm_ofTypes hts]
  refine bind_congr fun w => ?_
  simp only [modify_eq, he, Bool.false_eq_true, if_false, bind_assoc, finish]

end Schema

end SchemaCheck
