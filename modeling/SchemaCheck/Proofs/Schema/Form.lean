import SchemaCheck.Proofs.Schema.Result

namespace SchemaCheck.Schema

open Json (Members)

def Form.ReadFrom (node : Members) : Form → Prop
  | .anyOf xs => node.lookup "anyOf" = some (.array xs) ∧ xs ≠ []
  | .oneOf xs => node.lookup "oneOf" = some (.array xs) ∧ xs ≠ []
  | .allOf xs => node.lookup "allOf" = some (.array xs) ∧ xs ≠ []
  | .ref reference => node.lookup "$ref" = some (.string reference)
  | _ => True

theorem nonEmptyArray_eq_ok {keyword : String} {x : Json} {items : List Json}
    (h : nonEmptyArray keyword x = .ok items) : x = .array items ∧ items ≠ [] := by
  unfold nonEmptyArray at h
  split at h <;> cases h
  rename_i hne
  exact ⟨rfl, fun h => hne (h ▸ rfl)⟩

theorem Form.readFrom_of_ofTypeOrConst {node : Members} {form : Form}
    (h : Form.ofTypeOrConst node = .ok form) : form.ReadFrom node := by
  have hl : ∀ ts form, Form.ofTypes ts = .ok form → form.ReadFrom node := by
    intro ts form h
    unfold Form.ofTypes at h
    split at h <;> cases h <;> trivial
  rw [Form.ofTypeOrConst] at h
  split at h
  · cases h
    trivial
  · split at h
    · unfold Form.ofType at h
      split at h
      · obtain ⟨t, -, rfl⟩ := map_eq_ok h
        trivial
      · obtain ⟨names, -, h⟩ := bind_eq_ok h
        obtain ⟨ts, -, h⟩ := bind_eq_ok h
        exact hl ts form h
      · cases h
    · cases h
      rw [Form.implicit]
      split
      · trivial
      · split <;> trivial

theorem nonEmptyArray_map_eq_ok {keyword : String} {x : Json} {make : List Json → Form}
    {form : Form} (h : (nonEmptyArray keyword x).map make = .ok form) :
    ∃ xs, x = .array xs ∧ xs ≠ [] ∧ form = make xs := by
  obtain ⟨xs, hn, rfl⟩ := map_eq_ok h
  obtain ⟨rfl, hne⟩ := nonEmptyArray_eq_ok hn
  exact ⟨xs, rfl, hne, rfl⟩

theorem Form.readFrom_of_ofNode {node : Members} {form : Form} (h : Form.ofNode node = .ok form) :
    form.ReadFrom node := by
  rw [Form.ofNode] at h
  split at h
  next x hx =>
    obtain ⟨xs, rfl, hne, rfl⟩ := nonEmptyArray_map_eq_ok h
    exact ⟨hx, hne⟩
  next =>
    split at h
    next x hx =>
      obtain ⟨xs, rfl, hne, rfl⟩ := nonEmptyArray_map_eq_ok h
      exact ⟨hx, hne⟩
    next =>
      split at h
      next x hx =>
        obtain ⟨xs, rfl, hne, rfl⟩ := nonEmptyArray_map_eq_ok h
        exact ⟨hx, hne⟩
      next =>
        split at h
        next x hx =>
          unfold Form.ofReference at h
          split at h <;> cases h
          exact hx
        next =>
          split at h
          · unfold Form.ofEnum at h
            split at h <;> cases h
            trivial
          · exact Form.readFrom_of_ofTypeOrConst h

theorem mergeParts?_items {xs : List Json} {types names : List String} {items merged : Option Json}
    (h : mergeParts? xs types items = some (names, merged)) :
    merged = items ∨ ∃ alternative, .object alternative ∈ xs ∧
      alternative.lookup "items" = merged := by
  induction xs generalizing types items with
  | nil =>
      simp only [mergeParts?, Option.some.injEq, Prod.mk.injEq] at h
      exact .inl h.2.symm
  | cons x rest ih =>
      cases x with
      | null | bool b | number n | string s | array items => simp [mergeParts?] at h
      | object alternative =>
          obtain ⟨ts, -, h⟩ := Option.bind_eq_some_iff.1 h
          rcases ih h with h | ⟨other, ho, hl⟩
          · cases items with
            | none => exact .inr ⟨alternative, by simp, by simpa using h.symm⟩
            | some y => exact .inl (by simpa using h)
          · exact .inr ⟨other, by simp [ho], hl⟩

theorem items_of_merged {xs : List Json} {merged : Members}
    (h : mergeAlternatives? xs = some merged) {key : String} {x : Json} (hk : key ≠ "type")
    (hl : merged.lookup key = some x) :
    ∃ alternative, .object alternative ∈ xs ∧ alternative.lookup "items" = some x := by
  obtain ⟨⟨names, items⟩, hp, h⟩ := Option.bind_eq_some_iff.1 h
  simp only at h
  split at h
  · cases items with
    | none =>
        simp only [Option.some.injEq] at h
        subst h
        rw [List.lookup_cons, beq_eq_false_iff_ne.2 hk] at hl
        cases hl
    | some y =>
        simp only [Option.some.injEq] at h
        subst h
        have hx : x = y := by
          rw [List.lookup_cons] at hl
          split at hl
          · exact (Option.some.inj hl).symm
          · rw [List.lookup_cons, beq_eq_false_iff_ne.2 hk] at hl
            cases hl
        subst hx
        rcases mergeParts?_items hp with h | h
        · cases h
        · exact h
  · cases h

def leadingKeys : List String := ["anyOf", "oneOf", "allOf", "$ref"]

theorem ofNode_of_absent {node : Members} (h : ∀ key ∈ leadingKeys, node.lookup key = none) :
    Form.ofNode node = match Form.untypedEnum? node with
      | some x => Form.ofEnum x
      | none => Form.ofTypeOrConst node := by
  cases he : Form.untypedEnum? node with
  | none | some x =>
      simp only [Form.ofNode, h "anyOf" (by decide), h "oneOf" (by decide),
        h "allOf" (by decide), h "$ref" (by decide), he]

theorem ofNode_of_type {node : Members} {x : Json}
    (h : ∀ key ∈ leadingKeys, node.lookup key = none) (hc : node.lookup "const" = none)
    (ht : node.lookup "type" = some x) : Form.ofNode node = Form.ofType x := by
  have he : Form.untypedEnum? node = none := by
    rw [Form.untypedEnum?, Json.hasKey, ht]
    rfl
  rw [ofNode_of_absent h, he]
  simp only [Form.ofTypeOrConst, hc, ht]

theorem ofNode_typed {node : Members} {t : TypeName}
    (h : ∀ key ∈ leadingKeys, node.lookup key = none) (hc : node.lookup "const" = none)
    (ht : node.lookup "type" = some (.string t.name)) : Form.ofNode node = .ok (.typed t) := by
  rw [ofNode_of_type h hc ht, Form.ofType, TypeName.read, TypeName.ofName?_name]
  rfl

theorem ofNode_enum {node : Members} {values : List Json}
    (h : ∀ key ∈ leadingKeys, node.lookup key = none) (ht : node.lookup "type" = none)
    (he : node.lookup "enum" = some (.array values)) :
    Form.ofNode node = .ok (.enum values) := by
  have hu : Form.untypedEnum? node = some (.array values) := by
    rw [Form.untypedEnum?, Json.hasKey, ht, he]
    rfl
  rw [ofNode_of_absent h, hu]
  rfl

theorem ofNode_const {node : Members} {x : Json}
    (h : ∀ key ∈ leadingKeys, node.lookup key = none) (he : node.lookup "enum" = none)
    (hc : node.lookup "const" = some x) : Form.ofNode node = .ok (.const x) := by
  have hu : Form.untypedEnum? node = none := by
    rw [Form.untypedEnum?, he, ite_self]
  rw [ofNode_of_absent h, hu]
  simp only [Form.ofTypeOrConst, hc]

theorem ofNode_any {node : Members} (h : ∀ key ∈ leadingKeys, node.lookup key = none)
    (ha : ∀ key ∈ ["enum", "const", "type", "properties", "items", "prefixItems"],
      node.lookup key = none) : Form.ofNode node = .ok .any := by
  have hu : Form.untypedEnum? node = none := by
    rw [Form.untypedEnum?, ha "enum" (by decide), ite_self]
  rw [ofNode_of_absent h, hu]
  simp only [Form.ofTypeOrConst, ha "const" (by decide), ha "type" (by decide), Form.implicit,
    Json.hasKey, ha "properties" (by decide), ha "items" (by decide),
    ha "prefixItems" (by decide)]
  rfl

theorem nonEmptyArray_of_ne {keyword : String} {xs : List Json} (h : xs ≠ []) :
    nonEmptyArray keyword (.array xs) = .ok xs := by
  match xs, h with
  | _ :: _, _ => rfl

theorem ofNode_anyOf {node : Members} {xs : List Json} (hne : xs ≠ [])
    (h : node.lookup "anyOf" = some (.array xs)) : Form.ofNode node = .ok (.anyOf xs) := by
  simp only [Form.ofNode, h, nonEmptyArray_of_ne hne]
  rfl

theorem ofNode_oneOf {node : Members} {xs : List Json} (hne : xs ≠ [])
    (hn : node.lookup "anyOf" = none) (h : node.lookup "oneOf" = some (.array xs)) :
    Form.ofNode node = .ok (.oneOf xs) := by
  simp only [Form.ofNode, hn, h, nonEmptyArray_of_ne hne]
  rfl

theorem ofNode_allOf {node : Members} {xs : List Json} (hne : xs ≠ [])
    (hn : ∀ key ∈ ["anyOf", "oneOf"], node.lookup key = none)
    (h : node.lookup "allOf" = some (.array xs)) : Form.ofNode node = .ok (.allOf xs) := by
  simp only [Form.ofNode, hn "anyOf" (by decide), hn "oneOf" (by decide), h,
    nonEmptyArray_of_ne hne]
  rfl

theorem ne_nil_of_two {α : Type} {l : List α} (two : 2 ≤ l.length) : l ≠ [] := by
  rintro rfl
  cases two

theorem combine_of_two {shape : List Validator → Shape} {vs : List Validator}
    (two : 2 ≤ vs.length) : combine shape vs = .ofShape (shape vs) := by
  match vs, two with
  | _ :: _ :: _, _ => rfl

theorem compileMembers_eq {path : String} {child : ChildCompiler} {follow : String → Result}
    {node : Members} {form : Form} (h : Form.ofNode node = .ok form)
    (hr : ∀ reference, form ≠ .ref reference) :
    compileMembers path child follow node = (do
      let v ← compileForm path child follow node form
      let v ← modify path child node form v
      .ok (withMetadata node v)) := by
  rw [compileMembers]
  rw [h]
  cases form with
  | ref reference => exact absurd rfl (hr reference)
  | anyOf | oneOf | allOf | enum | const | typed | types | any => rfl

theorem modify_eq (path : String) (child : ChildCompiler) (node : Members) (form : Form)
    (v : Validator) :
    modify path child node form v = (do
      let v ← setNullable path node v
      let v ← (if form.isEnum then .ok v else refineEnum path node v : Result)
      setExcluded child node v) := by
  rw [modify]
  cases form.isEnum <;> rfl

theorem modify_of_absent {path : String} {child : ChildCompiler} {node : Members} {form : Form}
    (hn : node.lookup "nullable" = none) (he : form.isEnum = true ∨ node.lookup "enum" = none)
    (v : Validator) : modify path child node form v = setExcluded child node v := by
  have hs : setNullable path node v = .ok v := by
    rw [setNullable, hn]
  have hr : (if form.isEnum then .ok v else refineEnum path node v : Result) = .ok v := by
    rcases he with he | he
    · rw [if_pos he]
    · split
      · rfl
      · rw [refineEnum, he]
  rw [modify_eq, hs]
  change (do
    let v ← (if form.isEnum then .ok v else refineEnum path node v : Result)
    setExcluded child node v) = _
  rw [hr]
  rfl

theorem strings_eq_ok {complaint : Complaint} {names : List Json} {keys : List String}
    (h : strings complaint names = .ok keys) : names = keys.map .string := by
  induction names generalizing keys with
  | nil =>
      cases h
      rfl
  | cons x rest ih =>
      cases x with
      | string s =>
          obtain ⟨ks, hks, rfl⟩ := map_eq_ok h
          rw [List.map_cons, ← ih hks]
      | null | bool b | number n | array items | object members => cases h

theorem strings_map (complaint : Complaint) (keys : List String) :
    strings complaint (keys.map .string) = .ok keys := by
  induction keys with
  | nil => rfl
  | cons key rest ih =>
      rw [List.map_cons, strings, ih]
      rfl

theorem mem_requiredKeys {node : Members} {required : List String}
    (h : requiredKeys node = .ok required) (name : String) :
    name ∈ required ↔ ∃ names, node.lookup "required" = some (.array names) ∧
      .string name ∈ names := by
  rw [requiredKeys] at h
  split at h
  next hl =>
    cases h
    simp [hl]
  next names hl =>
    rw [hl, strings_eq_ok h]
    simp
  next => cases h

theorem addRequired_of_named {fields : List Field} {required : List String}
    (h : ∀ name ∈ required, Field.hasName fields name = true) :
    addRequired fields required = fields := by
  induction required with
  | nil => rfl
  | cons name rest ih =>
      rw [List.forall_mem_cons] at h
      rw [addRequired, if_pos h.1, ih h.2]

end SchemaCheck.Schema
