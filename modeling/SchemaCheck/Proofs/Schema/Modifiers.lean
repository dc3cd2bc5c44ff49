import SchemaCheck.Proofs.Schema.Agreement
import SchemaCheck.Proofs.Schema.Outcome
import SchemaCheck.Schema.Strict

namespace SchemaCheck.Schema

open Json (Members)

/-- The enumeration and the exclusion of the node have nothing against the value. -/
structure NodeAdmits (c : Context) (node : Members) (x : Json) : Prop where
  listed : ∀ y, node.lookup "enum" = some y →
    ∃ values, y = .array values ∧ x.amongValues values = true
  outside : ∀ y, node.lookup "not" = some y →
    ∃ u, childOf c ["not"] y = .ok u ∧ u.isValid x = false

/-- The second validator is the first with the modifiers of the node, which replace its own. -/
structure Modified (child : ChildCompiler) (node : Members) (w v : Validator) : Prop where
  shape : v.shape = w.shape
  nullable : v.nullable = true ↔ node.lookup "nullable" = some (.bool true) ∨ w.nullable = true
  allowed : (node.lookup "enum" = none ∧ v.allowed = w.allowed) ∨
    ∃ values, node.lookup "enum" = some (.array values) ∧ v.allowed = some values
  excluded : (node.lookup "not" = none ∧ v.excluded = w.excluded) ∨
    ∃ x u, node.lookup "not" = some x ∧ child ["not"] x = .ok u ∧ v.excluded = some u

section Steps

variable {path : String} {child : ChildCompiler} {node : Members} {v w : Validator}

theorem setNullable_eq_ok (h : setNullable path node v = .ok w) :
    (w = v ∧ node.lookup "nullable" ≠ some (.bool true)) ∨
      (w = v.withNullable ∧ node.lookup "nullable" = some (.bool true)) := by
  rw [setNullable] at h
  split at h
  next hn =>
    cases h
    exact .inl ⟨rfl, by simp [hn]⟩
  next hn =>
    cases h
    exact .inl ⟨rfl, by simp [hn]⟩
  next hn =>
    cases h
    exact .inr ⟨rfl, hn⟩
  next => cases h

theorem refineEnum_eq_ok (h : refineEnum path node v = .ok w) :
    (w = v ∧ node.lookup "enum" = none) ∨
      ∃ values, w = { v with allowed := some values } ∧
        node.lookup "enum" = some (.array values) := by
  rw [refineEnum] at h
  split at h
  next hn =>
    cases h
    exact .inl ⟨rfl, hn⟩
  next values hn =>
    split at h
    next => cases h
    next =>
      cases h
      exact .inr ⟨values, rfl, hn⟩
  next => cases h

theorem setExcluded_eq_ok (h : setExcluded child node v = .ok w) :
    (w = v ∧ node.lookup "not" = none) ∨
      ∃ x u, w = { v with excluded := some u } ∧ node.lookup "not" = some x ∧
        child ["not"] x = .ok u := by
  rw [setExcluded] at h
  split at h
  next hn =>
    cases h
    exact .inl ⟨rfl, hn⟩
  next x hn =>
    obtain ⟨u, hu, h⟩ := bind_eq_ok h
    cases h
    exact .inr ⟨x, u, rfl, hn, hu⟩

theorem modified_of_modify {form : Form} (hf : form.isEnum = false)
    (h : modify path child node form w = .ok v) : Modified child node w (withMetadata node v) := by
  simp only [modify_eq, hf, Bool.false_eq_true, if_false] at h
  obtain ⟨a, ha, h⟩ := bind_eq_ok h
  obtain ⟨b, hb, h⟩ := bind_eq_ok h
  have hnullable := setNullable_eq_ok ha
  have hallowed := refineEnum_eq_ok hb
  have hexcluded := setExcluded_eq_ok h
  constructor
  · rcases hnullable with ⟨rfl, -⟩ | ⟨rfl, -⟩ <;>
      rcases hallowed with ⟨rfl, -⟩ | ⟨values, rfl, -⟩ <;>
        rcases hexcluded with ⟨rfl, -⟩ | ⟨x, u, rfl, -⟩ <;> rfl
  · have hv : v.nullable = a.nullable := by
      rcases hallowed with ⟨rfl, -⟩ | ⟨values, rfl, -⟩ <;>
        rcases hexcluded with ⟨rfl, -⟩ | ⟨x, u, rfl, -⟩ <;> rfl
    change v.nullable = true ↔ _
    rw [hv]
    rcases hnullable with ⟨rfl, hn⟩ | ⟨rfl, hn⟩
    · simp [hn]
    · simp [hn, Validator.withNullable]
  · have hv : v.allowed = b.allowed := by
      rcases hexcluded with ⟨rfl, -⟩ | ⟨x, u, rfl, -⟩ <;> rfl
    have hw : a.allowed = w.allowed := by
      rcases hnullable with ⟨rfl, -⟩ | ⟨rfl, -⟩ <;> rfl
    rcases hallowed with ⟨rfl, hn⟩ | ⟨values, rfl, hn⟩
    · exact .inl ⟨hn, hv.trans hw⟩
    · exact .inr ⟨values, hn, hv⟩
  · have hw : b.excluded = w.excluded := by
      rcases hnullable with ⟨rfl, -⟩ | ⟨rfl, -⟩ <;>
        rcases hallowed with ⟨rfl, -⟩ | ⟨values, rfl, -⟩ <;> rfl
    rcases hexcluded with ⟨rfl, hn⟩ | ⟨x, u, rfl, hn, hu⟩
    · exact .inl ⟨hn, hw⟩
    · exact .inr ⟨x, u, hn, hu, rfl⟩

end Steps

theorem modified_of_compileNode {c : Context} {node : Members} {form : Form}
    (hf : Form.ofNode node = .ok form) (hr : ∀ reference, form ≠ .ref reference)
    (he : form.isEnum = false) {v : Validator} (h : compileNode c (.object node) = .ok v) :
    ∃ w, compileForm c.path (childOf c) (targetOf c) node form = .ok w ∧
      Modified (childOf c) node w v := by
  rw [compileNode_eq, compileStep, compileMembers_eq hf hr] at h
  obtain ⟨w, hw, h⟩ := bind_eq_ok h
  obtain ⟨u, hu, h⟩ := bind_eq_ok h
  cases h
  exact ⟨w, hw, modified_of_modify he hu⟩

namespace Modified

variable {c : Context} {node : Members} {w v : Validator} {x : Json}

theorem admits_iff (h : Modified (childOf c) node w v) : v.Admits x ↔
    NodeAdmits c node x ∧ (node.lookup "enum" = none → allows w.allowed x = true) ∧
      (node.lookup "not" = none → ∀ u, w.excluded = some u → ¬ u.Accepts x) := by
  have hallowed : allows v.allowed x = true ↔ (∀ y, node.lookup "enum" = some y →
      ∃ values, y = .array values ∧ x.amongValues values = true) ∧
        (node.lookup "enum" = none → allows w.allowed x = true) := by
    rcases h.allowed with ⟨hn, hv⟩ | ⟨values, hn, hv⟩
    · simp [hn, hv]
    · simp [hn, hv, allows]
  have hexcluded : (∀ u, v.excluded = some u → ¬ u.Accepts x) ↔
      (∀ y, node.lookup "not" = some y →
        ∃ u, childOf c ["not"] y = .ok u ∧ u.isValid x = false) ∧
      (node.lookup "not" = none → ∀ u, w.excluded = some u → ¬ u.Accepts x) := by
    rcases h.excluded with ⟨hn, hv⟩ | ⟨y, u, hn, hu, hv⟩
    · simp [hn, hv]
    · simp [hn, hv, hu, ← Validator.isValid_iff]
  rw [Validator.Admits, Validator.Passes, hallowed, hexcluded]
  constructor
  · rintro ⟨⟨hl, ha⟩, ho, hx⟩
    exact ⟨⟨hl, ho⟩, ha, hx⟩
  · rintro ⟨⟨hl, ho⟩, ha, hx⟩
    exact ⟨⟨hl, ha⟩, ho, hx⟩

theorem accepts_iff (h : Modified (childOf c) node w v) : v.isValid x = true ↔
    (v.nullable = true ∧ x = .null) ∨ (w.shape.Accepts x ∧ v.Admits x) := by
  rw [Validator.isValid_iff, Validator.accepts_iff, h.shape]
  rfl

end Modified

theorem isEnum_of_ofTypeOrConst {node : Members} {form : Form}
    (h : Form.ofTypeOrConst node = .ok form) : form.isEnum = false := by
  rw [Form.ofTypeOrConst] at h
  split at h
  · cases h
    rfl
  · split at h
    · rcases form_ofType h with ⟨t, rfl⟩ | ⟨ts, rfl⟩ <;> rfl
    · cases h
      rw [Form.implicit]
      split
      · rfl
      · split <;> rfl

theorem isEnum_of_type {node : Members} {form : Form} (ht : Json.hasKey "type" node = true)
    (hf : Form.ofNode node = .ok form) : form.isEnum = false := by
  have hu : Form.untypedEnum? node = none := if_pos ht
  rw [Form.ofNode] at hf
  split at hf
  next =>
    obtain ⟨xs, -, -, rfl⟩ := nonEmptyArray_map_eq_ok hf
    rfl
  next =>
    split at hf
    next =>
      obtain ⟨xs, -, -, rfl⟩ := nonEmptyArray_map_eq_ok hf
      rfl
    next =>
      split at hf
      next =>
        obtain ⟨xs, -, -, rfl⟩ := nonEmptyArray_map_eq_ok hf
        rfl
      next =>
        split at hf
        next =>
          unfold Form.ofReference at hf
          split at hf <;> cases hf
          rfl
        next =>
          rw [hu] at hf
          exact isEnum_of_ofTypeOrConst hf

section Nullable

variable {path : String} {child : ChildCompiler} {node : Members}

theorem compileTyped_produces (t : TypeName) :
    Produces (fun v => ∃ s, v = .ofShape s ∧ s.typeName? = some t)
      (compileTyped path child node t) := by
  have hshape : ∀ s, s.typeName? = some t → Produces (fun v => ∃ s, v = Validator.ofShape s ∧
      s.typeName? = some t) (.ok (.ofShape s)) := fun s hs => .ok ⟨s, rfl, hs⟩
  cases t with
  | object =>
      exact Produces.trivial.bind fun _ _ => Produces.trivial.bind fun _ _ =>
        Produces.trivial.bind fun _ _ => Produces.trivial.bind fun _ _ => hshape _ rfl
  | array =>
      rw [compileTyped, compileArray]
      split
      · exact Produces.trivial.bind fun _ _ => hshape _ rfl
      · split
        · exact Produces.trivial.bind fun _ _ => hshape _ rfl
        · exact Produces.error
        · exact Produces.trivial.bind fun _ _ => Produces.trivial.bind fun _ _ => hshape _ rfl
  | string | number | integer => exact Produces.trivial.bind fun _ _ => hshape _ rfl
  | boolean | null => exact hshape _ rfl

theorem compileBranches_produces (ts : List TypeName) :
    Produces (fun vs => vs.length = ts.length ∧ ∀ v ∈ vs, ∃ s, v = .ofShape s)
      (compileBranches path child node ts) := by
  induction ts with
  | nil => exact .ok ⟨rfl, List.forall_mem_nil _⟩
  | cons t rest ih =>
      refine (compileTyped_produces t).bind fun v hv => ih.bind fun vs hvs => .ok ⟨?_, ?_⟩
      · rw [List.length_cons, List.length_cons, hvs.1]
      · exact List.forall_mem_cons.2 ⟨hv.imp fun _ hs => hs.1, hvs.2⟩

theorem exists_combine_eq_ofShape (shape : List Validator → Shape) {vs : List Validator}
    (h : ∀ v ∈ vs, ∃ s, v = .ofShape s) : ∃ s, combine shape vs = .ofShape s := by
  match vs with
  | [] => exact ⟨_, rfl⟩
  | [v] => exact h v (List.mem_singleton_self v)
  | _ :: _ :: _ => exact ⟨_, rfl⟩

/-- A list of types lets null through if it names null and another type. -/
theorem nullable_of_compileTypes {ts : List TypeName} {v : Validator}
    (h : compileTypes path child node ts = .ok v) :
    v.nullable = true ↔ .null ∈ ts ∧ ∃ t ∈ ts, t ≠ .null := by
  have hbranches : branchTypes ts = [] ↔ ¬ ∃ t ∈ ts, t ≠ .null := by
    rw [branchTypes_eq, List.filter_eq_nil_iff]
    simp [distinctTypes, mem_foldl_addType]
  obtain ⟨vs, hvs, h⟩ := bind_eq_ok h
  obtain ⟨hl, hn⟩ := compileBranches_produces _ vs hvs
  have hempty : vs.isEmpty = true ↔ ¬ ∃ t ∈ ts, t ≠ .null := by
    rw [← hbranches, List.isEmpty_iff_length_eq_zero, hl, List.length_eq_zero_iff]
  split at h
  next he =>
    cases h
    exact iff_of_false (by simp [Validator.ofShape]) fun hts => hempty.1 he hts.2
  next he =>
    have hother : ∃ t ∈ ts, t ≠ .null := not_not.1 (mt hempty.2 he)
    split at h
    next hc =>
      cases h
      exact iff_of_true rfl ⟨List.contains_iff_mem.1 hc, hother⟩
    next hc =>
      cases h
      obtain ⟨s, hs⟩ := exists_combine_eq_ofShape .union hn
      rw [hs]
      exact iff_of_false Bool.false_ne_true fun hts => hc (List.contains_iff_mem.2 hts.1)

end Nullable

/-- The enumeration and the exclusion of a node with a type bind all that it accepts but null. They
bind null too just if the node does not let it through, which it does if it says so or lists null
among other types. What stands beside a reference is ignored. -/
theorem compileNode_admits {c : Context} {node : Members} {v : Validator}
    (ht : Json.hasKey "type" node = true)
    (hr : ∀ reference, Form.ofNode node ≠ .ok (.ref reference))
    (hv : compileNode c (.object node) = .ok v) :
    (∀ x, v.isValid x = true → x ≠ .null → NodeAdmits c node x) ∧
    ((∀ x, v.isValid x = true → NodeAdmits c node x) ↔
      (v.nullable = true → NodeAdmits c node .null)) ∧
    ∀ ts, Form.ofNode node = Form.ofTypes ts → (v.nullable = true ↔
      node.lookup "nullable" = some (.bool true) ∨ (.null ∈ ts ∧ ∃ t ∈ ts, t ≠ .null)) := by
  cases hf : Form.ofNode node with
  | error complaint =>
      rw [compileNode_eq, compileStep, compileMembers, hf] at hv
      cases hv
  | ok form =>
      have hr : ∀ reference, form ≠ .ref reference := by
        rintro reference rfl
        exact hr reference hf
      obtain ⟨w, hw, hm⟩ := modified_of_compileNode hf hr (isEnum_of_type ht hf) hv
      have hother : ∀ x, v.isValid x = true → x ≠ .null → NodeAdmits c node x := by
        intro x hx hne
        rcases hm.accepts_iff.1 hx with ⟨-, rfl⟩ | ⟨-, ha⟩
        · exact absurd rfl hne
        · exact (hm.admits_iff.1 ha).1
      refine ⟨hother, ⟨fun h hn => h .null (hm.accepts_iff.2 (.inl ⟨hn, rfl⟩)), ?_⟩, ?_⟩
      · intro hnull x hx
        rcases hm.accepts_iff.1 hx with ⟨hn, rfl⟩ | ⟨-, ha⟩
        · exact hnull hn
        · exact (hm.admits_iff.1 ha).1
      · intro ts hts
        rw [compileForm_ofTypes hts.symm] at hw
        rw [hm.nullable, nullable_of_compileTypes hw]

def optionalLetterNode : Members :=
  [("enum", .array [.string "a"]), ("not", .object [("type", .string "null")]),
    ("type", .array [.string "string", .string "null"])]

def optionalLetter : Validator :=
  { shape := .string [], nullable := true, allowed := some [.string "a"],
    excluded := some (.ofShape .null) }

theorem compileNode_admits_optionalLetter :
    compileNode (.start (.object optionalLetterNode) [] {}) (.object optionalLetterNode) =
        .ok optionalLetter ∧
      optionalLetter.isValid (.string "a") = true ∧
      NodeAdmits (.start (.object optionalLetterNode) [] {}) optionalLetterNode (.string "a") := by
  have hv : compileNode (.start (.object optionalLetterNode) [] {}) (.object optionalLetterNode) =
      .ok optionalLetter := by
    with_unfolding_all rfl
  have ha : optionalLetter.isValid (.string "a") = true := by
    rfl
  have hf : Form.ofNode optionalLetterNode = .ok (.types [.string, .null]) := rfl
  have hr : ∀ reference, Form.ofNode optionalLetterNode ≠ .ok (.ref reference) := by
    intro reference h
    cases hf.symm.trans h
  exact ⟨hv, ha, (compileNode_admits (by decide) hr hv).1 _ ha (by simp)⟩

/-- Null passes, and is neither listed nor outside of what is excluded. -/
theorem not_admits_optionalLetter :
    compile (.object optionalLetterNode) {} [] = .ok optionalLetter ∧
      optionalLetter.isValid .null = true ∧
      ¬ NodeAdmits (.start (.object optionalLetterNode) [] {}) optionalLetterNode .null := by
  refine ⟨by with_unfolding_all rfl, by with_unfolding_all rfl, fun h => ?_⟩
  obtain ⟨values, he, hm⟩ := h.listed _ rfl
  cases he
  cases hm

inductive Form.Only (m : Json) : Form → Prop
  | anyOf : Only m (.anyOf [m])
  | oneOf : Only m (.oneOf [m])
  | allOf : Only m (.allOf [m])

theorem combine_of_compileEach {child : ChildCompiler} {keyword : String} {m : Json} {v : Validator}
    {shape : List Validator → Shape}
    (h : (compileEach child keyword 0 [m]).map (combine shape) = .ok v) :
    child [keyword, "0"] m = .ok v := by
  obtain ⟨vs, hvs, rfl⟩ := map_eq_ok h
  obtain ⟨w, hw, hvs⟩ := bind_eq_ok hvs
  cases hvs
  exact hw

/-- The combination of one member tests what the member tests alone. -/
theorem sameTests_of_only {c d : Context} {follow : String → Result} {node : Members} {m : Json}
    {form : Form} (ho : form.Only m) (hx : m.references = []) {v w : Validator}
    (hv : compileForm c.path (childOf c) follow node form = .ok v)
    (hw : compileNode d m = .ok w) : SameTests v w := by
  have hchild : ∀ segments, childOf c segments m = .ok v → SameTests v w := by
    intro segments h
    obtain ⟨e, -, h⟩ := bind_eq_ok h
    cases compileNode_agree hx e d v w h hw
    exact ⟨rfl, rfl, rfl, rfl⟩
  cases ho with
  | anyOf =>
      rw [compileForm, compileAnyOf] at hv
      split at hv
      next merged hm => exact compileMerged_agree hm hx hv hw
      next => exact hchild _ (combine_of_compileEach hv)
  | oneOf => exact hchild _ (combine_of_compileEach hv)
  | allOf => exact hchild _ (combine_of_compileEach hv)

theorem Form.Only.properties {form : Form} {m : Json} (ho : form.Only m) :
    (∀ reference, form ≠ .ref reference) ∧ form.isEnum = false := by
  cases ho <;> exact ⟨nofun, rfl⟩

theorem references_of_only {node : Members} {form : Form} {m : Json} (ho : form.Only m)
    (hf : Form.ofNode node = .ok form) (hx : (Json.object node).references = []) :
    m.references = [] := by
  have hitem : ∀ key, key ≠ "type" → node.lookup key = some (.array [m]) → m.references = [] :=
    fun key hk hl => (goodValues_of_references hx).item
      ((goodValues_of_references hx).value hk hl) (List.mem_singleton_self m)
  have hread := Form.readFrom_of_ofNode hf
  cases ho with
  | anyOf => exact hitem "anyOf" (by decide) hread.1
  | oneOf => exact hitem "oneOf" (by decide) hread.1
  | allOf => exact hitem "allOf" (by decide) hread.1

/-- What a combination of one member says: null if the node is nullable, and what the member accepts
and the node admits. -/
def OnlySays (c : Context) (node : Members) (w : Validator) (x : Json) : Prop :=
  (node.lookup "nullable" = some (.bool true) ∧ x = .null) ∨
    (w.isValid x = true ∧ NodeAdmits c node x)

/-- What is let through besides: null if the member is nullable, and what only a modifier of the
member refuses that the node has too and puts its own in place of. -/
def Slips (c : Context) (node : Members) (w : Validator) (x : Json) : Prop :=
  (w.nullable = true ∧ x = .null) ∨
    (w.shape.Accepts x ∧ NodeAdmits c node x ∧
      (node.lookup "enum" = none → allows w.allowed x = true) ∧
      (node.lookup "not" = none → ∀ u, w.excluded = some u → ¬ u.Accepts x))

theorem onlySays_of_slips {c : Context} {node : Members} {w : Validator} {x : Json}
    (hn : w.nullable = true →
      node.lookup "nullable" = some (.bool true) ∨ NodeAdmits c node .null)
    (ha : node.lookup "enum" ≠ none → w.allowed = none)
    (he : node.lookup "not" ≠ none → w.excluded = none) (h : Slips c node w x) :
    OnlySays c node w x := by
  rcases h with ⟨hw, rfl⟩ | ⟨hs, hx, hallowed, hexcluded⟩
  · have hnull : w.isValid .null = true :=
      Validator.isValid_iff.2 (Validator.accepts_iff.2 (.inl ⟨hw, rfl⟩))
    rcases hn hw with hn | hn
    · exact .inl ⟨hn, rfl⟩
    · exact .inr ⟨hnull, hn⟩
  · refine .inr ⟨Validator.isValid_iff.2 (Validator.accepts_iff.2 (.inr ⟨hs, ?_, ?_⟩)), hx⟩
    · by_cases hk : node.lookup "enum" = none
      · exact hallowed hk
      · rw [ha hk]
        rfl
    · by_cases hk : node.lookup "not" = none
      · exact hexcluded hk
      · rw [he hk]
        nofun

theorem isValid_of_only {c d : Context} {node : Members} {form : Form} {m : Json}
    (hf : Form.ofNode node = .ok form) (ho : form.Only m)
    (hx : (Json.object node).references = []) {v w : Validator}
    (hv : compileNode c (.object node) = .ok v) (hw : compileNode d m = .ok w) :
    (∀ x, v.isValid x = true ↔ OnlySays c node w x ∨ Slips c node w x) ∧
    ((w.nullable = true → node.lookup "nullable" = some (.bool true) ∨ NodeAdmits c node .null) →
      (node.lookup "enum" ≠ none → w.allowed = none) →
      (node.lookup "not" ≠ none → w.excluded = none) →
      ∀ x, v.isValid x = true ↔ OnlySays c node w x) := by
  obtain ⟨hr, he⟩ := ho.properties
  obtain ⟨u, hu, hm⟩ := modified_of_compileNode hf hr he hv
  have hsame := sameTests_of_only ho (references_of_only ho hf hx) hu hw
  have hall : ∀ x, v.isValid x = true ↔ OnlySays c node w x ∨ Slips c node w x := by
    intro x
    rw [hm.accepts_iff, hm.admits_iff, hm.nullable, hsame.shape, hsame.nullable, hsame.allowed,
      hsame.excluded]
    constructor
    · rintro (⟨hn | hn, rfl⟩ | h)
      · exact .inl (.inl ⟨hn, rfl⟩)
      · exact .inr (.inl ⟨hn, rfl⟩)
      · exact .inr (.inr h)
    · rintro ((⟨hn, rfl⟩ | ⟨hvalid, hx⟩) | (⟨hn, rfl⟩ | h))
      · exact .inl ⟨.inl hn, rfl⟩
      · rcases Validator.accepts_iff.1 (Validator.isValid_iff.1 hvalid) with
          ⟨hn, rfl⟩ | ⟨hs, ha, he⟩
        · exact .inl ⟨.inr hn, rfl⟩
        · exact .inr ⟨hs, hx, fun _ => ha, fun _ => he⟩
      · exact .inl ⟨.inr hn, rfl⟩
      · exact .inr h
  refine ⟨hall, fun hn ha he x => ?_⟩
  rw [hall]
  exact or_iff_left_of_imp (onlySays_of_slips hn ha he)

def listedTextNode : Members :=
  [("allOf", .array [.object [("type", .string "string")]]), ("enum", .array [.string "a"]),
    ("not", .object [("const", .string "b")]), ("nullable", .bool true)]

def listedText : Validator :=
  { shape := .string [], nullable := true, allowed := some [.string "a"],
    excluded := some (.ofShape (.literal (.string "b"))) }

theorem isValid_of_only_listedText :
    compileNode (.start (.object listedTextNode) [] {}) (.object listedTextNode) =
        .ok listedText ∧
      compile (.object [("type", .string "string")]) {} [] = .ok (.ofShape (.string [])) ∧
      ∀ x, listedText.isValid x = true ↔
        OnlySays (.start (.object listedTextNode) [] {}) listedTextNode (.ofShape (.string []))
          x := by
  have hv : compileNode (.start (.object listedTextNode) [] {}) (.object listedTextNode) =
      .ok listedText := by
    with_unfolding_all rfl
  have hw : compile (.object [("type", .string "string")]) {} [] =
      .ok (.ofShape (.string [])) := by
    with_unfolding_all rfl
  have hn : (Validator.ofShape (.string [])).nullable ≠ true := by
    decide
  exact ⟨hv, hw, (isValid_of_only rfl .allOf rfl hv hw).2 (fun h => absurd h hn)
    (fun _ => rfl) fun _ => rfl⟩

def notLetter (letter : String) : Members :=
  [("not", .object [("const", .string letter)]), ("type", .string "string")]

def notBothNode : Members :=
  [("allOf", .array [.object (notLetter "a")]), ("not", .object [("const", .string "b")])]

def textBut (letter : String) : Validator :=
  { shape := .string [], excluded := some (.ofShape (.literal (.string letter))) }

/-- The member refuses "a", and the combination with an exclusion of its own lets it through. -/
theorem not_onlySays_notBoth :
    compile (.object notBothNode) {} [] = .ok (textBut "b") ∧
      compile (.object (notLetter "a")) {} [] = .ok (textBut "a") ∧
      (textBut "b").isValid (.string "a") = true ∧
      ¬ OnlySays (.start (.object notBothNode) [] {}) notBothNode (textBut "a") (.string "a") := by
  have ha : (textBut "a").isValid (.string "a") = false := by
    rfl
  refine ⟨by with_unfolding_all rfl, by with_unfolding_all rfl, by with_unfolding_all rfl, ?_⟩
  rintro (⟨-, h⟩ | ⟨h, -⟩)
  · cases h
  · cases ha.symm.trans h

end SchemaCheck.Schema
