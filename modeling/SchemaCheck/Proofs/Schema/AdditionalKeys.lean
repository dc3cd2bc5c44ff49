import SchemaCheck.Proofs.Schema.Independence
import SchemaCheck.Proofs.Schema.Inlining
import SchemaCheck.Proofs.Schema.StrictFields

namespace SchemaCheck.Schema

open Json (Members)

theorem filter_mapAt (keep : String → Bool) {name : String} (hk : keep name = false)
    (f : Json → Json) (members : Members) :
    (mapAt name f members).filter (fun m => keep m.1) = members.filter fun m => keep m.1 := by
  induction members with
  | nil => rfl
  | cons m rest ih =>
      rw [mapAt] at ih ⊢
      rw [List.map_cons, List.filter_cons, List.filter_cons, ih]
      by_cases hm : m.1 = name
      · simp [hm, hk]
      · simp [hm]

section Object

variable {path : String} {child : ChildCompiler} {node members schema : Members}
  {fields : List Field} {unknown : UnknownKeys} {checks : List (Check ObjectRule)} {e : Validator}

theorem compileUnknown_eq_ok_of_object
    (ha : node.lookup "additionalProperties" = some (.object schema))
    (h : compileUnknown path child node = .ok unknown) :
    ∃ e, child ["additionalProperties"] (.object schema) = .ok e ∧ unknown = .validate e := by
  rw [compileUnknown, ha] at h
  obtain ⟨e, he, h⟩ := bind_eq_ok h
  cases h
  exact ⟨e, he, rfl⟩

/-- The key is no field: it is neither declared nor required. -/
def IsAdditional (node : Members) (key : String) : Prop :=
  key ∉ Json.keys (declared node) ∧ key ∉ listedRequired node

theorem isAdditional_iff {key : String}
    (hfields : compileFields path child (listedRequired node) node = .ok fields) :
    Field.hasName (addRequired fields (listedRequired node)) key = false ↔
      IsAdditional node key := by
  rw [Bool.eq_false_iff, Ne, hasName_addRequired, hasName_compileFields_iff hfields, not_or,
    IsAdditional]

theorem accepts_of_additional
    (hfields : compileFields path child (listedRequired node) node = .ok fields)
    (hx : (Shape.object (addRequired fields (listedRequired node)) (.validate e) checks).Accepts
      (.object members)) {m : String × Json} (hm : m ∈ members) (hu : IsAdditional node m.1) :
    e.Accepts m.2 := by
  obtain ⟨_, ⟨⟩, -, hunknown, -⟩ := Shape.accepts_object.1 hx
  refine hunknown m (List.mem_filter.2 ⟨hm, ?_⟩)
  rw [(isAdditional_iff hfields).2 hu]
  rfl

theorem accepts_mapAt (hfields : compileFields path child (listedRequired node) node = .ok fields)
    (hx : (Shape.object (addRequired fields (listedRequired node)) unknown checks).Accepts
      (.object members)) {name : String} (hn : name ∈ listedRequired node)
    (hd : name ∉ Json.keys (declared node)) (f : Json → Json) :
    (Shape.object (addRequired fields (listedRequired node)) unknown checks).Accepts
      (.object (mapAt name f members)) := by
  obtain ⟨_, ⟨⟩, hknown, hunknown, hchecks⟩ := Shape.accepts_object.1 hx
  refine Shape.accepts_object.2 ⟨_, rfl, fun g hg => ?_, ?_, ?_⟩
  · have hg' := hknown g hg
    rcases of_mem_addRequired hg with hm | ⟨key, -, rfl⟩
    · have hne : g.name ≠ name := by
        rintro rfl
        exact hd ((hasName_compileFields_iff hfields).1 (hasName_iff.2 ⟨g, hm, rfl⟩))
      refine ⟨fun y hy => hg'.present y ?_, fun hnone => hg'.absent ?_⟩
      · rwa [lookup_mapAt_of_ne hne] at hy
      · rwa [lookup_mapAt_of_ne hne] at hnone
    · refine ⟨fun y _ => Validator.accepts_ofShape.2 Shape.accepts_any, fun hnone => hg'.absent ?_⟩
      rw [lookup_mapAt] at hnone
      split at hnone
      · exact Option.map_eq_none_iff.1 hnone
      · exact hnone
  · have hname : Field.hasName (addRequired fields (listedRequired node)) name = true :=
      hasName_addRequired.2 (.inr hn)
    rwa [filter_mapAt fun key => !Field.hasName _ key]
    rw [hname]
    rfl
  · rwa [mapAt, List.length_map]

end Object

theorem isValid_object_iff {c : Context} {node members : Members} {v : Validator}
    (hf : Form.ofNode node = .ok (.typed .object)) (hv : compileNode c (.object node) = .ok v) :
    v.isValid (.object members) = true ↔
      TypeAccepts c node (.object members) .object ∧ NodeAdmits c node (.object members) := by
  have hts : Form.ofTypes [.object] = .ok (.typed .object) := rfl
  rw [isValid_of_types hts hf hv]
  simp

/-- The additional keys of what is accepted have values that the schema for them accepts, and any
value will do for a required key that is not declared. -/
theorem isValid_of_additional {c : Context} {node members schema : Members} {v : Validator}
    (hf : Form.ofNode node = .ok (.typed .object))
    (ha : node.lookup "additionalProperties" = some (.object schema))
    (hv : compileNode c (.object node) = .ok v) (hx : v.isValid (.object members) = true) :
    ∃ e, childOf c ["additionalProperties"] (.object schema) = .ok e ∧
      (∀ d e', c.SameDocument d → compileNode d (.object schema) = .ok e' → e' = e) ∧
      (∀ m ∈ members, IsAdditional node m.1 → e.isValid m.2 = true) ∧
      ∀ name ∈ listedRequired node, name ∉ Json.keys (declared node) → ∀ f,
        NodeAdmits c node (.object (mapAt name f members)) →
          v.isValid (.object (mapAt name f members)) = true := by
  have hts : Form.ofTypes [.object] = .ok (.typed .object) := rfl
  obtain ⟨u, hu⟩ := compileTyped_of_types hts hf hv .object (List.mem_singleton_self _)
  obtain ⟨fields, unknown, checks, hfields, hunknown, rfl⟩ := compileObject_eq_ok hu
  obtain ⟨e, he, rfl⟩ := compileUnknown_eq_ok_of_object ha hunknown
  have haccepts : ∀ others, TypeAccepts c node (.object others) .object ↔ _ :=
    fun others => (typeAccepts_of_ok hu).trans Validator.accepts_ofShape
  have hobject := (haccepts members).1 ((isValid_object_iff hf hv).1 hx).1
  refine ⟨e, he, ?_, ?_, ?_⟩
  · intro d e' hd he'
    exact (hd.agree_childOf _ _ e e' he he').symm
  · intro m hm hadditional
    exact Validator.isValid_iff.2 (accepts_of_additional hfields hobject hm hadditional)
  · intro name hn hd f hadmits
    refine (isValid_object_iff hf hv).2 ⟨?_, hadmits⟩
    exact (haccepts _).2 (accepts_mapAt hfields hobject hn hd f)

def labelsNode : Members :=
  [("additionalProperties", .object [("type", .string "string")]),
    ("properties", .object [("n", .object [("type", .string "number")])]),
    ("required", .array [.string "id"]), ("type", .string "object")]

def labels : Validator :=
  .ofShape (.object [⟨"n", false, .ofShape (.number false [])⟩, ⟨"id", true, .any⟩]
    (.validate (.ofShape (.string []))) [])

def labelled : Members := [("a", .string "x"), ("id", Json.int 1), ("n", Json.int 2)]

theorem compile_labelsNode : compile (.object labelsNode) {} [] = .ok labels := by
  with_unfolding_all rfl

theorem childOf_labelsNode : childOf (.start (.object labelsNode) [] {}) ["additionalProperties"]
    (.object [("type", .string "string")]) = .ok (.ofShape (.string [])) := by
  with_unfolding_all rfl

theorem isValid_of_additional_labelled :
    compile (.object labelsNode) {} [] = .ok labels ∧ labels.isValid (.object labelled) = true ∧
      (Validator.ofShape (.string [])).isValid (.string "x") = true ∧
      labels.isValid (.object (mapAt "id" (fun _ => .null) labelled)) = true := by
  have hx : labels.isValid (.object labelled) = true := rfl
  have hadmits : NodeAdmits (.start (.object labelsNode) [] {}) labelsNode
      (.object (mapAt "id" (fun _ => .null) labelled)) := by
    constructor
    · intro y hy
      cases hy
    · intro y hy
      cases hy
  obtain ⟨e, he, -, hadditional, hrequired⟩ :=
    isValid_of_additional rfl rfl compile_labelsNode hx
  cases childOf_labelsNode.symm.trans he
  exact ⟨compile_labelsNode, hx, hadditional _ (List.mem_cons_self ..) ⟨by decide, by decide⟩,
    hrequired "id" (by decide) (by decide) _ hadmits⟩

/-- The value of a required key is not what the schema for additional properties accepts. -/
theorem not_additional_labelsNode :
    compile (.object labelsNode) {} [] = .ok labels ∧
      labels.isValid (.object [("id", Json.int 1)]) = true ∧
      "id" ∉ Json.keys (declared labelsNode) ∧
      childOf (.start (.object labelsNode) [] {}) ["additionalProperties"]
        (.object [("type", .string "string")]) = .ok (.ofShape (.string [])) ∧
      (Validator.ofShape (.string [])).isValid (Json.int 1) = false :=
  ⟨compile_labelsNode, by rfl, by decide, childOf_labelsNode, by rfl⟩

end SchemaCheck.Schema
