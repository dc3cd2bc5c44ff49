import SchemaCheck.Proofs.Schema.StrictFields

namespace SchemaCheck.Schema

open Json (Members hasKey)

section Roots

variable {c : Context} {node : Members} {x : Json} {t : TypeName} {ts : List TypeName}
  {form : Form} {v s : Validator}

theorem notMem_reads_of_ne_object (ht : t ≠ .object) {key : String} (hk : key ∈ t.reads) :
    key ≠ "properties" ∧ key ≠ "additionalProperties" := by
  cases t with
  | object => exact absurd rfl ht
  | array | string | number | integer | boolean | null =>
      clear ht
      revert key
      decide

theorem typeAccepts_strictNode_of_ne_object (ht : t ≠ .object) :
    TypeAccepts c (strictNode node) x t ↔ TypeAccepts c node x t :=
  TypeAccepts.congr fun _ hk =>
    lookup_strictNode (notMem_reads_of_ne_object ht hk).1 (notMem_reads_of_ne_object ht hk).2

theorem nodeAdmits_strictNode : NodeAdmits c (strictNode node) x ↔ NodeAdmits c node x := by
  have henum : (strictNode node).lookup "enum" = node.lookup "enum" :=
    lookup_strictNode (by decide) (by decide)
  have hnot : (strictNode node).lookup "not" = node.lookup "not" :=
    lookup_strictNode (by decide) (by decide)
  constructor
  · rintro ⟨hl, ho⟩
    exact ⟨henum ▸ hl, hnot ▸ ho⟩
  · rintro ⟨hl, ho⟩
    exact ⟨henum.symm ▸ hl, hnot.symm ▸ ho⟩

theorem isValid_strictNode (hts : Form.ofTypes ts = .ok form)
    (hf : Form.ofNode node = .ok form)
    (hs : compileNode c (.object (strictNode node)) = .ok s) :
    s.isValid x = true ↔ (LetsNull node ts ∧ x = .null) ∨
      ((∃ t ∈ ts, TypeAccepts c (strictNode node) x t) ∧ NodeAdmits c node x) := by
  have hnull : (strictNode node).lookup "nullable" = node.lookup "nullable" :=
    lookup_strictNode (by decide) (by decide)
  rw [isValid_of_types hts (ofNode_strictNode.trans hf) hs, nodeAdmits_strictNode, LetsNull,
    LetsNull, hnull]

theorem exists_typeAccepts_strictNode (hx : ∀ members, x ≠ .object members) :
    (∃ t ∈ ts, TypeAccepts c (strictNode node) x t) ↔ ∃ t ∈ ts, TypeAccepts c node x t := by
  have hne : ∀ n t, TypeAccepts c n x t → t ≠ .object := by
    rintro n t ha rfl
    obtain ⟨members, hm⟩ := holds_of_typeAccepts ha
    exact hx members hm
  constructor
  · rintro ⟨t, ht, ha⟩
    exact ⟨t, ht, (typeAccepts_strictNode_of_ne_object (hne _ t ha)).1 ha⟩
  · rintro ⟨t, ht, ha⟩
    exact ⟨t, ht, (typeAccepts_strictNode_of_ne_object (hne _ t ha)).2 ha⟩

theorem exists_typeAccepts_object {members : Members} :
    (∃ t ∈ ts, TypeAccepts c node (.object members) t) ↔
      .object ∈ ts ∧ TypeAccepts c node (.object members) .object := by
  constructor
  · rintro ⟨t, ht, ha⟩
    have hholds := holds_of_typeAccepts ha
    cases t with
    | object => exact ⟨ht, ha⟩
    | array | string | number | integer | boolean | null => simp [TypeName.Holds] at hholds
  · rintro ⟨ht, ha⟩
    exact ⟨_, ht, ha⟩

theorem exists_rootFields (hts : Form.ofTypes ts = .ok form) (hf : Form.ofNode node = .ok form)
    (hv : compileNode c (.object node) = .ok v) (ho : .object ∈ ts) :
    ∃ fields unknown checks, RootFields (childOf c) node fields ∧
      compileUnknown c.path (childOf c) node = .ok unknown ∧
      (∀ members, TypeAccepts c node (.object members) .object ↔
        (Shape.object fields unknown checks).Accepts (.object members)) ∧
      ∀ members, TypeAccepts c (strictNode node) (.object members) .object ↔
        (Shape.object (fields.filter fun f => keeps node f.name)
          (if hasKey "additionalProperties" node then unknown else .reject) checks).Accepts
            (.object members) := by
  obtain ⟨u, hu⟩ := compileTyped_of_types hts hf hv .object ho
  obtain ⟨fields, unknown, checks, hfields, hunknown, rfl, hs⟩ := compileObject_strictNode hu
  refine ⟨fields, unknown, checks, hfields, hunknown, fun members => ?_, fun members => ?_⟩
  · rw [typeAccepts_of_ok hu, Validator.accepts_ofShape]
  · rw [typeAccepts_of_ok (t := .object) hs, Validator.accepts_ofShape]

theorem isValid_strictNode_iff (hts : Form.ofTypes ts = .ok form)
    (hf : Form.ofNode node = .ok form) (ha : node.lookup "additionalProperties" = none)
    (hv : compileNode c (.object node) = .ok v)
    (hs : compileNode c (.object (strictNode node)) = .ok s) :
    s.isValid x = true ↔ v.isValid x = true ∧
      ∀ members, x = .object members → ∀ key ∈ Json.keys members, key ∈ keptKeys node := by
  rw [isValid_strictNode hts hf hs, isValid_of_types hts hf hv]
  by_cases hx : ∃ members, x = .object members
  · obtain ⟨members, rfl⟩ := hx
    by_cases ho : .object ∈ ts
    · obtain ⟨fields, unknown, checks, hfields, hunknown, husual, hstrict⟩ :=
        exists_rootFields hts hf hv ho
      have hk : hasKey "additionalProperties" node = false := by
        rw [hasKey, ha]
        rfl
      obtain rfl : unknown = .accept := by
        rw [compileUnknown, ha] at hunknown
        cases hunknown
        rfl
      simp only [hk, Bool.false_eq_true, if_false, hfields.accepts_closed_iff] at hstrict
      rw [exists_typeAccepts_object, exists_typeAccepts_object, husual, hstrict]
      simp [ho, and_assoc, and_comm]
    · rw [exists_typeAccepts_object, exists_typeAccepts_object]
      simp [ho]
  · have hx : ∀ members, x ≠ .object members := fun members he => hx ⟨members, he⟩
    rw [exists_typeAccepts_strictNode hx, and_iff_left fun members he => absurd he (hx members)]

end Roots

theorem exists_ofTypes_of_root {node : Members} {form : Form}
    (hl : ∀ key ∈ leadingKeys, node.lookup key = none) (hc : node.lookup "const" = none)
    (ho : isObjectSchema node = true)
    (he : node.lookup "type" = none → node.lookup "enum" = none)
    (hf : Form.ofNode node = .ok form) : ∃ ts, Form.ofTypes ts = .ok form := by
  cases ht : node.lookup "type" with
  | some x =>
      rw [ofNode_of_type hl hc ht] at hf
      obtain ⟨ts, hts, -⟩ := ofType_eq_ok hf
      exact ⟨ts, hts⟩
  | none =>
      have hu : Form.untypedEnum? node = none := by
        rw [Form.untypedEnum?, he ht, ite_self]
      have hp : hasKey "properties" node = true := by
        rwa [isObjectSchema, ht] at ho
      rw [ofNode_of_absent hl, hu] at hf
      simp only [Form.ofTypeOrConst, hc, ht, Form.implicit, hp, if_true] at hf
      cases hf
      exact ⟨[.object], rfl⟩

/-- A strict root of objects that says nothing of unknown keys accepts what it accepts otherwise,
objects only with keys that are kept. -/
theorem isValid_strict_iff {node definitions : Members} {n : Nat}
    (ho : isObjectSchema node = true)
    (hl : ∀ key ∈ ["anyOf", "oneOf", "allOf", "$ref", "const", "additionalProperties"],
      node.lookup key = none)
    (he : node.lookup "type" = none → node.lookup "enum" = none) {v s : Validator}
    (hv : compile (.object node) { maxDepth := n } definitions = .ok v)
    (hs : compile (.object node) { strict := true, maxDepth := n } definitions = .ok s) (x : Json) :
    s.isValid x = true ↔ v.isValid x = true ∧
      ∀ members, x = .object members → ∀ key ∈ Json.keys members, key ∈ keptKeys node := by
  have hleading : ∀ key ∈ leadingKeys, node.lookup key = none := by
    intro key hk
    refine hl key ?_
    revert key
    decide
  have hcombinators : (combinatorKeys.any fun k => hasKey k node) = false := by
    simp [combinatorKeys, hasKey, hl]
  have hprune : prune (.object node) = .object (strictNode node) := by
    rw [prune, ho, hcombinators]
    rfl
  obtain ⟨form, hf⟩ := exists_ofNode_of_compileNode hv
  obtain ⟨ts, hts⟩ := exists_ofTypes_of_root hleading (hl "const" (by decide)) ho he hf
  rw [compile, if_pos rfl, hprune] at hs
  exact isValid_strictNode_iff hts hf (hl _ (by decide)) hv hs

def personNode (policy : Members) : Members :=
  policy ++ [("properties", .object [("age", .object [("type", .string "number")]),
      ("name", .object [("type", .string "string")])]),
    ("required", .array [.string "name"]), ("type", .string "object")]

def namedNode (policy : Members) : Members :=
  policy ++ [("properties", .object [("name", .object [("type", .string "string")])]),
    ("required", .array [.string "name"]), ("type", .string "object")]

def person (unknown : UnknownKeys) : Validator :=
  .ofShape (.object [⟨"age", false, .ofShape (.number false [])⟩,
    ⟨"name", true, .ofShape (.string [])⟩] unknown [])

def named (unknown : UnknownKeys) : Validator :=
  .ofShape (.object [⟨"name", true, .ofShape (.string [])⟩] unknown [])

theorem compile_person : compile (.object (personNode [])) { maxDepth := 1 } [] =
    .ok (person .accept) := by
  with_unfolding_all rfl

theorem compile_strict_person : compile (.object (personNode []))
    { strict := true, maxDepth := 1 } [] = .ok (named .reject) := by
  have hp : prune (.object (personNode [])) =
      .object (namedNode [("additionalProperties", .bool false)]) := rfl
  rw [compile, if_pos rfl, hp]
  with_unfolding_all rfl

theorem isValid_strict_iff_person : isObjectSchema (personNode []) = true ∧
    ∀ x, (named .reject).isValid x = true ↔ (person .accept).isValid x = true ∧
      ∀ members, x = .object members → ∀ key ∈ Json.keys members, key ∈ ["name"] :=
  ⟨by decide, isValid_strict_iff (by decide) (by decide) (fun _ => rfl) compile_person
    compile_strict_person⟩

theorem ofTypes_of_ofNode {node : Members} {ts : List TypeName}
    (hf : Form.ofNode node = .ok (.types ts)) : Form.ofTypes ts = .ok (.types ts) := by
  have habsent := absent_of_types hf
  have hl : ∀ key ∈ leadingKeys, node.lookup key = none :=
    fun key hk => habsent key (List.mem_cons_of_mem _ hk)
  cases ht : node.lookup "type" with
  | some x =>
      rw [ofNode_of_type hl (habsent _ (List.mem_cons_self ..)) ht] at hf
      obtain ⟨us, hus, -⟩ := ofType_eq_ok hf
      rcases us with _ | ⟨t, _ | ⟨u, rest⟩⟩
      · cases hus
      · cases hus
      · cases hus
        rfl
  | none =>
      rw [ofNode_of_absent hl] at hf
      split at hf
      next x _ => cases x <;> cases hf
      next =>
        rw [Form.ofTypeOrConst, habsent _ (List.mem_cons_self ..), ht] at hf
        simp only [Form.implicit] at hf
        split at hf
        · cases hf
        · split at hf <;> cases hf

section AnyForm

variable {path : String} {child : ChildCompiler} {follow : String → Result} {node : Members}
  {form : Form}

theorem compileMembers_strictNode (hf : Form.ofNode node = .ok form)
    (h : ∀ ts, Form.ofTypes ts ≠ .ok form) :
    compileMembers path child follow (strictNode node) = compileMembers path child follow node := by
  have hl : ∀ key ∈ modifierKeys, (strictNode node).lookup key = node.lookup key := by
    intro key hk
    apply lookup_strictNode <;> rintro rfl <;> revert hk <;> decide
  have hmodify : ∀ v, modify path child (strictNode node) form v =
      modify path child node form v := by
    intro v
    simp only [modify, setNullable, refineEnum, setExcluded, hl "nullable" (by decide),
      hl "enum" (by decide), hl "not" (by decide)]
  have hmetadata : ∀ v, withMetadata (strictNode node) v = withMetadata node v := by
    intro v
    simp only [withMetadata, hl "default" (by decide), hl "description" (by decide),
      hl "title" (by decide)]
  have hform : compileForm path child follow (strictNode node) form =
      compileForm path child follow node form := by
    cases form with
    | typed t => exact absurd rfl (h [t])
    | types ts => exact absurd (ofTypes_of_ofNode hf) (h ts)
    | anyOf | oneOf | allOf | ref | enum | const | any => rfl
  by_cases hr : ∃ reference, form = .ref reference
  · obtain ⟨reference, rfl⟩ := hr
    rw [compileMembers, compileMembers, ofNode_strictNode, hf]
    rfl
  · have hr : ∀ reference, form ≠ .ref reference := fun reference he => hr ⟨reference, he⟩
    rw [compileMembers_eq hf hr, compileMembers_eq (ofNode_strictNode.trans hf) hr, hform]
    simp only [hmodify, hmetadata]

end AnyForm

section Dropped

variable {c : Context} {node : Members} {ts : List TypeName} {form : Form} {v s : Validator}
  {x : Json} (hts : Form.ofTypes ts = .ok form) (hf : Form.ofNode node = .ok form)
  (hv : compileNode c (.object node) = .ok v)
include hts hf hv

theorem isValid_of_strictNode (hs : compileNode c (.object (strictNode node)) = .ok s)
    (hx : s.isValid x = true)
    (hd : ∀ members, x = .object members → DroppedAccept (childOf c) node members) :
    v.isValid x = true := by
  rw [isValid_strictNode hts hf hs] at hx
  rw [isValid_of_types hts hf hv]
  refine hx.imp_right (And.imp_left ?_)
  by_cases hobject : ∃ members, x = .object members
  · obtain ⟨members, rfl⟩ := hobject
    rw [exists_typeAccepts_object, exists_typeAccepts_object]
    rintro ⟨ho, ha⟩
    obtain ⟨fields, unknown, checks, hfields, hunknown, husual, hstrict⟩ :=
      exists_rootFields hts hf hv ho
    rw [hstrict] at ha
    refine ⟨ho, (husual members).2 (hfields.accepts_of_strict ha (fun others hu => ?_)
      (hd members rfl))⟩
    cases hk : hasKey "additionalProperties" node with
    | true => simpa [hk] using hu
    | false =>
        have hl : node.lookup "additionalProperties" = none := by
          simpa [hasKey] using hk
        rw [compileUnknown, hl] at hunknown
        cases hunknown
        trivial
  · exact (exists_typeAccepts_strictNode fun members he => hobject ⟨members, he⟩).1

theorem droppedAccept_of_isValid {members : Members} (hx : v.isValid (.object members) = true) :
    DroppedAccept (childOf c) node members := by
  rw [isValid_of_types hts hf hv, exists_typeAccepts_object] at hx
  obtain ⟨-, he⟩ | ⟨⟨ho, ha⟩, -⟩ := hx
  · cases he
  · obtain ⟨fields, unknown, checks, hfields, -, husual, -⟩ := exists_rootFields hts hf hv ho
    exact hfields.droppedAccept ((husual members).1 ha)

theorem droppedAccept_of_closed (hs : compileNode c (.object (strictNode node)) = .ok s)
    {members : Members} (hx : s.isValid (.object members) = true)
    (ha : node.lookup "additionalProperties" = none ∨
      node.lookup "additionalProperties" = some (.bool false)) :
    DroppedAccept (childOf c) node members := by
  rw [isValid_strictNode hts hf hs, exists_typeAccepts_object] at hx
  obtain ⟨-, he⟩ | ⟨⟨ho, hx⟩, -⟩ := hx
  · cases he
  · obtain ⟨fields, unknown, checks, hfields, hunknown, -, hstrict⟩ :=
      exists_rootFields hts hf hv ho
    have hclosed : (if hasKey "additionalProperties" node then unknown else .reject) =
        UnknownKeys.reject := by
      rcases ha with ha | ha
      · rw [hasKey, ha]
        rfl
      · rw [compileUnknown, ha] at hunknown
        cases hunknown
        rw [ite_self]
    rw [hstrict, hclosed] at hx
    exact hfields.droppedAccept_of_closed hx

end Dropped

/-- The members of the value are accepted by the properties of the root that are dropped. -/
def FitsDropped (c : Context) (schema x : Json) : Prop :=
  ∀ node members ts, schema = .object node → x = .object members →
    Form.ofNode node = Form.ofTypes ts → DroppedAccept (childOf c) node members

section Compile

variable {schema : Json} {definitions : Members} {n : Nat} {v s : Validator}

theorem strict_cases (hv : compile schema { maxDepth := n } definitions = .ok v)
    (hs : compile schema { strict := true, maxDepth := n } definitions = .ok s) :
    s = v ∨ ∃ node ts form, schema = .object node ∧ Form.ofTypes ts = .ok form ∧
      Form.ofNode node = .ok form ∧
      compileNode (.start schema definitions { maxDepth := n }) (.object (strictNode node)) =
        .ok s := by
  have hsame : prune schema = schema → s = v := by
    intro hp
    rw [compile, if_pos rfl, hp] at hs
    exact Except.ok.inj (hs.symm.trans hv)
  cases schema with
  | null | bool b | number m | string t | array items => exact .inl (hsame rfl)
  | object node =>
      rw [compile, if_pos rfl, prune] at hs
      rw [prune] at hsame
      split at hs
      next =>
        obtain ⟨form, hf⟩ := exists_ofNode_of_compileNode hv
        by_cases ht : ∃ ts, Form.ofTypes ts = .ok form
        · obtain ⟨ts, hts⟩ := ht
          exact .inr ⟨node, ts, form, rfl, hts, hf, hs⟩
        · have ht : ∀ ts, Form.ofTypes ts ≠ .ok form := fun ts hts => ht ⟨ts, hts⟩
          rw [compileNode_eq, compileStep] at hs
          change compileMembers _ _ _ (strictNode node) = _ at hs
          rw [compileMembers_strictNode hf ht] at hs
          rw [compile, compileNode_eq] at hv
          exact .inl (Except.ok.inj (hs.symm.trans hv))
      next hp => exact .inl (hsame (if_neg hp))

/-- What a strict root accepts is accepted otherwise just if the members that stand under a dropped
property are accepted by it. They are if unknown keys are rejected. -/
theorem isValid_of_strict (hv : compile schema { maxDepth := n } definitions = .ok v)
    (hs : compile schema { strict := true, maxDepth := n } definitions = .ok s) {x : Json}
    (hx : s.isValid x = true) :
    (v.isValid x = true ↔ FitsDropped (.start schema definitions { maxDepth := n }) schema x) ∧
    ((∀ node, schema = .object node → node.lookup "additionalProperties" = none ∨
      node.lookup "additionalProperties" = some (.bool false)) → v.isValid x = true) := by
  have hfits : v.isValid x = true →
      FitsDropped (.start schema definitions { maxDepth := n }) schema x := by
    rintro hvx node members ts rfl rfl hts
    obtain ⟨form, hf⟩ := exists_ofNode_of_compileNode hv
    exact droppedAccept_of_isValid (hts.symm.trans hf) hf hv hvx
  rcases strict_cases hv hs with rfl | ⟨node, ts, form, rfl, hts, hf, hs⟩
  · exact ⟨⟨hfits, fun _ => hx⟩, fun _ => hx⟩
  · refine ⟨⟨hfits, fun h => ?_⟩, fun ha => ?_⟩
    · exact isValid_of_strictNode hts hf hv hs hx fun members he =>
        h node members ts rfl he (hf.trans hts.symm)
    · refine isValid_of_strictNode hts hf hv hs hx ?_
      rintro members rfl
      exact droppedAccept_of_closed hts hf hv hs hx (ha node rfl)

end Compile

/-- The strict root is closed and accepts less. -/
theorem isValid_of_strict_person :
    (named .reject).isValid (.object [("name", .string "Ada")]) = true ∧
      (person .accept).isValid (.object [("name", .string "Ada")]) = true := by
  have hx : (named .reject).isValid (.object [("name", .string "Ada")]) = true := by
    rfl
  refine ⟨hx, (isValid_of_strict compile_person compile_strict_person hx).2 ?_⟩
  rintro node ⟨⟩
  exact .inl rfl

/-- A person of an age that is no number is accepted by the strict root, and not otherwise: other
keys may have any value, and the age is one of them. -/
theorem not_isValid_of_strict_openPerson :
    compile (.object (personNode [("additionalProperties", .bool true)])) { maxDepth := 1 } [] =
        .ok (person .accept) ∧
      compile (.object (personNode [("additionalProperties", .bool true)]))
        { strict := true, maxDepth := 1 } [] = .ok (named .accept) ∧
      (named .accept).isValid (.object [("age", .string "x"), ("name", .string "a")]) = true ∧
      (person .accept).isValid (.object [("age", .string "x"), ("name", .string "a")]) = false := by
  have hp : prune (.object (personNode [("additionalProperties", .bool true)])) =
      .object (namedNode [("additionalProperties", .bool true)]) := rfl
  refine ⟨by with_unfolding_all rfl, ?_, by with_unfolding_all rfl, by with_unfolding_all rfl⟩
  rw [compile, if_pos rfl, hp]
  with_unfolding_all rfl

end SchemaCheck.Schema
