import SchemaCheck.Proofs.Schema.TypeLists

namespace SchemaCheck.Schema

open Json (Members)

/-- What the value becomes by that type of the node. -/
def outputAs (c : Context) (node : Members) (x : Json) (t : TypeName) : Option Json :=
  (compileTyped c.path (childOf c) node t).toOption.bind (·.eval x)

section Outputs

variable {c : Context} {node : Members} {x : Json} {t : TypeName} {ts : List TypeName}
  {v : Validator}

theorem isNull_of_ne (hx : x ≠ .null) : x.isNull = false := by
  cases x with
  | null => exact absurd rfl hx
  | bool | number | string | array | object => rfl

theorem outputAs_of_ok (h : compileTyped c.path (childOf c) node t = .ok v) :
    outputAs c node x t = v.eval x := by
  rw [outputAs, h]
  rfl

theorem evalFirst_eq_findSome? (vs : List Validator) (x : Json) :
    evalFirst vs x = vs.findSome? (·.eval x) := by
  induction vs with
  | nil => rfl
  | cons v rest ih =>
      rw [evalFirst, ih, List.findSome?_cons]
      cases v.eval x <;> rfl

theorem eval_combine_union {vs : List Validator} (h : vs ≠ []) (x : Json) :
    (combine .union vs).eval x = vs.findSome? (·.eval x) := by
  match vs with
  | [v] =>
      rw [combine, List.findSome?_cons, List.findSome?_nil]
      cases v.eval x <;> rfl
  | v :: w :: rest =>
      rw [combine_of_two (by simp), Validator.eval_ofShape, Shape.eval, evalFirst_eq_findSome?]

theorem findSome?_of_compileBranches {vs : List Validator}
    (h : compileBranches c.path (childOf c) node ts = .ok vs) :
    vs.findSome? (·.eval x) = ts.findSome? (outputAs c node x) := by
  induction ts generalizing vs with
  | nil =>
      cases h
      rfl
  | cons t rest ih =>
      obtain ⟨v, hv, h⟩ := bind_eq_ok h
      obtain ⟨ws, hws, h⟩ := bind_eq_ok h
      cases h
      rw [← (like_narrow node t).compileTyped] at hv
      rw [List.findSome?_cons, List.findSome?_cons, outputAs_of_ok hv, ih hws]

theorem findSome?_branchTypes {α : Type} (f : TypeName → Option α) (ts : List TypeName) :
    (branchTypes ts).findSome? f = (ts.filter (· ≠ .null)).findSome? f := by
  have hfold : ∀ us : List TypeName,
      (ts.foldl (fun us t => if t = .null ∨ t ∈ us then us else us ++ [t]) us).findSome? f =
        (us.findSome? f).or ((ts.filter (· ≠ .null)).findSome? f) := by
    induction ts with
    | nil => simp
    | cons t rest ih =>
        intro us
        rw [List.foldl_cons, ih]
        by_cases hn : t = .null
        · simp [hn]
        · rw [List.filter_cons_of_pos (by simpa using hn), List.findSome?_cons]
          by_cases hm : t ∈ us
          · rw [if_pos (.inr hm)]
            cases hu : us.findSome? f with
            | some a => rfl
            | none => rw [List.findSome?_eq_none_iff.1 hu t hm]
          · rw [if_neg (not_or.2 ⟨hn, hm⟩), List.findSome?_append, Option.or_assoc,
              List.findSome?_cons]
            cases f t <;> rfl
  exact hfold []

/-- The first type that accepts the value makes the output. Null is no branch, but lets null
through. -/
theorem eval_of_compileTypes (h : compileTypes c.path (childOf c) node ts = .ok v)
    (hx : x ≠ .null) : v.eval x = (ts.filter (· ≠ .null)).findSome? (outputAs c node x) := by
  have hn := isNull_of_ne hx
  obtain ⟨vs, hvs, h⟩ := bind_eq_ok h
  rw [← findSome?_branchTypes, ← findSome?_of_compileBranches hvs]
  split at h
  next he =>
    cases h
    obtain rfl := List.isEmpty_iff.1 he
    rw [Validator.eval_ofShape, Shape.eval, hn]
    rfl
  next he =>
    have hne : vs ≠ [] := fun hs => he (List.isEmpty_iff.2 hs)
    split at h
    next =>
      cases h
      rw [Validator.eval_withNullable, hn, if_neg Bool.false_ne_true, eval_combine_union hne]
    next =>
      cases h
      exact eval_combine_union hne x

theorem exists_setNullable {path : String} {w : Validator}
    (h : setNullable path node v = .ok w) (u : Validator) :
    ∃ u', setNullable path node u = .ok u' := by
  rw [setNullable] at h ⊢
  split at h
  next => exact ⟨u, rfl⟩
  next => exact ⟨u, rfl⟩
  next => exact ⟨u.withNullable, rfl⟩
  next => cases h

theorem eval_of_setNullable {path : String} {w : Validator}
    (h : setNullable path node v = .ok w) (hx : x ≠ .null) : w.eval x = v.eval x := by
  rcases setNullable_eq_ok h with ⟨rfl, -⟩ | ⟨rfl, -⟩
  · rfl
  · rw [Validator.eval_withNullable, isNull_of_ne hx, if_neg Bool.false_ne_true]

end Outputs

def asType (t : TypeName) (node : Members) : Members := Json.put "type" (.string t.name) node

theorem lookup_asType {t : TypeName} {node : Members} {key : String} (h : key ≠ "type") :
    (asType t node).lookup key = node.lookup key :=
  Json.lookup_put_of_ne h _ _

theorem like_asType (t : TypeName) (node : Members) : Like node (asType t node) :=
  like_put (by decide) _ _

/-- The node lists the types, and has no other form and no modifier but the flag. -/
structure ListsTypes (ts : List TypeName) (node : Members) : Prop where
  type : node.lookup "type" = some (.array (ts.map fun t => .string t.name))
  absent : ∀ key ∈ "const" :: "enum" :: "not" :: leadingKeys, node.lookup key = none

namespace ListsTypes

variable {c : Context} {node : Members} {x : Json} {t : TypeName} {ts : List TypeName}
  {v u : Validator}

theorem ofNode (h : ListsTypes ts node) : Form.ofNode node = Form.ofTypes ts := by
  rw [ofNode_of_type (fun key hk => h.absent key (by revert key; decide))
    (h.absent _ (by decide)) h.type, ofType_array]

theorem ofNode_asType (h : ListsTypes ts node) (t : TypeName) :
    Form.ofNode (asType t node) = .ok (.typed t) := by
  refine ofNode_typed (fun key hk => ?_) ?_ (Json.lookup_put_self ..)
  · rw [lookup_asType (by rintro rfl; revert hk; decide)]
    exact h.absent key (by revert key; decide)
  · rw [lookup_asType (by decide), h.absent _ (by decide)]

theorem finish_eq (h : ListsTypes ts node) (path : String) (child : ChildCompiler)
    (w : Validator) : finish path child node w = .ok (withMetadata node w) :=
  finish_of_absent (fun key hk => h.absent key (by revert key; decide)) w

theorem exists_form (h : ListsTypes ts node) (hv : compileNode c (.object node) = .ok v) :
    ∃ form, Form.ofTypes ts = .ok form ∧ Form.ofNode node = .ok form := by
  obtain ⟨form, hf⟩ := exists_ofNode_of_compileNode hv
  exact ⟨form, h.ofNode.symm.trans hf, hf⟩

theorem compileNode_asType (h : ListsTypes ts node) (t : TypeName) :
    compileNode c (.object (asType t node)) = (do
      let w ← compileTyped c.path (childOf c) node t
      let w ← setNullable c.path node w
      .ok (withMetadata node w)) := by
  rw [compileNode_of_types [t] rfl (h.ofNode_asType t), compileTypes_singleton,
    ← (like_asType t node).compileTyped]
  refine bind_congr fun w => ?_
  have hflag : setNullable c.path (asType t node) w = setNullable c.path node w := by
    rw [setNullable, setNullable, lookup_asType (by decide)]
  rw [hflag]
  refine bind_congr fun w => ?_
  rw [← h.finish_eq c.path (childOf c) w]
  refine finish_congr (fun key hk => lookup_asType ?_) w
  rintro rfl
  revert hk
  decide

theorem eval_eq (h : ListsTypes ts node) (hv : compileNode c (.object node) = .ok v)
    (hx : x ≠ .null) :
    v.eval x = (ts.filter (· ≠ .null)).findSome? (outputAs c node x) := by
  obtain ⟨form, hts, hf⟩ := h.exists_form hv
  rw [compileNode_of_types ts hts hf] at hv
  obtain ⟨w, hw, hv⟩ := bind_eq_ok hv
  obtain ⟨w', hw', hv⟩ := bind_eq_ok hv
  rw [h.finish_eq] at hv
  cases hv
  calc (withMetadata node w').eval x
      = w'.eval x := eval_withMetadata node w' x
    _ = w.eval x := eval_of_setNullable hw' hx
    _ = _ := eval_of_compileTypes hw hx

theorem eval_asType (h : ListsTypes ts node)
    (hu : compileNode c (.object (asType t node)) = .ok u) (hx : x ≠ .null) :
    u.eval x = outputAs c node x t := by
  rw [h.compileNode_asType] at hu
  obtain ⟨w, hw, hu⟩ := bind_eq_ok hu
  obtain ⟨w', hw', hu⟩ := bind_eq_ok hu
  cases hu
  calc (withMetadata node w').eval x
      = w'.eval x := eval_withMetadata node w' x
    _ = w.eval x := eval_of_setNullable hw' hx
    _ = outputAs c node x t := (outputAs_of_ok hw).symm

theorem exists_compileNode_asType (h : ListsTypes ts node)
    (hv : compileNode c (.object node) = .ok v) (ht : t ∈ ts) :
    ∃ u, compileNode c (.object (asType t node)) = .ok u := by
  obtain ⟨form, hts, hf⟩ := h.exists_form hv
  obtain ⟨u, hu⟩ := compileTyped_of_types hts hf hv t ht
  rw [compileNode_of_types ts hts hf] at hv
  obtain ⟨w, -, hv⟩ := bind_eq_ok hv
  obtain ⟨w', hw', -⟩ := bind_eq_ok hv
  obtain ⟨u', hu'⟩ := exists_setNullable hw' u
  refine ⟨withMetadata node u', ?_⟩
  rw [h.compileNode_asType, hu]
  change setNullable c.path node u >>= _ = _
  rw [hu']
  rfl

theorem isValid_iff (h : ListsTypes ts node) (hv : compileNode c (.object node) = .ok v) :
    v.isValid x = true ↔ (node.lookup "nullable" = some (.bool true) ∧ x = .null) ∨
      ∃ t ∈ ts, TypeAccepts c node x t := by
  obtain ⟨form, hts, hf⟩ := h.exists_form hv
  exact isValid_of_types_of_unrestricted hts hf
    (fun key hk => h.absent key (by revert key; decide)) hv

theorem isValid_asType_iff (h : ListsTypes ts node)
    (hu : compileNode c (.object (asType t node)) = .ok u) :
    u.isValid x = true ↔ (node.lookup "nullable" = some (.bool true) ∧ x = .null) ∨
      TypeAccepts c node x t := by
  have hm : ∀ key ∈ ["enum", "not"], (asType t node).lookup key = none := by
    intro key hk
    rw [lookup_asType (by rintro rfl; revert hk; decide)]
    exact h.absent key (by revert key; decide)
  have ht : TypeAccepts c (asType t node) x t ↔ TypeAccepts c node x t := by
    rw [TypeAccepts, TypeAccepts, (like_asType t node).compileTyped]
  have hts : Form.ofTypes [t] = .ok (.typed t) := rfl
  rw [isValid_of_types_of_unrestricted hts (h.ofNode_asType t) hm hu,
    lookup_asType (by decide), ← ht]
  simp only [List.mem_singleton, exists_eq_left]

end ListsTypes

/-- A node that lists types compiles only if it does with each of them alone. It accepts what one
of these nodes accepts, and the first of them decides the output. -/
theorem parse_of_listed {c : Context} {node : Members} {ts : List TypeName}
    (h : ListsTypes ts node) {v : Validator} (hv : compileNode c (.object node) = .ok v) :
    ∃ alone : TypeName → Validator,
      (∀ t ∈ ts, compileNode c (.object (asType t node)) = .ok (alone t)) ∧
      (∀ x, v.isValid x = true ↔ ∃ t ∈ ts, (alone t).isValid x = true) ∧
      ∀ x, x ≠ .null → (v.parse x).toOption =
        (ts.filter (· ≠ .null)).findSome? fun t => ((alone t).parse x).toOption := by
  have hex : ∀ t, ∃ u, t ∈ ts → compileNode c (.object (asType t node)) = .ok u := by
    intro t
    by_cases ht : t ∈ ts
    · obtain ⟨u, hu⟩ := h.exists_compileNode_asType hv ht
      exact ⟨u, fun _ => hu⟩
    · exact ⟨v, fun ht' => absurd ht' ht⟩
  choose alone halone using hex
  refine ⟨alone, halone, fun x => ?_, fun x hx => ?_⟩
  · obtain ⟨form, hts, -⟩ := h.exists_form hv
    obtain ⟨t, ht⟩ := List.exists_mem_of_ne_nil ts (properties_of_ofTypes hts).1
    rw [h.isValid_iff hv]
    constructor
    · rintro (hflag | ⟨t, ht, ha⟩)
      · exact ⟨t, ht, (h.isValid_asType_iff (halone t ht)).2 (.inl hflag)⟩
      · exact ⟨t, ht, (h.isValid_asType_iff (halone t ht)).2 (.inr ha)⟩
    · rintro ⟨t, ht, ha⟩
      rcases (h.isValid_asType_iff (halone t ht)).1 ha with hflag | ha
      · exact .inl hflag
      · exact .inr ⟨t, ht, ha⟩
  · rw [Validator.toOption_parse, h.eval_eq hv hx, ← List.head?_filterMap,
      ← List.head?_filterMap, List.filterMap_congr]
    intro t ht
    rw [Validator.toOption_parse, h.eval_asType (halone t (List.mem_of_mem_filter ht)) hx]

def textOrObjectNode : Members :=
  [("maxLength", Json.int 2),
    ("properties", .object [("a", .object [("default", Json.int 1)])]),
    ("type", .array [.string "null", .string "string", .string "object"])]

def textOrObject : Validator :=
  { shape := .union [.ofShape (.string [⟨.maxLength 2, none⟩]),
      .ofShape (.object [⟨"a", false, Validator.any.withDefault (Json.int 1)⟩] .accept [])]
    nullable := true }

theorem parse_of_listed_textOrObject :
    ListsTypes [.null, .string, .object] textOrObjectNode ∧
      compile (.object textOrObjectNode) {} [] = .ok textOrObject ∧
      ∃ alone : TypeName → Validator,
        (∀ t ∈ [.null, .string, .object],
          compileNode (.start (.object textOrObjectNode) [] {})
            (.object (asType t textOrObjectNode)) = .ok (alone t)) ∧
        (∀ x, textOrObject.isValid x = true ↔
          ∃ t ∈ [.null, .string, .object], (alone t).isValid x = true) ∧
        ∀ x, x ≠ .null → (textOrObject.parse x).toOption =
          [.string, .object].findSome? fun t => ((alone t).parse x).toOption := by
  have h : ListsTypes [.null, .string, .object] textOrObjectNode := ⟨rfl, by decide⟩
  have hv : compile (.object textOrObjectNode) {} [] = .ok textOrObject := by
    with_unfolding_all rfl
  exact ⟨h, hv, parse_of_listed h hv⟩

end SchemaCheck.Schema
