import SchemaCheck.Proofs.Schema.TypeLists

namespace SchemaCheck

open Json (Members)

namespace Schema

def listNull (t : TypeName) (node : Members) : Members :=
  Json.put "type" (.array [.string t.name, .string "null"]) node

def flagNull (node : Members) : Members := Json.put "nullable" (.bool true) node

def nullSchema : Json := .object [("type", .string "null")]

def orNull (node : Members) : Members := [("anyOf", .array [.object node, nullSchema])]

theorem lookup_listNull {t : TypeName} {node : Members} {key : String} (h : key ≠ "type") :
    (listNull t node).lookup key = node.lookup key :=
  Json.lookup_put_of_ne h _ _

theorem lookup_flagNull {node : Members} {key : String} (h : key ≠ "nullable") :
    (flagNull node).lookup key = node.lookup key :=
  Json.lookup_put_of_ne h _ _

theorem like_listNull (t : TypeName) (node : Members) : Like node (listNull t node) :=
  like_put (by decide) _ _

theorem like_flagNull (node : Members) : Like node (flagNull node) :=
  like_put (by decide) _ _

section Spellings

variable {c d e : Context} {node : Members} {t : TypeName} {u v w : Validator}

/-- The node has the type and no other form, and no flag. -/
structure HasTypeOnly (t : TypeName) (node : Members) : Prop where
  type : node.lookup "type" = some (.string t.name)
  absent : ∀ key ∈ "nullable" :: "const" :: leadingKeys, node.lookup key = none

theorem HasTypeOnly.ofNode (h : HasTypeOnly t node) : Form.ofNode node = .ok (.typed t) := by
  have habsent := h.absent
  rw [List.forall_mem_cons, List.forall_mem_cons] at habsent
  exact ofNode_typed habsent.2.2 habsent.2.1 h.type

theorem HasTypeOnly.compileNode (h : HasTypeOnly t node) : compileNode c (.object node) =
    compileTyped c.path (childOf c) node t >>= finish c.path (childOf c) node := by
  have hn : node.lookup "nullable" = none := h.absent _ (by decide)
  rw [compileNode_of_types [t] rfl h.ofNode, compileTypes_singleton]
  refine bind_congr fun w => ?_
  rw [setNullable, hn]
  rfl

theorem HasTypeOnly.compileNode_flagNull (h : HasTypeOnly t node) :
    Schema.compileNode c (.object (flagNull node)) =
      compileTyped c.path (childOf c) node t >>= fun w =>
        finish c.path (childOf c) node w.withNullable := by
  have hf : Form.ofNode (flagNull node) = .ok (.typed t) := by
    have habsent := h.absent
    rw [List.forall_mem_cons, List.forall_mem_cons] at habsent
    refine ofNode_typed (fun key hk => ?_) ?_ ?_
    · rw [lookup_flagNull (by rintro rfl; revert hk; decide), habsent.2.2 key hk]
    · rw [lookup_flagNull (by decide), habsent.2.1]
    · rw [lookup_flagNull (by decide), h.type]
  rw [compileNode_of_types [t] rfl hf, compileTypes_singleton,
    ← (like_flagNull node).compileTyped]
  refine bind_congr fun w => ?_
  rw [setNullable, flagNull, Json.lookup_put_self]
  refine finish_congr (fun key hk => lookup_flagNull ?_) _
  rintro rfl
  revert hk
  decide

theorem HasTypeOnly.compileNode_listNull (h : HasTypeOnly t node) (ht : t ≠ .null) :
    Schema.compileNode c (.object (listNull t node)) =
      compileTyped c.path (childOf c) node t >>= fun w =>
        finish c.path (childOf c) node w.withNullable := by
  have hlookup : ∀ key ∈ "nullable" :: "const" :: leadingKeys,
      (listNull t node).lookup key = none := by
    intro key hk
    rw [lookup_listNull (by rintro rfl; revert hk; decide), h.absent key hk]
  have hn : (listNull t node).lookup "nullable" = none := hlookup _ (by decide)
  rw [List.forall_mem_cons, List.forall_mem_cons] at hlookup
  have hf : Form.ofNode (listNull t node) = .ok (.types [t, .null]) := by
    rw [ofNode_of_type hlookup.2.2 hlookup.2.1 (Json.lookup_put_self ..)]
    cases t <;> rfl
  rw [compileNode_of_types [t, .null] rfl hf, compileTypes_null ht,
    ← (like_listNull t node).compileTyped]
  cases compileTyped c.path (childOf c) node t with
  | error e => rfl
  | ok w =>
      change setNullable c.path (listNull t node) w.withNullable >>= _ = finish _ _ node _
      rw [setNullable, hn]
      refine finish_congr (fun key hk => lookup_listNull ?_) _
      rintro rfl
      revert hk
      decide

theorem finish_withNullable {path path' : String} {child child' : ChildCompiler}
    (hc : ∀ x, node.lookup "not" = some x → Agree (child ["not"] x) (child' ["not"] x))
    (hv : finish path child node w.withNullable = .ok v)
    (hu : finish path' child' node w = .ok u) : v = u.withNullable := by
  obtain ⟨v₁, hv₁, hv⟩ := bind_eq_ok hv
  obtain ⟨v₂, hv₂, hv⟩ := bind_eq_ok hv
  obtain ⟨u₁, hu₁, hu⟩ := bind_eq_ok hu
  obtain ⟨u₂, hu₂, hu⟩ := bind_eq_ok hu
  cases hv
  cases hu
  have hallowed : v₁ = u₁.withNullable := by
    rcases refineEnum_eq_ok hv₁ with ⟨rfl, hn⟩ | ⟨values, rfl, hn⟩ <;>
      rcases refineEnum_eq_ok hu₁ with ⟨rfl, hn'⟩ | ⟨values', rfl, hn'⟩ <;>
        cases hn.symm.trans hn' <;> rfl
  have hexcluded : v₂ = u₂.withNullable := by
    rcases setExcluded_eq_ok hv₂ with ⟨rfl, hn⟩ | ⟨x, a, rfl, hn, ha⟩ <;>
      rcases setExcluded_eq_ok hu₂ with ⟨rfl, hn'⟩ | ⟨y, b, rfl, hn', hb⟩ <;>
        cases hn.symm.trans hn'
    · exact hallowed
    · cases hc x hn a b ha hb
      rw [hallowed]
      rfl
  rw [hexcluded]
  rfl

theorem finish_keeps {path : String} {child : ChildCompiler}
    (h : finish path child node w = .ok v) : v.shape = w.shape ∧ v.nullable = w.nullable := by
  obtain ⟨v₁, hv₁, h⟩ := bind_eq_ok h
  obtain ⟨v₂, hv₂, h⟩ := bind_eq_ok h
  cases h
  rcases refineEnum_eq_ok hv₁ with ⟨rfl, -⟩ | ⟨values, rfl, -⟩ <;>
    rcases setExcluded_eq_ok hv₂ with ⟨rfl, -⟩ | ⟨x, a, rfl, -, -⟩ <;> exact ⟨rfl, rfl⟩

theorem compileTyped_agree (hx : (Json.object node).references = []) (c d : Context)
    (t : TypeName) : Agree (compileTyped c.path (childOf c) node t)
      (compileTyped d.path (childOf d) node t) :=
  (congruence_agree c.path d.path).compileTyped
    (fun segments _ hy => childOf_agree hy c d segments segments) (Like.refl node)
    ((goodValues_of_references hx).typed t)

theorem HasTypeOnly.flagNull_eq (h : HasTypeOnly t node)
    (hx : (Json.object node).references = [])
    (hv : Schema.compileNode c (.object (flagNull node)) = .ok v)
    (hu : Schema.compileNode d (.object node) = .ok u) : v = u.withNullable := by
  rw [h.compileNode_flagNull] at hv
  rw [h.compileNode] at hu
  obtain ⟨w, hw, hv⟩ := bind_eq_ok hv
  obtain ⟨w', hw', hu⟩ := bind_eq_ok hu
  cases compileTyped_agree hx c d t w w' hw hw'
  refine finish_withNullable (fun y hy => ?_) hv hu
  exact childOf_agree ((goodValues_of_references hx).value (by decide) hy) c d _ _

theorem HasTypeOnly.eval_null (h : HasTypeOnly t node) (ht : t ≠ .null)
    (hu : Schema.compileNode c (.object node) = .ok u) : u.eval .null = none := by
  rw [h.compileNode] at hu
  obtain ⟨w, hw, hu⟩ := bind_eq_ok hu
  obtain ⟨s, rfl, hs⟩ := compileTyped_produces t w hw
  obtain ⟨hshape, hnullable⟩ := finish_keeps hu
  refine Option.not_isSome_iff_eq_none.1 fun hnull => ?_
  rcases Validator.accepts_iff.1 hnull with ⟨hn, -⟩ | ⟨ha, -⟩
  · rw [hnullable] at hn
    cases hn
  · rw [hshape] at ha
    have hholds := holds_of_accepts hs ha
    cases t with
    | null => exact ht rfl
    | object | array | string | number | integer | boolean => simp [TypeName.Holds] at hholds

theorem references_flagNull (hx : (Json.object node).references = []) :
    (Json.object (flagNull node)).references = [] := by
  refine List.subset_nil.1 (Json.referencesOfMembers_subset_iff.2 fun m hm => ?_)
  rcases Json.mem_put hm with rfl | hm
  · exact ⟨fun he => absurd he (by decide), List.Subset.refl _⟩
  · exact hx ▸ Json.referencesOfMembers_subset_iff.1 (List.Subset.refl _) m hm

theorem compileNode_nullSchema (c : Context) :
    compileNode c nullSchema = .ok (.ofShape .null) := by
  rw [compileNode_eq]
  rfl

theorem eval_union_null (hu : u.eval .null = none) (x : Json) :
    (Validator.ofShape (.union [u, .ofShape .null])).eval x = u.withNullable.eval x := by
  rw [Validator.eval_withNullable, Validator.eval_ofShape, Shape.eval, evalFirst, evalFirst,
    evalFirst, Validator.eval_ofShape, Shape.eval]
  cases x with
  | null =>
      rw [hu]
      rfl
  | bool | number | string | array | object => simp [Json.isNull, keepIf]

/-- Only an array is merged with null, and it says nothing but its items. -/
theorem HasTypeOnly.merged (h : HasTypeOnly t node) (ht : t ≠ .null) {merged : Members}
    (hm : mergeAlternatives? [.object node, nullSchema] = some merged) :
    t = .array ∧ Like node merged ∧ Form.ofTypeOrConst merged = .ok (.types [.array, .null]) ∧
      ∀ key, key ∉ mergeableKeys → node.lookup key = none := by
  obtain ⟨names, items, hp, harray, hmerged⟩ := mergeAlternatives?_eq_some hm
  obtain ⟨ns, hns, hp⟩ := Option.bind_eq_some_iff.1 hp
  have hname : ns = [t.name] := by
    rw [mergeableTypes?, h.type] at hns
    split at hns
    · exact (Option.some.inj hns).symm
    · cases hns
  have hother : "null" ≠ t.name := fun he => ht (TypeName.name_injective he.symm)
  have hall : names = [t.name, "null"] ∧ items = node.lookup "items" := by
    subst hname
    have hp : mergeParts? [nullSchema] [t.name] (node.lookup "items") = some (names, items) := hp
    have hnull : mergeableTypes? [("type", .string "null")] = some ["null"] := by decide
    simpa [mergeParts?, nullSchema, hnull, hother, List.lookup_cons, eq_comm] using hp
  obtain ⟨rfl, rfl⟩ := hall
  have hkeys : ∀ key, key ∉ mergeableKeys → node.lookup key = none :=
    fun key hk => absent_of_mergeable hns hk
  have htype : t = .array := by
    rcases List.mem_cons.1 harray with he | he
    · exact TypeName.name_injective he.symm
    · simp at he
  subst htype
  refine ⟨rfl, fun key hk => ?_, ?_, hkeys⟩
  · by_cases hi : key = "items"
    · subst hi
      rw [hmerged]
      cases node.lookup "items" <;> rfl
    · have hne : key ≠ "type" := fun he => hk (he ▸ List.mem_cons_self ..)
      have hnot : key ∉ mergeableKeys := by
        simp only [unreadKeys, modifierKeys, mergeableKeys, List.mem_cons, List.not_mem_nil,
          not_or, or_false] at hk ⊢
        tauto
      rw [lookup_merged hm hi hne, hkeys key hnot]
  · have hconst : merged.lookup "const" = none := lookup_merged hm (by decide) (by decide)
    have hlookup : merged.lookup "type" = some (typeValue ["array", "null"]) := by
      rw [hmerged]
      cases node.lookup "items" <;> rfl
    rw [Form.ofTypeOrConst, hconst, hlookup]
    rfl

theorem HasTypeOnly.eval_merged (h : HasTypeOnly t node) (ht : t ≠ .null)
    (hx : (Json.object node).references = []) {merged : Members}
    (hm : mergeAlternatives? [.object node, nullSchema] = some merged)
    (hv : Schema.compileNode d (.object (flagNull node)) = .ok v)
    (hw : compileMerged c.path (childOf c) merged = .ok w) (x : Json) : v.eval x = w.eval x := by
  obtain ⟨rfl, hlike, hf, hkeys⟩ := h.merged ht hm
  rw [compileMerged, hf] at hw
  change compileTypes c.path (childOf c) merged [.array, .null] = .ok w at hw
  rw [compileTypes_null ht, ← hlike.compileTyped] at hw
  obtain ⟨a, ha, rfl⟩ := map_eq_ok hw
  rw [h.compileNode_flagNull] at hv
  obtain ⟨b, hb, hv⟩ := bind_eq_ok hv
  cases compileTyped_agree hx c d .array a b ha hb
  have habsent : ∀ key ∈ ["enum", "not"], node.lookup key = none :=
    fun key hk => hkeys key (by revert key; decide)
  cases (finish_of_absent habsent _).symm.trans hv
  exact Validator.eval_congr ⟨rfl, rfl, rfl, rfl⟩ x

theorem HasTypeOnly.eval_orNull (h : HasTypeOnly t node) (ht : t ≠ .null)
    (hx : (Json.object node).references = [])
    (hv : Schema.compileNode d (.object (flagNull node)) = .ok v)
    (hw : Schema.compileNode c (.object (orNull node)) = .ok w) (x : Json) :
    v.eval x = w.eval x := by
  have hf : Form.ofNode (orNull node) = .ok (.anyOf [.object node, nullSchema]) := rfl
  have hr : ∀ reference, Form.anyOf [.object node, nullSchema] ≠ .ref reference := by
    intro reference he
    cases he
  have hm : ∀ key ∈ modifierKeys, (orNull node).lookup key = none := by
    intro key hk
    have hne : key ≠ "anyOf" := by
      rintro rfl
      revert hk
      decide
    rw [orNull, List.lookup_cons, beq_eq_false_iff_ne.2 hne]
    rfl
  rw [compileNode_eq, compileStep, compileMembers_of_unmodified hf hr hm, compileForm,
    compileAnyOf] at hw
  split at hw
  next merged hmerged => exact h.eval_merged ht hx hmerged hv hw x
  next =>
    obtain ⟨vs, hvs, rfl⟩ := map_eq_ok hw
    obtain ⟨u, hu, hvs⟩ := bind_eq_ok hvs
    obtain ⟨us, hus, hvs⟩ := bind_eq_ok hvs
    obtain ⟨n, hn, hus⟩ := bind_eq_ok hus
    cases hus
    cases hvs
    obtain ⟨c₁, -, hu⟩ := bind_eq_ok hu
    obtain ⟨c₂, -, hn⟩ := bind_eq_ok hn
    cases (compileNode_nullSchema c₂).symm.trans hn
    rw [h.flagNull_eq hx hv hu]
    exact (eval_union_null (h.eval_null ht hu) x).symm

end Spellings

/-- Null among the types and the flag make one validator, and the alternative to null one that
accepts the same values with the same outputs, wherever each of them compiles. -/
theorem parse_of_nullSpellings {t : TypeName} {node : Members} (ht : t ≠ .null)
    (htype : node.lookup "type" = some (.string t.name))
    (ha : ∀ key ∈ ["anyOf", "oneOf", "allOf", "$ref", "const", "nullable"], node.lookup key = none)
    (hx : (Json.object node).references = []) {c d e : Context} {u v w : Validator}
    (hu : compileNode c (.object (listNull t node)) = .ok u)
    (hv : compileNode d (.object (flagNull node)) = .ok v)
    (hw : compileNode e (.object (orNull node)) = .ok w) :
    u = v ∧ ∀ x, (v.parse x).toOption = (w.parse x).toOption := by
  have h : HasTypeOnly t node := ⟨htype, fun key hk => ha key (by revert key; decide)⟩
  refine ⟨?_, fun x => ?_⟩
  · rw [h.compileNode_listNull ht, ← h.compileNode_flagNull] at hu
    exact compileNode_agree (references_flagNull hx) c d u v hu hv
  · rw [Validator.toOption_parse, Validator.toOption_parse, h.eval_orNull ht hx hv hw]

def letterNode : Members :=
  [("enum", .array [.string "a", .string "b"]), ("minLength", .int 1),
    ("not", .object [("const", .string "b")]), ("type", .string "string")]

def letter : Validator :=
  { shape := .string [⟨.minLength 1, none⟩], allowed := some [.string "a", .string "b"],
    excluded := some (.ofShape (.literal (.string "b"))) }

def letterOrNull : Validator := .ofShape (.union [letter, .ofShape .null])

theorem parse_of_nullSpellings_letter :
    compile (.object (listNull .string letterNode)) {} [] = .ok letter.withNullable ∧
      compile (.object (flagNull letterNode)) {} [] = .ok letter.withNullable ∧
      compile (.object (orNull letterNode)) {} [] = .ok letterOrNull ∧
      ∀ x, (letter.withNullable.parse x).toOption = (letterOrNull.parse x).toOption := by
  have hu : compile (.object (listNull .string letterNode)) {} [] = .ok letter.withNullable := by
    with_unfolding_all rfl
  have hv : compile (.object (flagNull letterNode)) {} [] = .ok letter.withNullable := by
    with_unfolding_all rfl
  have hw : compile (.object (orNull letterNode)) {} [] = .ok letterOrNull := by
    with_unfolding_all rfl
  exact ⟨hu, hv, hw, (parse_of_nullSpellings (by decide) rfl (by decide) rfl hu hv hw).2⟩

end Schema

end SchemaCheck
