import Mathlib.Logic.Relation
import SchemaCheck.Proofs.Schema.Children
import SchemaCheck.Proofs.Schema.Context

namespace SchemaCheck.Schema

open Json (Members)

theorem mergeAlternatives?_eq_some {xs : List Json} {merged : Members}
    (h : mergeAlternatives? xs = some merged) : ∃ names items,
      mergeParts? xs [] none = some (names, items) ∧ "array" ∈ names ∧
        merged = items.toList.map (Prod.mk "items") ++ [("type", typeValue names)] := by
  obtain ⟨⟨names, items⟩, hp, h⟩ := Option.bind_eq_some_iff.1 h
  simp only at h
  split at h
  next ha =>
    refine ⟨names, items, hp, List.contains_iff_mem.1 ha, ?_⟩
    cases items with
    | none | some x =>
        cases h
        rfl
  next => cases h

theorem lookup_merged {xs : List Json} {merged : Members} (h : mergeAlternatives? xs = some merged)
    {key : String} (hi : key ≠ "items") (ht : key ≠ "type") : merged.lookup key = none := by
  obtain ⟨names, items, -, -, rfl⟩ := mergeAlternatives?_eq_some h
  cases items <;> simp [List.lookup_cons, beq_eq_false_iff_ne.2 hi, beq_eq_false_iff_ne.2 ht]

theorem hasKey_type_merged {xs : List Json} {merged : Members}
    (h : mergeAlternatives? xs = some merged) : Json.hasKey "type" merged = true := by
  obtain ⟨names, items, -, -, rfl⟩ := mergeAlternatives?_eq_some h
  cases items <;> simp [Json.hasKey, List.lookup_cons]

theorem ofNode_merged {xs : List Json} {merged : Members}
    (h : mergeAlternatives? xs = some merged) :
    Form.ofNode merged = Form.ofTypeOrConst merged := by
  have hl : ∀ key ∈ leadingKeys, merged.lookup key = none := by
    intro key hk
    apply lookup_merged h <;> rintro rfl <;> revert hk <;> decide
  rw [ofNode_of_absent hl, Form.untypedEnum?, hasKey_type_merged h]
  rfl

theorem form_ofType {x : Json} {form : Form} (h : Form.ofType x = .ok form) :
    (∃ t, form = .typed t) ∨ ∃ ts, form = .types ts := by
  unfold Form.ofType at h
  split at h
  next =>
    obtain ⟨t, -, rfl⟩ := map_eq_ok h
    exact .inl ⟨t, rfl⟩
  next =>
    obtain ⟨names, -, h⟩ := bind_eq_ok h
    obtain ⟨ts, -, h⟩ := bind_eq_ok h
    unfold Form.ofTypes at h
    split at h <;> cases h
    · exact .inl ⟨_, rfl⟩
    · exact .inr ⟨_, rfl⟩
  next => cases h

theorem form_merged {xs : List Json} {merged : Members} (h : mergeAlternatives? xs = some merged)
    {form : Form} (hf : Form.ofNode merged = .ok form) :
    (∃ t, form = .typed t) ∨ ∃ ts, form = .types ts := by
  have hc : merged.lookup "const" = none := lookup_merged h (by decide) (by decide)
  obtain ⟨y, hy⟩ := Option.isSome_iff_exists.1 (hasKey_type_merged h)
  rw [ofNode_merged h, Form.ofTypeOrConst, hc, hy] at hf
  exact form_ofType hf

theorem absent_of_types {node : Members} {ts : List TypeName}
    (h : Form.ofNode node = .ok (.types ts)) :
    ∀ key ∈ "const" :: leadingKeys, node.lookup key = none := by
  have hn : ∀ {key x make}, (nonEmptyArray key x).map make = .ok (Form.types ts) →
      ∃ xs, Form.types ts = make xs := by
    intro key x make h
    obtain ⟨xs, -, -, he⟩ := nonEmptyArray_map_eq_ok h
    exact ⟨xs, he⟩
  unfold Form.ofNode at h
  split at h
  next =>
    obtain ⟨xs, he⟩ := hn h
    cases he
  next hany =>
    split at h
    next =>
      obtain ⟨xs, he⟩ := hn h
      cases he
    next hone =>
      split at h
      next =>
        obtain ⟨xs, he⟩ := hn h
        cases he
      next hall =>
        split at h
        next =>
          unfold Form.ofReference at h
          split at h <;> cases h
        next href =>
          split at h
          next =>
            unfold Form.ofEnum at h
            split at h <;> cases h
          next =>
            unfold Form.ofTypeOrConst at h
            split at h
            next => cases h
            next hconst =>
              intro key hk
              simp only [leadingKeys, List.mem_cons, List.not_mem_nil, or_false] at hk
              rcases hk with rfl | rfl | rfl | rfl | rfl <;> assumption

theorem ofNode_narrow {node : Members} {ts : List TypeName}
    (h : Form.ofNode node = .ok (.types ts)) (t : TypeName) :
    Form.ofNode (narrow node t) = .ok (.typed t) := by
  have habsent : ∀ key ∈ "const" :: leadingKeys, (narrow node t).lookup key = none := by
    intro key hk
    have hu : key ∉ unreadKeys := by
      revert key
      decide
    rw [← like_narrow node t key hu, absent_of_types h key hk]
  rw [List.forall_mem_cons] at habsent
  exact ofNode_typed habsent.2 habsent.1 (Json.lookup_put_self ..)

theorem compileMembers_of_unmodified {path : String} {child : ChildCompiler}
    {follow : String → Result} {node : Members} {form : Form} (hf : Form.ofNode node = .ok form)
    (hr : ∀ reference, form ≠ .ref reference)
    (hm : ∀ key ∈ modifierKeys, node.lookup key = none) :
    compileMembers path child follow node = compileForm path child follow node form := by
  have hmodify : ∀ v, modify path child node form v = .ok v := by
    intro v
    rw [modify_of_absent (hm _ (by decide)) (.inr (hm _ (by decide))), setExcluded,
      hm "not" (by decide)]
  have hmetadata : ∀ v, withMetadata node v = v := by
    intro v
    rw [withMetadata, hm "default" (by decide), hm "description" (by decide),
      hm "title" (by decide)]
    cases v
    rfl
  rw [compileMembers_eq hf hr]
  cases compileForm path child follow node form with
  | error e => rfl
  | ok v =>
      change (modify path child node form v >>= fun v => .ok (withMetadata node v)) = _
      rw [hmodify]
      exact congrArg Except.ok (hmetadata v)

variable {path : String} {child : ChildCompiler} {follow : String → Result}

theorem compileMembers_merged {xs : List Json} {merged : Members}
    (h : mergeAlternatives? xs = some merged) :
    compileMembers path child follow merged = compileMerged path child merged := by
  have hm : ∀ key ∈ modifierKeys, merged.lookup key = none := by
    intro key hk
    apply lookup_merged h <;> rintro rfl <;> revert hk <;> decide
  rw [compileMerged, ← ofNode_merged h]
  cases hf : Form.ofNode merged with
  | error complaint =>
      rw [compileMembers, hf]
      rfl
  | ok form =>
      rcases form_merged h hf with ⟨t, rfl⟩ | ⟨ts, rfl⟩
      · exact compileMembers_of_unmodified hf (by simp) hm
      · exact compileMembers_of_unmodified hf (by simp) hm

theorem compileMembers_narrow {node : Members} {ts : List TypeName}
    (h : Form.ofNode node = .ok (.types ts)) (t : TypeName) :
    compileMembers path child follow (narrow node t) =
      compileTyped path child (narrow node t) t := by
  refine compileMembers_of_unmodified (ofNode_narrow h t) (by simp) ?_
  intro key hk
  have ht : key ≠ "type" := by
    revert key
    decide
  rw [narrow, Json.lookup_put_of_ne ht, Json.lookup_drop, if_pos hk]

/-- Compiling the first value calls for compiling the second. -/
inductive Calls (target? : String → Option Json) : Json → Json → Prop
  | alternative {node : Members} {xs : List Json} {x : Json}
      (form : Form.ofNode node = .ok (.anyOf xs)) (apart : mergeAlternatives? xs = none)
      (mem : x ∈ xs) : Calls target? (.object node) x
  | merged {node : Members} {xs : List Json} {merged : Members}
      (form : Form.ofNode node = .ok (.anyOf xs)) (merge : mergeAlternatives? xs = some merged) :
      Calls target? (.object node) (.object merged)
  | choice {node : Members} {xs : List Json} {x : Json}
      (form : Form.ofNode node = .ok (.oneOf xs)) (mem : x ∈ xs) : Calls target? (.object node) x
  | branch {node : Members} {xs : List Json} {x : Json}
      (form : Form.ofNode node = .ok (.allOf xs)) (mem : x ∈ xs) : Calls target? (.object node) x
  | part {node : Members} {t : TypeName} {x : Json} (form : Form.ofNode node = .ok (.typed t))
      (mem : x ∈ typedChildren node t) : Calls target? (.object node) x
  | narrowed {node : Members} {ts : List TypeName} {t : TypeName}
      (form : Form.ofNode node = .ok (.types ts)) (mem : t ∈ branchTypes ts) :
      Calls target? (.object node) (.object (narrow node t))
  | excluded {node : Members} {form : Form} {x : Json} (read : Form.ofNode node = .ok form)
      (own : ∀ reference, form ≠ .ref reference) (lookup : node.lookup "not" = some x) :
      Calls target? (.object node) x
  | target {x y : Json} {reference : String} (refers : RefersTo x reference)
      (resolves : target? reference = some y) : Calls target? x y

theorem mem_typedChildren_of_calls {target? : String → Option Json} {node : Members} {t : TypeName}
    (hf : Form.ofNode node = .ok (.typed t)) (hn : node.lookup "not" = none) {y : Json}
    (h : Calls target? (.object node) y) : y ∈ typedChildren node t := by
  rcases h with (⟨form, -, -⟩ | ⟨form, -⟩ | ⟨form, -⟩ | ⟨form, -⟩ | ⟨form, mem⟩ | ⟨form, -⟩ |
    ⟨-, -, lookup⟩ | ⟨⟨_, he, form⟩, -⟩)
  · cases hf.symm.trans form
  · cases hf.symm.trans form
  · cases hf.symm.trans form
  · cases hf.symm.trans form
  · cases hf.symm.trans form
    exact mem
  · cases hf.symm.trans form
  · cases hn.symm.trans lookup
  · cases he
    cases hf.symm.trans form

theorem not_calls_of_bare {target? : String → Option Json} {node : Members} {t : TypeName}
    (hf : Form.ofNode node = .ok (.typed t)) (hc : typedChildren node t = [])
    (hn : node.lookup "not" = none) (y : Json) : ¬ Calls target? (.object node) y := by
  intro h
  have hm := mem_typedChildren_of_calls hf hn h
  rw [hc] at hm
  cases hm

theorem target_of_calls {target? : String → Option Json} {x y : Json} {reference : String}
    (hx : RefersTo x reference) (h : Calls target? x y) : target? reference = some y := by
  obtain ⟨node, rfl, hf⟩ := hx
  rcases h with (⟨form, -, -⟩ | ⟨form, -⟩ | ⟨form, -⟩ | ⟨form, -⟩ | ⟨form, -⟩ | ⟨form, -⟩ |
    ⟨read, own, -⟩ | ⟨⟨_, he, form⟩, resolves⟩)
  · cases hf.symm.trans form
  · cases hf.symm.trans form
  · cases hf.symm.trans form
  · cases hf.symm.trans form
  · cases hf.symm.trans form
  · cases hf.symm.trans form
  · cases hf.symm.trans read
    exact absurd rfl (own reference)
  · cases he
    cases hf.symm.trans form
    exact resolves

/-- Compiling the first value comes to compiling the second, in any number of steps. -/
abbrev Reaches (target? : String → Option Json) : Json → Json → Prop :=
  Relation.ReflTransGen (Calls target?)

section Reaches

variable {target? : String → Option Json}

theorem reaches_of_typeChildren {node : Members} {form : Form} (h : Form.ofNode node = .ok form)
    {x : Json} (hx : x ∈ typeChildren node form) : Reaches target? (.object node) x := by
  cases form with
  | typed t => exact .single (.part h hx)
  | types ts =>
      obtain ⟨t, ht, hx⟩ := List.mem_flatMap.1 hx
      rw [(like_narrow node t).typedChildren] at hx
      exact .head (.narrowed h ht) (.single (.part (ofNode_narrow h t) hx))
  | anyOf | oneOf | allOf | ref | enum | const | any => cases hx

theorem reaches_of_formChildren {node : Members} {form : Form} (h : Form.ofNode node = .ok form)
    {x : Json} (hx : x ∈ formChildren node form) : Reaches target? (.object node) x := by
  cases form with
  | anyOf xs =>
      rw [formChildren] at hx
      split at hx
      next merged hm =>
        rw [mergedChildren, ← ofNode_merged hm] at hx
        split at hx
        next form hf => exact .head (.merged h hm) (reaches_of_typeChildren hf hx)
        next => cases hx
      next hm => exact .single (.alternative h hm hx)
  | oneOf xs => exact .single (.choice h hx)
  | allOf xs => exact .single (.branch h hx)
  | typed t => exact reaches_of_typeChildren h hx
  | types ts => exact reaches_of_typeChildren h hx
  | ref | enum | const | any => cases hx

theorem reaches_of_children {x y : Json} (h : y ∈ children x) : Reaches target? x y := by
  cases x with
  | object node =>
      cases hf : Form.ofNode node with
      | error complaint => simp [children, hf] at h
      | ok form =>
          by_cases hr : ∃ reference, form = .ref reference
          · obtain ⟨reference, rfl⟩ := hr
            simp [children, hf] at h
          · have hr : ∀ reference, form ≠ .ref reference := fun reference he => hr ⟨reference, he⟩
            rw [children_of_form hf hr] at h
            rcases List.mem_append.1 h with h | h
            · exact reaches_of_formChildren hf h
            · exact .single (.excluded hf hr (Option.mem_toList.1 h))
  | null | bool b | number n | string s | array items => cases h

end Reaches

def Compiles (child : ChildCompiler) (x : Json) : Prop := ∃ segments v, child segments x = .ok v

section Success

variable {node : Members} {v : Validator}

theorem compiles_of_compileEach {keyword : String} {i : Nat} {xs : List Json} {vs : List Validator}
    (h : compileEach child keyword i xs = .ok vs) : ∀ x ∈ xs, Compiles child x := by
  induction xs generalizing i vs with
  | nil => exact List.forall_mem_nil _
  | cons x rest ih =>
      obtain ⟨v, hv, h⟩ := bind_eq_ok h
      obtain ⟨ws, hws, -⟩ := bind_eq_ok h
      exact List.forall_mem_cons.2 ⟨⟨_, v, hv⟩, ih hws⟩

theorem compiles_of_compileProperties {required : List String} {properties : Members}
    {fields : List Field} (h : compileProperties child required properties = .ok fields) :
    ∀ x ∈ properties.map (·.2), Compiles child x := by
  induction properties generalizing fields with
  | nil => exact List.forall_mem_nil _
  | cons m rest ih =>
      obtain ⟨v, hv, h⟩ := bind_eq_ok h
      obtain ⟨ws, hws, -⟩ := bind_eq_ok h
      exact List.forall_mem_cons.2 ⟨⟨_, v, hv⟩, ih hws⟩

theorem compiles_of_compileArray (h : compileArray path child node = .ok v) :
    ∀ x ∈ arrayChildren node, Compiles child x := by
  intro x hx
  rw [arrayChildren] at hx
  split at hx
  next positions hi =>
    rw [compileArray, hi] at h
    obtain ⟨vs, hvs, -⟩ := bind_eq_ok h
    exact compiles_of_compileEach hvs x hx
  next hi =>
    rw [compileArray] at h
    split at h
    next positions hi' => exact absurd hi' (hi positions)
    next =>
      cases hp : node.lookup "prefixItems" with
      | none =>
          simp only [hp] at h hx
          obtain ⟨element, he, -⟩ := bind_eq_ok h
          rw [compileElement, Option.mem_toList.1 hx] at he
          exact ⟨_, element, he⟩
      | some y =>
          cases y with
          | array positions =>
              simp only [hp] at h hx
              obtain ⟨vs, hvs, -⟩ := bind_eq_ok h
              exact compiles_of_compileEach hvs x hx
          | null | bool b | number n | string s | object members =>
              simp only [hp] at hx
              cases hx

theorem compiles_of_compileFields {required : List String} {fields : List Field}
    (h : compileFields path child required node = .ok fields) :
    ∀ x ∈ propertyChildren node, Compiles child x := by
  rw [compileFields] at h
  rw [propertyChildren]
  split at h
  next hp =>
    rw [hp]
    exact List.forall_mem_nil _
  next properties hp =>
    rw [hp]
    exact compiles_of_compileProperties h
  next => cases h

theorem compiles_of_compileUnknown {unknown : UnknownKeys}
    (h : compileUnknown path child node = .ok unknown) :
    ∀ x ∈ additionalChildren node, Compiles child x := by
  intro x hx
  rw [additionalChildren] at hx
  split at hx
  next y hy =>
    obtain rfl := List.mem_singleton.1 hx
    rw [compileUnknown, hy] at h
    obtain ⟨v, hv, -⟩ := bind_eq_ok h
    exact ⟨_, v, hv⟩
  next => cases hx

theorem compiles_of_compileTyped {t : TypeName} (h : compileTyped path child node t = .ok v) :
    ∀ x ∈ typedChildren node t, Compiles child x := by
  cases t with
  | object =>
      obtain ⟨required, -, h⟩ := bind_eq_ok h
      obtain ⟨fields, hfields, h⟩ := bind_eq_ok h
      obtain ⟨unknown, hunknown, -⟩ := bind_eq_ok h
      rw [typedChildren, List.forall_mem_append]
      exact ⟨compiles_of_compileFields hfields, compiles_of_compileUnknown hunknown⟩
  | array => exact compiles_of_compileArray h
  | string | number | integer | boolean | null => exact List.forall_mem_nil _

theorem compiles_of_compileBranches {types : List TypeName} {vs : List Validator}
    (h : compileBranches path child node types = .ok vs) :
    ∀ t ∈ types, ∃ v, compileTyped path child (narrow node t) t = .ok v := by
  induction types generalizing vs with
  | nil => exact List.forall_mem_nil _
  | cons t rest ih =>
      obtain ⟨v, hv, h⟩ := bind_eq_ok h
      obtain ⟨ws, hws, -⟩ := bind_eq_ok h
      exact List.forall_mem_cons.2 ⟨⟨v, hv⟩, ih hws⟩

theorem compiles_of_modify {form : Form} {w : Validator}
    (h : modify path child node form w = .ok v) {x : Json} (hx : node.lookup "not" = some x) :
    Compiles child x := by
  rw [modify_eq] at h
  obtain ⟨a, -, h⟩ := bind_eq_ok h
  obtain ⟨b, -, h⟩ := bind_eq_ok h
  rw [setExcluded, hx] at h
  obtain ⟨excluded, hv, -⟩ := bind_eq_ok h
  exact ⟨_, excluded, hv⟩

theorem forms_of_compileMembers {form : Form} (hf : Form.ofNode node = .ok form)
    (hr : ∀ reference, form ≠ .ref reference)
    (h : compileMembers path child follow node = .ok v) :
    (∃ w, compileForm path child follow node form = .ok w) ∧
      ∀ x, node.lookup "not" = some x → Compiles child x := by
  rw [compileMembers_eq hf hr] at h
  obtain ⟨w, hw, h⟩ := bind_eq_ok h
  obtain ⟨u, hu, -⟩ := bind_eq_ok h
  exact ⟨⟨w, hw⟩, fun x hx => compiles_of_modify hu hx⟩

end Success

/-- The value compiles in a context that comes from `c` and has entered no less. -/
def Reached (c : Context) (x : Json) : Prop :=
  ∃ d v, compileNode d x = .ok v ∧ d.root = c.root ∧ d.definitions = c.definitions ∧
    c.entered ⊆ d.entered

namespace Reached

variable {c d : Context} {x y : Json} {v : Validator}

theorem refl (h : compileNode c x = .ok v) : Reached c x :=
  ⟨c, v, h, rfl, rfl, List.Subset.refl _⟩

theorem of_compiles (h : Compiles (childOf c) x) : Reached c x := by
  obtain ⟨segments, v, h⟩ := h
  obtain ⟨d, hd, hv⟩ := bind_eq_ok h
  obtain ⟨-, rfl⟩ := Context.descend_eq_ok hd
  exact ⟨_, v, hv, rfl, rfl, List.Subset.refl _⟩

end Reached

theorem form_of_compileNode {c : Context} {node : Members} {v : Validator}
    (h : compileNode c (.object node) = .ok v) {form : Form} (hf : Form.ofNode node = .ok form)
    (hr : ∀ reference, form ≠ .ref reference) :
    (∃ w, compileForm c.path (childOf c) (targetOf c) node form = .ok w) ∧
      ∀ x, node.lookup "not" = some x → Compiles (childOf c) x := by
  rw [compileNode_eq] at h
  exact forms_of_compileMembers hf hr h

theorem compileNode_of_ref {x : Json} {reference : String} (h : RefersTo x reference)
    (c : Context) : compileNode c x = targetOf c reference := by
  obtain ⟨node, rfl, hf⟩ := h
  rw [compileNode_eq, compileStep, compileMembers, hf]
  rfl

theorem Reached.of_calls {c : Context} {x y : Json} {v : Validator} (hv : compileNode c x = .ok v)
    (h : Calls c.target? x y) : Reached c y := by
  cases h with
  | alternative hf hm hx =>
      obtain ⟨⟨w, hw⟩, -⟩ := form_of_compileNode hv hf (by simp)
      simp only [compileForm, compileAnyOf, hm] at hw
      obtain ⟨vs, hvs, -⟩ := map_eq_ok hw
      exact .of_compiles (compiles_of_compileEach hvs y hx)
  | merged hf hm =>
      obtain ⟨⟨w, hw⟩, -⟩ := form_of_compileNode hv hf (by simp)
      simp only [compileForm, compileAnyOf, hm] at hw
      refine .refl (v := w) ?_
      rw [compileNode_eq, compileStep, compileMembers_merged hm, hw]
  | choice hf hx =>
      obtain ⟨⟨w, hw⟩, -⟩ := form_of_compileNode hv hf (by simp)
      obtain ⟨vs, hvs, -⟩ := map_eq_ok hw
      exact .of_compiles (compiles_of_compileEach hvs y hx)
  | branch hf hx =>
      obtain ⟨⟨w, hw⟩, -⟩ := form_of_compileNode hv hf (by simp)
      obtain ⟨vs, hvs, -⟩ := map_eq_ok hw
      exact .of_compiles (compiles_of_compileEach hvs y hx)
  | part hf hx =>
      obtain ⟨⟨w, hw⟩, -⟩ := form_of_compileNode hv hf (by simp)
      exact .of_compiles (compiles_of_compileTyped hw y hx)
  | @narrowed node ts t hf ht =>
      obtain ⟨⟨w, hw⟩, -⟩ := form_of_compileNode hv hf (by simp)
      obtain ⟨vs, hvs, -⟩ := bind_eq_ok hw
      obtain ⟨u, hu⟩ := compiles_of_compileBranches hvs t ht
      refine .refl (v := u) ?_
      rw [compileNode_eq, compileStep, compileMembers_narrow hf, hu]
  | excluded hf hr hx =>
      exact .of_compiles ((form_of_compileNode hv hf hr).2 y hx)
  | @target _ _ reference hx ht =>
      rw [compileNode_of_ref hx] at hv
      obtain ⟨⟨d, target⟩, hd, hv⟩ := bind_eq_ok hv
      obtain ⟨he, htarget⟩ := Context.follow_eq_ok hd
      cases ht.symm.trans htarget
      obtain ⟨-, -, rfl⟩ := Context.enter_eq_ok he
      exact ⟨_, v, hv, rfl, rfl, List.subset_append_left _ _⟩

/-- If a value compiles, so does all that it leads to, in contexts that remember the way. -/
theorem Reached.of_reaches {c : Context} {x y : Json} {v : Validator}
    (hv : compileNode c x = .ok v) (h : Reaches c.target? x y) : Reached c y := by
  induction h with
  | refl => exact .refl hv
  | tail _ hyz ih =>
      obtain ⟨d, w, hw, hroot, hdefinitions, he⟩ := ih
      rw [← Context.target?_congr hroot hdefinitions] at hyz
      obtain ⟨e, u, hu, hroot', hdefinitions', he'⟩ := Reached.of_calls hw hyz
      exact ⟨e, u, hu, hroot'.trans hroot, hdefinitions'.trans hdefinitions,
        List.Subset.trans he he'⟩

end SchemaCheck.Schema
