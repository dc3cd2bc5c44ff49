import SchemaCheck.Proofs.Json.Nesting
import SchemaCheck.Proofs.Schema.Children
import SchemaCheck.Proofs.Schema.Result

namespace SchemaCheck.Schema

open Json (Members)

/-- A relation between results of compilations at the paths `p` and `q` that steps pass on. -/
structure Congruence (p q : String) (R : (α : Type) → Except Error α → Except Error α → Prop) :
    Prop where
  ok : ∀ {α : Type} (a : α), R α (.ok a) (.ok a)
  malformed : ∀ {α : Type} (complaint : Complaint),
    R α (.error (.malformed p complaint)) (.error (.malformed q complaint))
  invalidPattern : ∀ {α : Type} (source : String),
    R α (.error (.invalidPattern p source)) (.error (.invalidPattern q source))
  bind : ∀ {α β : Type} {r s : Except Error α} {k l : α → Except Error β},
    R α r s → (∀ a, R β (k a) (l a)) → R β (r >>= k) (s >>= l)

/-- What is good passes from a value to its parts, and every value of the node that may be compiled
is good. Types are not compiled. -/
structure GoodValues (Good : Json → Prop) (node : Members) : Prop where
  part : ∀ {x y : Json}, Json.Part x y → Good y → Good x
  value : ∀ {key : String} {x : Json}, key ≠ "type" → node.lookup key = some x → Good x

namespace GoodValues

variable {Good : Json → Prop} {node : Members}

theorem item (hg : GoodValues Good node) {x : Json} {items : List Json} (hy : Good (.array items))
    (h : x ∈ items) : Good x :=
  hg.part (.item h) hy

theorem member (hg : GoodValues Good node) {key : String} {x : Json} {members : Members}
    (hy : Good (.object members)) (h : (key, x) ∈ members) : Good x :=
  hg.part (.member h) hy

theorem narrow (hg : GoodValues Good node) (t : TypeName) : GoodValues Good (narrow node t) where
  part := hg.part
  value := by
    intro key x hk h
    rw [Schema.narrow, Json.lookup_put, if_neg hk, Json.lookup_drop] at h
    split at h
    · cases h
    · exact hg.value hk h

theorem merged (hg : GoodValues Good node) {xs : List Json} (hx : ∀ x ∈ xs, Good x)
    {merged : Members} (h : mergeAlternatives? xs = some merged) : GoodValues Good merged where
  part := hg.part
  value := by
    intro key x hk hl
    obtain ⟨alternative, ha, hi⟩ := items_of_merged h hk hl
    exact hg.member (hx _ ha) (Json.mem_of_lookup hi)

theorem array (hg : GoodValues Good node) : ∀ x ∈ arrayChildren node, Good x := by
  intro x hx
  rw [arrayChildren] at hx
  split at hx
  next xs hi => exact hg.item (hg.value (by decide) hi) hx
  next =>
    split at hx
    next xs hp => exact hg.item (hg.value (by decide) hp) hx
    next => cases hx
    next => exact hg.value (by decide) (Option.mem_toList.1 hx)

theorem typed (hg : GoodValues Good node) (t : TypeName) : ∀ x ∈ typedChildren node t, Good x := by
  intro x hx
  cases t with
  | object =>
      rcases List.mem_append.1 hx with hx | hx
      · rw [propertyChildren] at hx
        split at hx
        next properties hp =>
          obtain ⟨m, hm, rfl⟩ := List.mem_map.1 hx
          exact hg.member (hg.value (by decide) hp) hm
        next => cases hx
      · rw [additionalChildren] at hx
        split at hx
        next y hy =>
          obtain rfl := List.mem_singleton.1 hx
          exact hg.value (by decide) hy
        next => cases hx
  | array => exact hg.array x hx
  | string | number | integer | boolean | null => cases hx

theorem ofTypes (hg : GoodValues Good node) (form : Form) :
    ∀ x ∈ typeChildren node form, Good x := by
  intro x hx
  cases form with
  | typed t => exact hg.typed t x hx
  | types ts =>
      obtain ⟨t, -, hx⟩ := List.mem_flatMap.1 hx
      exact hg.typed t x hx
  | anyOf | oneOf | allOf | ref | enum | const | any => cases hx

theorem ofForm (hg : GoodValues Good node) {form : Form} (hr : form.ReadFrom node) :
    ∀ x ∈ formChildren node form, Good x := by
  intro x hx
  cases form with
  | anyOf xs =>
      have hxs : ∀ y ∈ xs, Good y := fun y hy => hg.item (hg.value (by decide) hr.1) hy
      rw [formChildren] at hx
      split at hx
      next merged hm =>
        rw [mergedChildren] at hx
        split at hx
        next form _ => exact (hg.merged hxs hm).ofTypes form x hx
        next => cases hx
      next => exact hxs x hx
  | oneOf xs | allOf xs => exact hg.item (hg.value (by decide) hr.1) hx
  | typed t => exact hg.typed t x hx
  | types ts => exact hg.ofTypes (.types ts) x hx
  | ref | enum | const | any => cases hx

end GoodValues

theorem good_of_children {Good : Json → Prop} (hp : ∀ x y, Json.Part x y → Good y → Good x)
    {value : Json} (hg : ∀ x, Json.Part x value → Good x) : ∀ x ∈ children value, Good x := by
  intro x hx
  cases value with
  | object node =>
      have hgood : GoodValues Good node :=
        ⟨fun hxy hy => hp _ _ hxy hy, fun _ hl => hg _ (.member (Json.mem_of_lookup hl))⟩
      rw [children] at hx
      split at hx
      next => cases hx
      next form _ hf =>
        rcases List.mem_append.1 hx with hx | hx
        · exact hgood.ofForm (Form.readFrom_of_ofNode hf) x hx
        · exact hgood.value (by decide) (Option.mem_toList.1 hx)
      next => cases hx
  | null | bool b | number n | string s | array items => cases hx

theorem RefersTo.mem_references {x : Json} {reference : String} (h : RefersTo x reference) :
    reference ∈ x.references := by
  obtain ⟨node, rfl, hf⟩ := h
  exact Json.mem_references (Form.readFrom_of_ofNode hf)

theorem Like.customMessage {node other : Members} (h : Like node other) {keyword : String}
    (hk : keyword ++ "Message" ∉ unreadKeys) :
    customMessage node keyword = customMessage other keyword := by
  rw [Schema.customMessage, Schema.customMessage, h _ hk, h "errorMessage" (by decide)]

/-- If failures of some kind pass from a part to the whole, results are the same unless the first is
such a failure. -/
theorem congruence_unless {Failed : {α : Type} → Except Error α → Prop} (path : String)
    (hf : ∀ {α β : Type} {r : Except Error α} (k : α → Except Error β),
      Failed r → Failed (r >>= k)) :
    Congruence path path fun _ r s => Failed r ∨ r = s where
  ok a := .inr rfl
  malformed complaint := .inr rfl
  invalidPattern source := .inr rfl
  bind := by
    intro α β r s k l h hk
    rcases h with h | rfl
    · exact .inl (hf k h)
    · cases r with
      | error e => exact .inr rfl
      | ok a => exact hk a

theorem congruence_errorsIn {Q : Error → Prop} {path : String}
    (hm : ∀ complaint, Q (.malformed path complaint))
    (hp : ∀ source, Q (.invalidPattern path source)) :
    Congruence path path fun _ r _ => ErrorsIn Q r where
  ok a := nofun
  malformed complaint := by
    rintro _ ⟨⟩
    exact hm complaint
  invalidPattern source := by
    rintro _ ⟨⟩
    exact hp source
  bind h hk := h.bind fun a _ => hk a

namespace Congruence

variable {p q : String} {R : (α : Type) → Except Error α → Except Error α → Prop}

theorem map {α β : Type} (h : Congruence p q R) {r s : Except Error α} (hr : R α r s) (f : α → β) :
    R β (r.map f) (s.map f) := by
  have he : ∀ t : Except Error α, t.map f = t >>= fun a => .ok (f a) := by
    intro t
    cases t <;> rfl
  rw [he r, he s]
  exact h.bind hr fun a => h.ok (f a)

theorem malformedAt {α : Type} (h : Congruence p q R) (c : Except Complaint α) :
    R α (malformedAt p c) (malformedAt q c) := by
  cases c with
  | ok a => exact h.ok a
  | error complaint => exact h.malformed complaint

section Checks

variable {node other : Members} (h : Congruence p q R) (hn : Like node other)
include h hn

theorem constraint {ρ : Type} {keyword : String}
    (hk : ∀ key ∈ [keyword, keyword ++ "Message"], key ∉ unreadKeys)
    (read : Json → Except Mistake (Option ρ)) :
    R _ (constraint node p keyword read) (constraint other q keyword read) := by
  rw [Schema.constraint, Schema.constraint, hn keyword (hk _ (by simp)),
    hn.customMessage (hk _ (by simp))]
  cases other.lookup keyword with
  | none => exact h.ok []
  | some x =>
      simp only
      rcases read x with m | rule
      · cases m with
        | badPattern source => exact h.invalidPattern source
        | notCount | notNumber | notBoolean | notString | notPositive => exact h.malformed _
      · cases rule with
        | none => exact h.ok []
        | some rule => exact h.ok _

theorem stringChecks : R _ (stringChecks node p) (stringChecks other q) := by
  refine h.bind (h.constraint hn (by decide) _) fun shortest => ?_
  refine h.bind (h.constraint hn (by decide) _) fun longest => ?_
  refine h.bind (h.constraint hn (by decide) _) fun pattern => ?_
  refine h.bind (h.constraint hn (by decide) _) fun format => ?_
  exact h.ok _

theorem exclude (side : Side) (checks : List (Check NumberRule)) :
    R _ (side.exclude node p checks) (side.exclude other q checks) := by
  have hk : ∀ key ∈ [side.keyword, side.keyword ++ "Message"], key ∉ unreadKeys := by
    cases side <;> decide
  have hadd := h.bind (h.constraint hn hk (bounded side.rule)) fun added => h.ok (checks ++ added)
  rw [Side.exclude, Side.exclude, hn _ (hk _ (by simp)), hn.customMessage (hk _ (by simp))]
  cases other.lookup side.keyword with
  | none => exact h.ok checks
  | some x =>
      cases x with
      | bool b => cases b <;> exact h.ok _
      | null | number n | string s | array items | object members => exact hadd

theorem numberChecks : R _ (numberChecks node p) (numberChecks other q) := by
  refine h.bind (h.constraint hn (by decide) _) fun least => ?_
  refine h.bind (h.constraint hn (by decide) _) fun greatest => ?_
  refine h.bind (h.exclude hn _ _) fun checks => ?_
  refine h.bind (h.exclude hn _ _) fun checks => ?_
  refine h.bind (h.constraint hn (by decide) _) fun step => ?_
  exact h.ok _

theorem arrayChecks : R _ (arrayChecks node p) (arrayChecks other q) := by
  refine h.bind (h.constraint hn (by decide) _) fun fewest => ?_
  refine h.bind (h.constraint hn (by decide) _) fun most => ?_
  refine h.bind (h.constraint hn (by decide) _) fun unique => ?_
  exact h.ok _

theorem objectChecks : R _ (objectChecks node p) (objectChecks other q) := by
  refine h.bind (h.constraint hn (by decide) _) fun fewest => ?_
  refine h.bind (h.constraint hn (by decide) _) fun most => ?_
  exact h.ok _

end Checks

theorem setNullable (h : Congruence p q R) (node : Members) (v : Validator) :
    R _ (setNullable p node v) (setNullable q node v) := by
  rw [Schema.setNullable, Schema.setNullable]
  cases node.lookup "nullable" with
  | none => exact h.ok v
  | some x =>
      cases x with
      | bool b => cases b <;> exact h.ok _
      | null | number n | string s | array items | object members => exact h.malformed _

theorem refineEnum (h : Congruence p q R) (node : Members) (v : Validator) :
    R _ (refineEnum p node v) (refineEnum q node v) := by
  rw [Schema.refineEnum, Schema.refineEnum]
  cases node.lookup "enum" with
  | none => exact h.ok v
  | some x =>
      cases x with
      | array values =>
          simp only
          cases values.find? fun x => !v.isValid x with
          | none => exact h.ok _
          | some y => exact h.malformed _
      | null | bool b | number n | string s | object members => exact h.malformed _

section Children

variable {child child' : ChildCompiler} {Good : Json → Prop}
variable (h : Congruence p q R)
variable (hc : ∀ segments x, Good x → R _ (child segments x) (child' segments x))
include h hc

theorem compileEach (keyword : String) (i : Nat) {xs : List Json} (hx : ∀ x ∈ xs, Good x) :
    R _ (compileEach child keyword i xs) (compileEach child' keyword i xs) := by
  induction xs generalizing i with
  | nil => exact h.ok []
  | cons x rest ih =>
      have hrest := ih (i + 1) fun y hy => hx y (by simp [hy])
      refine h.bind (hc _ x (hx x (by simp))) fun v => ?_
      refine h.bind hrest fun vs => ?_
      exact h.ok (v :: vs)

theorem compileTuple (keyword : String) {xs : List Json} (hx : ∀ x ∈ xs, Good x) :
    R _ (compileTuple child keyword xs) (compileTuple child' keyword xs) :=
  h.bind (h.compileEach hc keyword 0 hx) fun vs => h.ok (Validator.ofShape (.tuple vs))

theorem compileProperties (required : List String) {properties : Members}
    (hx : ∀ m ∈ properties, Good m.2) :
    R _ (compileProperties child required properties)
      (compileProperties child' required properties) := by
  induction properties with
  | nil => exact h.ok []
  | cons m rest ih =>
      obtain ⟨name, x⟩ := m
      have hrest := ih fun m hm => hx m (by simp [hm])
      refine h.bind (hc _ x (hx (name, x) (by simp))) fun v => ?_
      refine h.bind hrest fun fields => ?_
      exact h.ok _

theorem setExcluded {node : Members} (hg : ∀ x ∈ (node.lookup "not").toList, Good x)
    (v : Validator) : R _ (setExcluded child node v) (setExcluded child' node v) := by
  rw [Schema.setExcluded, Schema.setExcluded]
  cases hn : node.lookup "not" with
  | none => exact h.ok v
  | some x => exact h.bind (hc _ x (hg x (by simp [hn]))) fun w => h.ok _

theorem modify {node : Members} (hg : ∀ x ∈ (node.lookup "not").toList, Good x) (form : Form)
    (v : Validator) : R _ (modify p child node form v) (modify q child' node form v) := by
  rw [modify_eq, modify_eq]
  refine h.bind (h.setNullable node v) fun v => ?_
  refine h.bind ?_ fun v => h.setExcluded hc hg v
  split
  · exact h.ok v
  · exact h.refineEnum node v

section Typed

variable {node other : Members} (hn : Like node other)
include hn

theorem compileArray (hg : ∀ x ∈ arrayChildren node, Good x) :
    R _ (compileArray p child node) (compileArray q child' other) := by
  have hitems := hn "items" (by decide)
  have hpositions := hn "prefixItems" (by decide)
  rw [Schema.compileArray, Schema.compileArray, ← hitems, ← hpositions]
  split
  next xs hi => exact h.compileTuple hc "items" fun x hx => hg x (by simpa [arrayChildren, hi])
  next hna =>
    split
    next xs hp =>
      exact h.compileTuple hc "prefixItems" fun x hx => hg x (by simp [arrayChildren, hp, hx])
    next => exact h.malformed _
    next hp =>
      have helement : R _ (compileElement child node) (compileElement child' other) := by
        rw [compileElement, compileElement, ← hitems]
        cases hi : node.lookup "items" with
        | none => exact h.ok Validator.any
        | some x =>
            have hx : ∀ positions, x ≠ .array positions := fun xs he => hna xs (he ▸ hi)
            exact hc _ x (hg x (mem_arrayChildren_of_items hi hx hp))
      refine h.bind helement fun element => ?_
      refine h.bind (h.arrayChecks hn) fun checks => ?_
      exact h.ok _

theorem compileFields (hg : ∀ x ∈ propertyChildren node, Good x) (required : List String) :
    R _ (compileFields p child required node) (compileFields q child' required other) := by
  rw [Schema.compileFields, Schema.compileFields, ← hn "properties" (by decide)]
  rw [propertyChildren] at hg
  split
  next => exact h.ok []
  next properties hp =>
    simp only [hp, List.mem_map, forall_exists_index, and_imp, forall_apply_eq_imp_iff₂] at hg
    exact h.compileProperties hc required hg
  next => exact h.malformed _

theorem compileUnknown (hg : ∀ x ∈ additionalChildren node, Good x) :
    R _ (compileUnknown p child node) (compileUnknown q child' other) := by
  rw [Schema.compileUnknown, Schema.compileUnknown, ← hn "additionalProperties" (by decide)]
  rw [additionalChildren] at hg
  split
  next => exact h.ok _
  next => exact h.ok _
  next => exact h.ok _
  next x hx => exact h.bind (hc _ _ (hg _ (by simp [hx]))) fun v => h.ok _
  next => exact h.malformed _

theorem compileTyped {t : TypeName} (hg : ∀ x ∈ typedChildren node t, Good x) :
    R _ (compileTyped p child node t) (compileTyped q child' other t) := by
  cases t with
  | object =>
      have hrequired : requiredKeys node = requiredKeys other := by
        rw [requiredKeys, requiredKeys, hn "required" (by decide)]
      rw [typedChildren, List.forall_mem_append] at hg
      rw [Schema.compileTyped, Schema.compileTyped, compileObject, compileObject, hrequired]
      refine h.bind (h.malformedAt _) fun required => ?_
      refine h.bind (h.compileFields hc hn hg.1 required) fun fields => ?_
      refine h.bind (h.compileUnknown hc hn hg.2) fun unknown => ?_
      refine h.bind (h.objectChecks hn) fun checks => ?_
      exact h.ok _
  | array => exact h.compileArray hc hn hg
  | string => exact h.bind (h.stringChecks hn) fun checks => h.ok _
  | number | integer => exact h.bind (h.numberChecks hn) fun checks => h.ok _
  | boolean | null => exact h.ok _

theorem compileBranches {types : List TypeName}
    (hg : ∀ x ∈ types.flatMap (typedChildren node), Good x) :
    R _ (compileBranches p child node types) (compileBranches q child' other types) := by
  induction types with
  | nil => exact h.ok []
  | cons t rest ih =>
      rw [List.flatMap_cons, List.forall_mem_append] at hg
      have ht : ∀ x ∈ typedChildren (narrow node t) t, Good x := by
        rw [← (like_narrow node t).typedChildren]
        exact hg.1
      refine h.bind (h.compileTyped hc (hn.narrow t) ht) fun v => ?_
      refine h.bind (ih hg.2) fun vs => ?_
      exact h.ok _

theorem compileTypes {types : List TypeName}
    (hg : ∀ x ∈ (branchTypes types).flatMap (typedChildren node), Good x) :
    R _ (compileTypes p child node types) (compileTypes q child' other types) := by
  refine h.bind (h.compileBranches hc hn hg) fun vs => ?_
  split
  · exact h.ok _
  · split <;> exact h.ok _

end Typed

theorem compileMerged {node : Members} (hg : ∀ x ∈ mergedChildren node, Good x) :
    R _ (compileMerged p child node) (compileMerged q child' node) := by
  rw [Schema.compileMerged, Schema.compileMerged]
  rw [mergedChildren] at hg
  cases hf : Form.ofTypeOrConst node with
  | error complaint => exact h.malformed complaint
  | ok form =>
      rw [hf] at hg
      cases form with
      | typed t => exact h.compileTyped hc (Like.refl node) hg
      | types ts => exact h.compileTypes hc (Like.refl node) hg
      | anyOf | oneOf | allOf | ref | enum | const | any => exact h.ok _

theorem compileForm {node : Members} {form : Form} (hr : ∀ reference, form ≠ .ref reference)
    (hg : ∀ x ∈ formChildren node form, Good x) {follow follow' : String → Result} :
    R _ (compileForm p child follow node form) (compileForm q child' follow' node form) := by
  cases form with
  | anyOf xs =>
      rw [Schema.compileForm, Schema.compileForm, compileAnyOf, compileAnyOf]
      rw [formChildren] at hg
      cases hm : mergeAlternatives? xs with
      | none => exact h.map (h.compileEach hc "anyOf" 0 (by simpa only [hm] using hg)) _
      | some merged => exact h.compileMerged hc (by simpa only [hm] using hg)
  | oneOf xs | allOf xs => exact h.map (h.compileEach hc _ 0 hg) _
  | ref reference => exact absurd rfl (hr reference)
  | enum xs | const x | any => exact h.ok _
  | typed t => exact h.compileTyped hc (Like.refl node) hg
  | types ts => exact h.compileTypes hc (Like.refl node) hg

end Children

end Congruence

section Step

variable {p q : String} {R : (α : Type) → Except Error α → Except Error α → Prop}
variable (h : Congruence p q R) (child child' : ChildCompiler) (follow follow' : String → Result)
variable {value : Json}
include h

theorem compileStep_congr
    (hc : ∀ segments, ∀ x ∈ children value, R _ (child segments x) (child' segments x))
    (hf : ∀ reference, RefersTo value reference → R _ (follow reference) (follow' reference)) :
    R _ (compileStep p child follow value) (compileStep q child' follow' value) := by
  cases value with
  | bool b => cases b <;> exact h.ok _
  | null | number n | string s | array items => exact h.malformed _
  | object node =>
      rw [compileStep, compileStep, compileMembers, compileMembers]
      cases ho : Form.ofNode node with
      | error complaint => exact h.malformed complaint
      | ok form =>
          by_cases hr : ∃ reference, form = .ref reference
          · obtain ⟨reference, rfl⟩ := hr
            exact hf reference ⟨node, rfl, ho⟩
          · have hr : ∀ reference, form ≠ .ref reference := fun reference he => hr ⟨reference, he⟩
            have hc' : ∀ segments x, x ∈ children (.object node) →
                R _ (child segments x) (child' segments x) := hc
            have hg := children_of_form ho hr
            have hform : R _ (compileForm p child follow node form)
                (compileForm q child' follow' node form) :=
              h.compileForm hc' hr fun x hx => hg ▸ List.mem_append_left _ hx
            have hmodify : ∀ v, R _ (modify p child node form v) (modify q child' node form v) :=
              h.modify hc' (fun x hx => hg ▸ List.mem_append_right _ hx) form
            have hv := h.bind hform fun v => h.bind (hmodify v) fun v => h.ok (withMetadata node v)
            cases form with
            | ref reference => exact absurd rfl (hr reference)
            | anyOf | oneOf | allOf | enum | const | typed | types | any => exact hv

theorem compileStep_related (Good : Json → Prop)
    (hp : ∀ x y, Json.Part x y → Good y → Good x)
    (hc : ∀ segments x, Good x → R _ (child segments x) (child' segments x))
    (hf : ∀ node reference, value = .object node → node.lookup "$ref" = some (.string reference) →
      R _ (follow reference) (follow' reference))
    (hg : ∀ x, Json.Part x value → Good x) :
    R _ (compileStep p child follow value) (compileStep q child' follow' value) := by
  refine compileStep_congr h child child' follow follow' ?_ ?_
  · intro segments x hx
    exact hc segments x (good_of_children hp hg x hx)
  · rintro reference ⟨node, rfl, hr⟩
    exact hf node reference rfl (Form.readFrom_of_ofNode hr)

end Step

end SchemaCheck.Schema
