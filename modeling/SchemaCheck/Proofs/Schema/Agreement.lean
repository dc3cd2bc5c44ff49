import SchemaCheck.Proofs.Schema.Calls
import SchemaCheck.Proofs.Schema.Congruence
import SchemaCheck.Proofs.Schema.MergedUnion

namespace SchemaCheck.Schema

open Json (Members)

/-- Two results are the same if both succeed. -/
def Agree {α : Type} (r s : Except Error α) : Prop := ∀ a b, r = .ok a → s = .ok b → a = b

theorem congruence_agree (p q : String) : Congruence p q fun _ r s => Agree r s where
  ok a := by
    rintro _ _ ⟨⟩ ⟨⟩
    rfl
  malformed complaint := nofun
  invalidPattern source := nofun
  bind := by
    intro α β r s k l h hk b c hb hc
    obtain ⟨a, ha, hb⟩ := bind_eq_ok hb
    obtain ⟨a', ha', hc⟩ := bind_eq_ok hc
    cases h a a' ha ha'
    exact hk a b c hb hc

/-- From two contexts good values compile to the same validator, if what good values refer to is
found by both as one value, and that is good. -/
theorem compileNode_agree_of (Good : Json → Prop) (hp : ∀ x y, Json.Part x y → Good y → Good x)
    {c d : Context} (ht : ∀ x reference, Good x → RefersTo x reference →
      ∀ y z, c.target? reference = some y → d.target? reference = some z → y = z ∧ Good y)
    {x : Json} (hx : Good x) : Agree (compileNode c x) (compileNode d x) := by
  induction hn : c.levelsLeft using Nat.strongRecOn generalizing c d x with
  | ind n ih =>
      subst hn
      rw [compileNode_eq c, compileNode_eq d]
      refine compileStep_congr (congruence_agree c.path d.path) _ _ _ _ ?_ ?_
      · intro segments y hy v w hv hw
        have hy := good_of_children hp (fun z hz => hp z x hz hx) y hy
        obtain ⟨c', hc, hv⟩ := bind_eq_ok hv
        obtain ⟨d', hd, hw⟩ := bind_eq_ok hw
        rw [← Context.target?_of_descend hc, ← Context.target?_of_descend hd] at ht
        exact ih c'.levelsLeft (Context.levelsLeft_descend hc) ht hy rfl v w hv hw
      · intro reference hr v w hv hw
        obtain ⟨⟨c', y⟩, hc, hv⟩ := bind_eq_ok hv
        obtain ⟨⟨d', z⟩, hd, hw⟩ := bind_eq_ok hw
        obtain ⟨hce, hy⟩ := Context.follow_eq_ok hc
        obtain ⟨hde, hz⟩ := Context.follow_eq_ok hd
        obtain ⟨rfl, hg⟩ := ht x reference hx hr y z hy hz
        rw [← Context.target?_of_enter hce, ← Context.target?_of_enter hde] at ht
        exact ih c'.levelsLeft (Context.levelsLeft_follow hc) ht hg rfl v w hv hw

theorem compileNode_agree {x : Json} (hx : x.references = []) (c d : Context) :
    Agree (compileNode c x) (compileNode d x) := by
  refine compileNode_agree_of (fun y => y.references = []) ?_ ?_ hx
  · intro y z hyz hz
    exact List.subset_nil.1 (hz ▸ hyz.references_subset)
  · intro y reference hy hr
    have hm := hr.mem_references
    rw [hy] at hm
    cases hm

theorem childOf_agree {x : Json} (hx : x.references = []) (c d : Context)
    (segments others : List String) : Agree (childOf c segments x) (childOf d others x) := by
  intro v w hv hw
  obtain ⟨c', -, hv⟩ := bind_eq_ok hv
  obtain ⟨d', -, hw⟩ := bind_eq_ok hw
  exact compileNode_agree hx c' d' v w hv hw

theorem congruence_eq (path : String) : Congruence path path fun _ r s => r = s where
  ok a := rfl
  malformed complaint := rfl
  invalidPattern source := rfl
  bind := by
    rintro α β r _ k l rfl hk
    exact bind_congr hk

section Types

variable {path : String} {child : ChildCompiler} {follow : String → Result}
variable {node other : Members}

theorem Like.compileTyped (h : Like node other) (t : TypeName) :
    compileTyped path child node t = compileTyped path child other t :=
  (congruence_eq path).compileTyped (fun _ _ _ => rfl) h fun _ hx => hx

theorem Like.compileTypes (h : Like node other) (ts : List TypeName) :
    compileTypes path child node ts = compileTypes path child other ts :=
  (congruence_eq path).compileTypes (fun _ _ _ => rfl) h fun _ hx => hx

theorem compileTypes_singleton (t : TypeName) :
    compileTypes path child node [t] = compileTyped path child node t := by
  by_cases ht : t = .null
  · subst ht
    rfl
  · have hb : branchTypes [t] = [t] := by
      simp [branchTypes, ht]
    rw [compileTypes, hb, (like_narrow node t).compileTyped t, compileBranches, compileBranches]
    cases compileTyped path child (narrow node t) t with
    | error e => rfl
    | ok v => simp [Ne.symm ht, combine, bind, Except.bind]

theorem compileTypes_null {t : TypeName} (ht : t ≠ .null) :
    compileTypes path child node [t, .null] =
      (compileTyped path child node t).map Validator.withNullable := by
  have hb : branchTypes [t, .null] = [t] := by
    simp [branchTypes, ht]
  rw [compileTypes, hb, (like_narrow node t).compileTyped t, compileBranches, compileBranches]
  cases compileTyped path child (narrow node t) t with
  | error e => rfl
  | ok v => simp [combine, bind, Except.bind, Except.map]

theorem compileTypes_congr {ts us : List TypeName} (hb : branchTypes ts = branchTypes us)
    (hn : ts.contains .null = us.contains .null) :
    compileTypes path child node ts = compileTypes path child node us := by
  rw [compileTypes, compileTypes, hb, hn]

theorem compileForm_ofTypes {ts : List TypeName} {form : Form} (h : Form.ofTypes ts = .ok form) :
    compileForm path child follow node form = compileTypes path child node ts := by
  match ts with
  | [] => cases h
  | [t] =>
      cases h
      exact (compileTypes_singleton t).symm
  | _ :: _ :: _ =>
      cases h
      rfl

end Types

def distinctTypes (ts : List TypeName) : List TypeName := ts.foldl addType []

theorem nodup_foldl_addType {ts us : List TypeName} (h : ts.Nodup) :
    (us.foldl addType ts).Nodup := by
  induction us generalizing ts with
  | nil => exact h
  | cons u rest ih =>
      apply ih
      rw [addType]
      split
      next => exact h
      next hu =>
        refine List.nodup_append.2 ⟨h, List.nodup_singleton u, ?_⟩
        rintro t ht _ hm rfl
        exact hu (List.mem_singleton.1 hm ▸ ht)

theorem foldl_addType_of_nodup {ts us : List TypeName} (h : (ts ++ us).Nodup) :
    us.foldl addType ts = ts ++ us := by
  induction us generalizing ts with
  | nil => simp
  | cons u rest ih =>
      have hu : u ∉ ts := fun hm => (List.nodup_append.1 h).2.2 u hm u (List.mem_cons_self ..) rfl
      have happ : ts ++ u :: rest = (ts ++ [u]) ++ rest := by simp
      rw [List.foldl_cons, addType, if_neg hu, happ]
      exact ih (happ ▸ h)

theorem distinctTypes_distinctTypes (ts : List TypeName) :
    distinctTypes (distinctTypes ts) = distinctTypes ts :=
  foldl_addType_of_nodup (nodup_foldl_addType List.nodup_nil)

theorem foldl_branchTypes (ts us : List TypeName) :
    us.foldl (fun bs t => if t = .null ∨ t ∈ bs then bs else bs ++ [t]) (ts.filter (· ≠ .null)) =
      (us.foldl addType ts).filter (· ≠ .null) := by
  induction us generalizing ts with
  | nil => rfl
  | cons u rest ih =>
      have hstep : (if u = .null ∨ u ∈ ts.filter (· ≠ .null) then ts.filter (· ≠ .null)
          else ts.filter (· ≠ .null) ++ [u]) = (addType ts u).filter (· ≠ .null) := by
        rw [addType]
        by_cases hn : u = .null
        · subst hn
          by_cases hu : TypeName.null ∈ ts <;> simp [hu]
        · by_cases hu : u ∈ ts <;> simp [hn, hu]
      rw [List.foldl_cons, List.foldl_cons, ← ih, hstep]

theorem branchTypes_eq (ts : List TypeName) :
    branchTypes ts = (distinctTypes ts).filter (· ≠ .null) :=
  foldl_branchTypes [] ts

theorem compileTypes_distinctTypes {path : String} {child : ChildCompiler} {node : Members}
    (ts : List TypeName) :
    compileTypes path child node (distinctTypes ts) = compileTypes path child node ts := by
  apply compileTypes_congr
  · rw [branchTypes_eq, branchTypes_eq, distinctTypes_distinctTypes]
  · rw [Bool.eq_iff_iff, List.contains_iff_mem, List.contains_iff_mem, distinctTypes,
      mem_foldl_addType]
    simp

theorem name_of_read {name : String} {t : TypeName} (h : TypeName.read name = .ok t) :
    t.name = name := by
  unfold TypeName.read TypeName.ofName? at h
  split at h
  next he => split at he <;> cases he <;> cases h <;> rfl
  next => cases h

theorem names_of_mapM_read {names : List String} {ts : List TypeName}
    (h : names.mapM TypeName.read = .ok ts) : names = ts.map TypeName.name := by
  induction names generalizing ts with
  | nil =>
      cases h
      rfl
  | cons name rest ih =>
      rw [List.mapM_cons] at h
      obtain ⟨t, ht, h⟩ := bind_eq_ok h
      obtain ⟨us, hus, h⟩ := bind_eq_ok h
      cases h
      rw [List.map_cons, ← ih hus, name_of_read ht]

theorem mapM_string? (names : List String) :
    (names.map Json.string).mapM Json.string? = some names := by
  induction names with
  | nil => rfl
  | cons name rest ih =>
      rw [List.map_cons, List.mapM_cons, ih]
      rfl

section Merged

variable {alternative : Members} {names : List String}

theorem absent_of_mergeable (h : mergeableTypes? alternative = some names) {key : String}
    (hk : key ∉ mergeableKeys) : alternative.lookup key = none := by
  refine Option.eq_none_iff_forall_ne_some.2 fun x hx => ?_
  rw [mergeableTypes?_of_key key hk hx] at h
  cases h

theorem types_of_mergeable (h : mergeableTypes? alternative = some names) {form : Form}
    (hf : Form.ofNode alternative = .ok form) :
    ∃ ts, names = ts.map TypeName.name ∧ Form.ofTypes ts = .ok form := by
  have habsent : ∀ key ∈ leadingKeys, alternative.lookup key = none := by
    intro key hk
    refine absent_of_mergeable h ?_
    revert key
    decide
  have hconst : alternative.lookup "const" = none := absent_of_mergeable h (by decide)
  rw [mergeableTypes?] at h
  split at h
  next =>
    split at h
    next name ht =>
      cases h
      rw [ofNode_of_type habsent hconst ht] at hf
      obtain ⟨t, hr, rfl⟩ := map_eq_ok hf
      exact ⟨[t], by rw [List.map_singleton, name_of_read hr], rfl⟩
    next items ht =>
      rw [ofNode_of_type habsent hconst ht] at hf
      obtain ⟨ns, hns, hread⟩ := bind_eq_ok hf
      obtain ⟨ts, hts, hform⟩ := bind_eq_ok hread
      rw [strings_eq_ok hns, mapM_string?, names_of_mapM_read hts] at h
      exact ⟨ts, (Option.some.inj h).symm, hform⟩
    next => cases h
  next => cases h

theorem mergeAlternatives?_singleton {m : Json} {merged : Members}
    (h : mergeAlternatives? [m] = some merged) : ∃ alternative names,
      m = .object alternative ∧ mergeableTypes? alternative = some names ∧
      Like merged alternative ∧ merged.lookup "const" = none ∧
      merged.lookup "type" = some (typeValue (names.foldl
        (fun names n => if names.contains n then names else names ++ [n]) [])) := by
  obtain ⟨names, items, hp, -, hmerged⟩ := mergeAlternatives?_eq_some h
  cases m with
  | null | bool b | number n | string s | array items => cases hp
  | object alternative =>
      obtain ⟨ns, hns, hp⟩ := Option.bind_eq_some_iff.1 hp
      cases hp
      refine ⟨alternative, ns, rfl, hns, ?_, lookup_merged h (by decide) (by decide), ?_⟩
      · intro key hk
        by_cases hi : key = "items"
        · subst hi
          rw [hmerged]
          cases alternative.lookup "items" <;> rfl
        · have ht : key ≠ "type" := fun he => hk (he ▸ List.mem_cons_self ..)
          have hm : key ∉ mergeableKeys := by
            simp only [unreadKeys, modifierKeys, mergeableKeys, List.mem_cons, List.not_mem_nil,
              not_or, or_false] at hk ⊢
            tauto
          rw [lookup_merged h hi ht, absent_of_mergeable hns hm]
      · rw [hmerged]
        cases alternative.lookup "items" <;> rfl

end Merged

/-- The validators test the same, and differ in their annotations at most. -/
structure SameTests (v w : Validator) : Prop where
  shape : v.shape = w.shape
  nullable : v.nullable = w.nullable
  allowed : v.allowed = w.allowed
  excluded : v.excluded = w.excluded

theorem compileMerged_ofTypes {path : String} {child : ChildCompiler} {node : Members}
    {ts : List TypeName} (hf : Form.ofTypeOrConst node = Form.ofTypes ts) {v : Validator}
    (h : compileMerged path child node = .ok v) : compileTypes path child node ts = .ok v := by
  rw [compileMerged, hf] at h
  rcases ts with _ | ⟨t, _ | ⟨u, rest⟩⟩
  · cases h
  · rwa [compileTypes_singleton]
  · exact h

theorem goodValues_of_references {node : Members} (h : (Json.object node).references = []) :
    GoodValues (fun x => x.references = []) node where
  part hxy hy := List.subset_nil.1 (hy ▸ hxy.references_subset)
  value _ hl := List.subset_nil.1
    (h ▸ (Json.Part.member (Json.mem_of_lookup hl)).references_subset)

theorem compileMerged_agree {m : Json} {merged : Members}
    (h : mergeAlternatives? [m] = some merged) (hx : m.references = []) {c d : Context}
    {v w : Validator} (hv : compileMerged c.path (childOf c) merged = .ok v)
    (hw : compileNode d m = .ok w) : SameTests v w := by
  obtain ⟨alternative, names, rfl, hnames, hlike, hconst, htype⟩ := mergeAlternatives?_singleton h
  rw [compileNode_eq, compileStep] at hw
  cases hf : Form.ofNode alternative with
  | error complaint =>
      rw [compileMembers, hf] at hw
      cases hw
  | ok form =>
      obtain ⟨ts, rfl, hts⟩ := types_of_mergeable hnames hf
      have hr : ∀ reference, form ≠ .ref reference := by
        rintro reference rfl
        rcases ts with _ | ⟨t, _ | ⟨u, rest⟩⟩ <;> cases hts
      have hmodify : ∀ u, modify d.path (childOf d) alternative form u = .ok u := by
        intro u
        rw [modify_of_absent (absent_of_mergeable hnames (by decide))
          (.inr (absent_of_mergeable hnames (by decide))), setExcluded,
          absent_of_mergeable hnames (by decide)]
      rw [compileMembers_eq hf hr, compileForm_ofTypes hts] at hw
      obtain ⟨u, hu, hw⟩ := bind_eq_ok hw
      rw [hmodify] at hw
      cases hw
      have hmerged : Form.ofTypeOrConst merged = Form.ofTypes (distinctTypes ts) := by
        rw [Form.ofTypeOrConst, hconst, htype]
        change Form.ofType (typeValue ((ts.map TypeName.name).foldl _ ([].map TypeName.name))) = _
        rw [foldl_names, ofType_typeValue]
        rfl
      have hv := compileMerged_ofTypes hmerged hv
      rw [compileTypes_distinctTypes] at hv
      have hchildren : ∀ x ∈ (branchTypes ts).flatMap (typedChildren merged),
          x.references = [] := by
        rw [funext hlike.typedChildren]
        exact (goodValues_of_references hx).ofTypes (.types ts)
      have huv := (congruence_agree c.path d.path).compileTypes
        (fun segments x hx => childOf_agree hx c d segments segments) hlike hchildren
      cases huv v u hv hu
      exact ⟨rfl, rfl, rfl, rfl⟩

end SchemaCheck.Schema
