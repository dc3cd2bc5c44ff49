import SchemaCheck.Proofs.Schema.TypeLists

namespace SchemaCheck.Schema

open Json (Members)

def ListsType (m : Json) (name : String) : Prop :=
  ∃ alternative names, m = .object alternative ∧ mergeableTypes? alternative = some names ∧
    name ∈ names

def SaysItems (m items : Json) : Prop :=
  ∃ alternative, m = .object alternative ∧ alternative.lookup "items" = some items

/-- No two of the alternatives say different items. -/
def Agreeing (xs : List Json) : Prop :=
  ∀ m ∈ xs, ∀ n ∈ xs, ∀ items others, SaysItems m items → SaysItems n others → items = others

/-- The value is an alternative that lets arrays have any items. -/
def AnyArray (m : Json) : Prop := ListsType m "array" ∧ ∀ items, ¬ SaysItems m items

/-- Arrays of the items, or tuples if the items are a list of positions. -/
def arrayNode (items : Json) : Members := [("items", items), ("type", .string "array")]

def HasItems (c : Context) (xs : List Json) (x : Json) : Prop :=
  ∀ m ∈ xs, ∀ items, SaysItems m items → (∃ ys, x = .array ys) →
    ∃ u, compileNode c (.object (arrayNode items)) = .ok u ∧ u.isValid x = true

theorem bare_any_accepts_array {t : TypeName} {ys : List Json} :
    (t.bare .any).Accepts (.array ys) ↔ t = .array := by
  rw [bare_accepts_array]
  exact and_iff_left fun y _ => Validator.accepts_ofShape.2 Shape.accepts_any

theorem lookup_arrayNode {items : Json} {key : String} (hi : key ≠ "items") (ht : key ≠ "type") :
    (arrayNode items).lookup key = none := by
  rw [arrayNode, List.lookup_cons, beq_eq_false_iff_ne.2 hi, List.lookup_cons,
    beq_eq_false_iff_ne.2 ht]
  rfl

section Mergeable

variable {c d : Context} {node : Members} {names : List String} {x items : Json} {t : TypeName}
  {v : Validator}

theorem notMem_mergeableKeys_of_reads {key : String} (hk : key ∈ t.reads)
    (h : t = .array → key ≠ "items") : key ∉ mergeableKeys := by
  cases t with
  | array =>
      have hi := h rfl
      revert key
      decide
  | object | string | number | integer | boolean | null =>
      clear h
      revert key
      decide

theorem typeAccepts_of_mergeable (h : mergeableTypes? node = some names)
    (hi : t = .array → node.lookup "items" = none) :
    TypeAccepts c node x t ↔ (t.bare .any).Accepts x := by
  have hreads : ∀ key ∈ t.reads, node.lookup key = List.lookup key ([] : Members) := by
    intro key hk
    by_cases he : t = .array ∧ key = "items"
    · obtain ⟨ht, rfl⟩ := he
      exact hi ht
    · exact absent_of_mergeable h (notMem_mergeableKeys_of_reads hk fun ht hk => he ⟨ht, hk⟩)
  have hbare : compileTyped c.path (childOf c) [] t = .ok (.ofShape (t.bare .any)) := by
    cases t <;> rfl
  rw [TypeAccepts.congr hreads, typeAccepts_of_ok hbare, Validator.accepts_ofShape]

theorem compileNode_arrayNode (h : mergeableTypes? node = some names)
    (hi : node.lookup "items" = some items) :
    compileNode c (.object (arrayNode items)) = compileTyped c.path (childOf c) node .array := by
  have hreads : ∀ key ∈ TypeName.array.reads,
      (arrayNode items).lookup key = node.lookup key := by
    intro key hk
    by_cases he : key = "items"
    · subst he
      exact hi.symm
    · have ht : key ≠ "type" := by
        revert key
        decide
      rw [lookup_arrayNode he ht,
        absent_of_mergeable h (notMem_mergeableKeys_of_reads hk fun _ => he)]
  have hm : ∀ key ∈ modifierKeys, (arrayNode items).lookup key = none := by
    intro key hk
    apply lookup_arrayNode <;> rintro rfl <;> revert hk <;> decide
  have hf : Form.ofNode (arrayNode items) = .ok (.typed .array) := rfl
  have hr : ∀ reference, Form.typed .array ≠ .ref reference := by
    intro reference he
    cases he
  rw [compileNode_eq, compileStep, compileMembers_of_unmodified hf hr hm]
  exact compileTyped_congr hreads

theorem typeAccepts_array (h : mergeableTypes? node = some names)
    (hi : node.lookup "items" = some items) :
    TypeAccepts c node x .array ↔
      ∃ u, compileNode c (.object (arrayNode items)) = .ok u ∧ u.isValid x = true := by
  simp only [TypeAccepts, compileNode_arrayNode h hi, Validator.isValid_iff]

theorem eq_array_iff_of_typeAccepts (hx : TypeAccepts c node x t) :
    t = .array ↔ ∃ ys, x = .array ys := by
  have hholds := holds_of_typeAccepts hx
  constructor
  · rintro rfl
    exact hholds
  · rintro ⟨ys, rfl⟩
    cases t <;> simp [TypeName.Holds] at hholds ⊢

theorem exists_types_of_mergeable (h : mergeableTypes? node = some names)
    (hv : compileNode c (.object node) = .ok v) : ∃ ts form, names = ts.map TypeName.name ∧
      Form.ofTypes ts = .ok form ∧ Form.ofNode node = .ok form := by
  obtain ⟨form, hf⟩ := exists_ofNode_of_compileNode hv
  obtain ⟨ts, hnames, hts⟩ := types_of_mergeable h hf
  exact ⟨ts, form, hnames, hts, hf⟩

theorem isValid_of_mergeable (h : mergeableTypes? node = some names)
    (hv : compileNode c (.object node) = .ok v) :
    v.isValid x = true ↔ ∃ t : TypeName, t.name ∈ names ∧ TypeAccepts c node x t := by
  obtain ⟨ts, form, rfl, hts, hf⟩ := exists_types_of_mergeable h hv
  have hm : ∀ key ∈ ["enum", "not", "nullable"], node.lookup key = none := by
    intro key hk
    refine absent_of_mergeable h ?_
    revert key
    decide
  rw [isValid_of_types_of_absent hts hf hm hv]
  simp only [List.mem_map_of_injective fun _ _ => TypeName.name_injective]

theorem compileNode_arrayNode_eq_ok (h : mergeableTypes? node = some names)
    (hv : compileNode c (.object node) = .ok v) (ha : TypeName.array.name ∈ names)
    (hi : node.lookup "items" = some items) :
    ∃ u, compileNode c (.object (arrayNode items)) = .ok u := by
  obtain ⟨ts, form, rfl, hts, hf⟩ := exists_types_of_mergeable h hv
  rw [compileNode_arrayNode h hi]
  rw [List.mem_map_of_injective fun _ _ => TypeName.name_injective] at ha
  exact compileTyped_of_types hts hf hv .array ha

end Mergeable

theorem mem_foldl_names {names types : List String} {n : String} :
    n ∈ names.foldl (fun ts n => if ts.contains n then ts else ts ++ [n]) types ↔
      n ∈ types ∨ n ∈ names := by
  induction names generalizing types with
  | nil => simp
  | cons name rest ih =>
      rw [List.foldl_cons, ih, List.mem_cons]
      split
      next h =>
        have hn : name ∈ types := List.contains_iff_mem.1 h
        constructor
        · rintro (h | h)
          · exact .inl h
          · exact .inr (.inr h)
        · rintro (h | rfl | h)
          · exact .inl h
          · exact .inl hn
          · exact .inr h
      next => rw [List.mem_append, List.mem_singleton, or_assoc]

theorem mergeParts?_eq_some {xs : List Json} {types names : List String}
    {items merged : Option Json} (h : mergeParts? xs types items = some (names, merged)) :
    (∀ m ∈ xs, ∃ alternative ns, m = .object alternative ∧
      mergeableTypes? alternative = some ns) ∧
    (∀ n, n ∈ names ↔ n ∈ types ∨ ∃ m ∈ xs, ListsType m n) ∧
    (merged = none → items = none ∧ ∀ m ∈ xs, ∀ y, ¬ SaysItems m y) := by
  induction xs generalizing types items with
  | nil =>
      cases h
      exact ⟨by simp, by simp, by simp⟩
  | cons x rest ih =>
      cases x with
      | null | bool b | number n | string s | array ys => cases h
      | object alternative =>
          obtain ⟨ns, hns, h⟩ := Option.bind_eq_some_iff.1 h
          obtain ⟨hall, hnames, hitems⟩ := ih h
          have hlists : ∀ n, ListsType (.object alternative) n ↔ n ∈ ns := by
            intro n
            simp [ListsType, hns]
          refine ⟨?_, fun n => ?_, fun hn => ?_⟩
          · exact List.forall_mem_cons.2 ⟨⟨alternative, ns, rfl, hns⟩, hall⟩
          · rw [hnames, mem_foldl_names, List.exists_mem_cons_iff, hlists, or_assoc]
          · obtain ⟨ho, hrest⟩ := hitems hn
            obtain ⟨rfl, ha⟩ := Option.or_eq_none_iff.1 ho
            refine ⟨rfl, List.forall_mem_cons.2 ⟨?_, hrest⟩⟩
            rintro y ⟨_, ⟨⟩, hy⟩
            cases ha.symm.trans hy

/-- The merged node may be merged itself. It lists the types of all alternatives, and has items just
if one of them does. -/
theorem mergeable_merged {xs : List Json} {merged : Members}
    (h : mergeAlternatives? xs = some merged) : ∃ names,
      mergeableTypes? merged = some names ∧ TypeName.array.name ∈ names ∧
      (∀ n, n ∈ names ↔ ∃ m ∈ xs, ListsType m n) ∧
      (∀ m ∈ xs, ∃ alternative ns, m = .object alternative ∧
        mergeableTypes? alternative = some ns) ∧
      (merged.lookup "items" = none → ∀ m ∈ xs, ∀ items, ¬ SaysItems m items) := by
  obtain ⟨names, items, hp, ha, hmerged⟩ := mergeAlternatives?_eq_some h
  obtain ⟨hall, hnames, hitems⟩ := mergeParts?_eq_some hp
  have hl : merged.lookup "items" = items := by
    rw [hmerged]
    cases items <;> rfl
  have ht : merged.lookup "type" = some (typeValue names) := by
    rw [hmerged]
    cases items <;> rfl
  have hk : (merged.all fun m => mergeableKeys.contains m.1) = true := by
    rw [hmerged]
    cases items <;> rfl
  refine ⟨names, ?_, ha, by simpa using hnames, hall, fun hn => (hitems (hl ▸ hn)).2⟩
  rw [mergeableTypes?, if_pos hk, ht]
  rcases names with _ | ⟨name, _ | ⟨other, rest⟩⟩
  · rfl
  · rfl
  · exact mapM_string? (name :: other :: rest)

theorem isValid_congr_merged {c : Context} {node merged : Members} {xs : List Json}
    (hf : Form.ofNode node = .ok (.anyOf xs)) (hm : mergeAlternatives? xs = some merged)
    (ha : ∀ key ∈ ["enum", "not", "nullable"], node.lookup key = none) {v : Validator}
    (hv : compileNode c (.object node) = .ok v) : ∃ w,
      compileNode c (.object merged) = .ok w ∧ ∀ x, v.isValid x = true ↔ w.isValid x = true := by
  obtain ⟨w, hw, hmodified⟩ := modified_of_compileNode hf nofun rfl hv
  refine ⟨w, ?_, fun x => ?_⟩
  · rw [compileNode_eq, compileStep, compileMembers_merged hm]
    rw [compileForm, compileAnyOf, hm] at hw
    exact hw
  · have hadmits : NodeAdmits c node x :=
      ⟨by simp [ha "enum" (by decide)], by simp [ha "not" (by decide)]⟩
    rw [hmodified.accepts_iff, hmodified.admits_iff, hmodified.nullable, Validator.isValid_iff,
      Validator.accepts_iff]
    simp [hadmits, ha "enum" (by decide), ha "not" (by decide), ha "nullable" (by decide)]

section Alternative

variable {c d : Context} {merged alternative : Members} {xs : List Json} {ns : List String}
  {t : TypeName} {x items : Json} {v w : Validator}

theorem lookup_items_merged (hm : mergeAlternatives? xs = some merged) (hitems : Agreeing xs)
    {m : Json} (hmem : m ∈ xs) (hs : SaysItems m items) :
    merged.lookup "items" = some items := by
  obtain ⟨names, -, -, -, -, hnone⟩ := mergeable_merged hm
  cases hl : merged.lookup "items" with
  | none => exact absurd hs (hnone hl m hmem items)
  | some others =>
      obtain ⟨other, ho, hi⟩ := items_of_merged hm (by decide) hl
      rw [hitems _ ho m hmem others items ⟨other, rfl, hi⟩ hs]

theorem hasItems_of_typeAccepts (hm : mergeAlternatives? xs = some merged) (hitems : Agreeing xs)
    (hx : TypeAccepts c merged x t) : HasItems c xs x := by
  intro m hmem items hs harray
  obtain ⟨names, hnames, -, -, -, -⟩ := mergeable_merged hm
  obtain rfl := (eq_array_iff_of_typeAccepts hx).2 harray
  exact (typeAccepts_array hnames (lookup_items_merged hm hitems hmem hs)).1 hx

theorem typeAccepts_merged (hm : mergeAlternatives? xs = some merged)
    (hns : mergeableTypes? alternative = some ns) (hx : TypeAccepts d alternative x t)
    (hh : HasItems c xs x) : TypeAccepts c merged x t := by
  obtain ⟨names, hnames, -, -, -, -⟩ := mergeable_merged hm
  by_cases harray : t = .array
  · obtain ⟨ys, rfl⟩ := (eq_array_iff_of_typeAccepts hx).1 harray
    cases hl : merged.lookup "items" with
    | some items =>
        obtain ⟨other, ho, hi⟩ := items_of_merged hm (by decide) hl
        rw [harray, typeAccepts_array hnames hl]
        exact hh _ ho items ⟨other, rfl, hi⟩ ⟨ys, rfl⟩
    | none =>
        rwa [typeAccepts_of_mergeable hnames fun _ => hl, bare_any_accepts_array]
  · rw [typeAccepts_of_mergeable hns fun h => absurd h harray] at hx
    rwa [typeAccepts_of_mergeable hnames fun h => absurd h harray]

variable (hm : mergeAlternatives? xs = some merged) (hitems : Agreeing xs)
  (hv : compileNode c (.object merged) = .ok v)
  (hmem : .object alternative ∈ xs) (hns : mergeableTypes? alternative = some ns)
  (hreferences : (Json.object alternative).references = [])
  (hw : compileNode d (.object alternative) = .ok w) (ht : t.name ∈ ns)
include hm hitems hv hmem hns hreferences hw ht

theorem typeAccepts_array_merged (hi : alternative.lookup "items" = some items)
    (harray : t = .array) : TypeAccepts c merged x t ↔ TypeAccepts d alternative x t := by
  subst harray
  obtain ⟨names, hnames, ha, -, -, -⟩ := mergeable_merged hm
  have hl := lookup_items_merged hm hitems hmem ⟨alternative, rfl, hi⟩
  obtain ⟨u, hu⟩ := compileNode_arrayNode_eq_ok hnames hv ha hl
  obtain ⟨u', hu'⟩ := compileNode_arrayNode_eq_ok hns hw ht hi
  have hr : (Json.object (arrayNode items)).references = [] := by
    have hp : items.references = [] := (goodValues_of_references hreferences).value (by decide) hi
    simp [arrayNode, Json.references, Json.referencesOfMembers, hp]
  cases compileNode_agree hr c d u u' hu hu'
  rw [typeAccepts_array hnames hl, typeAccepts_array hns hi, hu, hu']

theorem typeAccepts_of_merged (hx : TypeAccepts c merged x t) : TypeAccepts d alternative x t := by
  obtain ⟨names, hnames, -, -, -, -⟩ := mergeable_merged hm
  by_cases harray : t = .array
  · cases hi : alternative.lookup "items" with
    | some items =>
        exact (typeAccepts_array_merged hm hitems hv hmem hns hreferences hw ht hi harray).1 hx
    | none =>
        obtain ⟨ys, rfl⟩ := (eq_array_iff_of_typeAccepts hx).1 harray
        rwa [typeAccepts_of_mergeable hns fun _ => hi, bare_any_accepts_array]
  · rw [typeAccepts_of_mergeable hnames fun h => absurd h harray] at hx
    rwa [typeAccepts_of_mergeable hns fun h => absurd h harray]

theorem hasItems_of_alternative (hany : ¬ AnyArray (.object alternative))
    (hx : TypeAccepts d alternative x t) : HasItems c xs x := by
  intro m hmem' others hs harray
  obtain rfl := (eq_array_iff_of_typeAccepts hx).2 harray
  cases hi : alternative.lookup "items" with
  | some items =>
      rw [← typeAccepts_array_merged hm hitems hv hmem hns hreferences hw ht hi rfl] at hx
      exact hasItems_of_typeAccepts hm hitems hx m hmem' others hs harray
  | none =>
      refine absurd ⟨⟨alternative, ns, rfl, hns, ht⟩, ?_⟩ hany
      rintro items ⟨_, ⟨⟩, hl⟩
      cases hi.symm.trans hl

end Alternative

theorem isValid_of_anyArray {d : Context} {m : Json} {w : Validator} (hm : AnyArray m)
    (hw : compileNode d m = .ok w) (ys : List Json) : w.isValid (.array ys) = true := by
  obtain ⟨⟨alternative, ns, rfl, hns, ht⟩, hi⟩ := hm
  have hl : alternative.lookup "items" = none :=
    Option.eq_none_iff_forall_ne_some.2 fun items hl => hi items ⟨alternative, rfl, hl⟩
  refine (isValid_of_mergeable hns hw).2 ⟨.array, ht, ?_⟩
  rw [typeAccepts_of_mergeable hns fun _ => hl, bare_any_accepts_array]

section Merged

variable {c : Context} {merged : Members} {xs : List Json} {ws : List Validator} {u : Validator}
  {x : Json} (hm : mergeAlternatives? xs = some merged) (hitems : Agreeing xs)
  (hreferences : ∀ m ∈ xs, m.references = []) (hu : compileNode c (.object merged) = .ok u)
  (hws : List.Forall₂ (fun m w => ∃ d, compileNode d m = .ok w) xs ws)
include hm hitems hreferences hu hws

/-- What an alternative accepts has the items, unless it lets arrays have any; with them the merged
node accepts it. -/
theorem exists_alternative_of_isValid {w : Validator} (hw : w ∈ ws) (hx : w.isValid x = true) :
    ∃ m ∈ xs, (¬ AnyArray m → HasItems c xs x) ∧ (HasItems c xs x → u.isValid x = true) := by
  obtain ⟨names, hnames, -, hlists, hall, -⟩ := mergeable_merged hm
  obtain ⟨m, hmem, d, hd⟩ := exists_of_forall₂_left hws.flip hw
  obtain ⟨alternative, ns, rfl, hns⟩ := hall m hmem
  obtain ⟨t, ht, hta⟩ := (isValid_of_mergeable hns hd).1 hx
  have hr := hreferences _ hmem
  refine ⟨_, hmem, fun hany => ?_, fun hh => ?_⟩
  · exact hasItems_of_alternative hm hitems hu hmem hns hr hd ht hany hta
  · refine (isValid_of_mergeable hnames hu).2 ⟨t, (hlists _).2 ⟨_, hmem, _, ns, rfl, hns, ht⟩, ?_⟩
    exact typeAccepts_merged hm hns hta hh

theorem exists_isValid_of_merged (hx : u.isValid x = true) :
    (∃ w ∈ ws, w.isValid x = true) ∧ HasItems c xs x := by
  obtain ⟨names, hnames, -, hlists, -, -⟩ := mergeable_merged hm
  obtain ⟨t, ht, hta⟩ := (isValid_of_mergeable hnames hu).1 hx
  obtain ⟨m, hmem, alternative, ns, rfl, hns, htn⟩ := (hlists _).1 ht
  obtain ⟨w, hw, d, hd⟩ := exists_of_forall₂_left hws hmem
  refine ⟨⟨w, hw, (isValid_of_mergeable hns hd).2 ⟨t, htn, ?_⟩⟩,
    hasItems_of_typeAccepts hm hitems hta⟩
  exact typeAccepts_of_merged hm hitems hu hmem hns (hreferences _ hmem) hd htn hta

end Merged

/-- A node of alternatives that are merged and agree on items accepts what an alternative accepts
and, if it is an array, has the items that they say. It accepts all that an alternative accepts just
if no alternative lets arrays have any items, or all arrays have the items. -/
theorem isValid_of_merged {c : Context} {node merged : Members} {xs : List Json}
    (hx : node.lookup "anyOf" = some (.array xs)) (hm : mergeAlternatives? xs = some merged)
    (ha : ∀ key ∈ ["enum", "not", "nullable"], node.lookup key = none) (hitems : Agreeing xs)
    (hreferences : ∀ m ∈ xs, m.references = []) {v : Validator} {ws : List Validator}
    (hv : compileNode c (.object node) = .ok v)
    (hws : List.Forall₂ (fun m w => ∃ d, compileNode d m = .ok w) xs ws) :
    (∀ x, v.isValid x = true ↔ (∃ w ∈ ws, w.isValid x = true) ∧ HasItems c xs x) ∧
    ((∀ x, v.isValid x = true ↔ ∃ w ∈ ws, w.isValid x = true) ↔
      ((∃ m ∈ xs, AnyArray m) → ∀ ys, HasItems c xs (.array ys))) := by
  have hne : xs ≠ [] := by
    rintro rfl
    cases hm
  obtain ⟨u, hu, hvalid⟩ := isValid_congr_merged (ofNode_anyOf hne hx) hm ha hv
  have hiff : ∀ x, v.isValid x = true ↔ (∃ w ∈ ws, w.isValid x = true) ∧ HasItems c xs x := by
    intro x
    rw [hvalid]
    constructor
    · exact exists_isValid_of_merged hm hitems hreferences hu hws
    · rintro ⟨⟨w, hw, hwx⟩, hh⟩
      obtain ⟨m, -, -, hmerged⟩ :=
        exists_alternative_of_isValid hm hitems hreferences hu hws hw hwx
      exact hmerged hh
  refine ⟨hiff, ?_, fun hany x => ?_⟩
  · rintro hexact ⟨m, hmem, hm⟩ ys
    obtain ⟨w, hw, d, hd⟩ := exists_of_forall₂_left hws hmem
    exact ((hiff _).1 ((hexact _).2 ⟨w, hw, isValid_of_anyArray hm hd ys⟩)).2
  · rw [hiff]
    refine and_iff_left_of_imp ?_
    rintro ⟨w, hw, hwx⟩
    obtain ⟨m, hmem, hhas, -⟩ := exists_alternative_of_isValid hm hitems hreferences hu hws hw hwx
    by_cases hm : AnyArray m
    · intro n hn items hs harray
      obtain ⟨ys, rfl⟩ := harray
      exact hany ⟨m, hmem, hm⟩ ys n hn items hs ⟨ys, rfl⟩
    · exact hhas hm

def textNode : Json := .object [("type", .string "string")]

def orTexts (first : Json) : List Json := [first, .object (arrayNode textNode)]

def orTextsNode (first : Json) : Members := [("anyOf", .array (orTexts first))]

def text : Validator := .ofShape (.string [])

def texts : Validator := .ofShape (.array text [])

theorem agreeing_orTexts {first : Json} (h : ∀ items, ¬ SaysItems first items) :
    Agreeing (orTexts first) := by
  have hsaid : ∀ m ∈ orTexts first, ∀ items, SaysItems m items → items = textNode := by
    intro m hm items hs
    rcases List.mem_cons.1 hm with rfl | hm
    · exact absurd hs (h items)
    · obtain rfl := List.mem_singleton.1 hm
      obtain ⟨_, ⟨⟩, hl⟩ := hs
      exact (Option.some.inj hl).symm
  intro m hm n hn items others hs ho
  rw [hsaid m hm items hs, hsaid n hn others ho]

theorem compile_arrayNode_textNode :
    compile (.object (arrayNode textNode)) {} [] = .ok texts := by
  with_unfolding_all rfl

/-- A text or texts. -/
theorem isValid_of_merged_orTexts :
    compile (.object (orTextsNode textNode)) {} [] = .ok (.ofShape (.union [text, texts])) ∧
      compile textNode {} [] = .ok text ∧
      ∀ x, (Validator.ofShape (.union [text, texts])).isValid x = true ↔
        ∃ w ∈ [text, texts], w.isValid x = true := by
  have hv : compile (.object (orTextsNode textNode)) {} [] =
      .ok (.ofShape (.union [text, texts])) := by
    with_unfolding_all rfl
  have hw : compile textNode {} [] = .ok text := by
    with_unfolding_all rfl
  have hws : List.Forall₂ (fun m w => ∃ d, compileNode d m = .ok w) (orTexts textNode)
      [text, texts] :=
    .cons ⟨_, hw⟩ (.cons ⟨_, compile_arrayNode_textNode⟩ .nil)
  have hsaid : ∀ items, ¬ SaysItems textNode items := by
    rintro items ⟨_, ⟨⟩, hl⟩
    cases hl
  have hreferences : ∀ m ∈ orTexts textNode, m.references = [] := by
    decide
  refine ⟨hv, hw, (isValid_of_merged rfl rfl (by decide) (agreeing_orTexts hsaid) hreferences hv
    hws).2.2 ?_⟩
  rintro ⟨m, hm, ⟨_, _, rfl, hn, ha⟩, hi⟩
  rcases List.mem_cons.1 hm with hm | hm
  · cases hm
    cases hn
    exact absurd ha (by decide)
  · obtain ⟨⟩ := List.mem_singleton.1 hm
    exact absurd ⟨_, rfl, rfl⟩ (hi textNode)

def arrayTypeNode : Json := .object [("type", .string "array")]

/-- An array of any items is accepted by the first alternative, and not by the node. -/
theorem not_exact_orTexts :
    mergeAlternatives? (orTexts arrayTypeNode) = some (arrayNode textNode) ∧
      Agreeing (orTexts arrayTypeNode) ∧
      compile (.object (orTextsNode arrayTypeNode)) {} [] = .ok texts ∧
      compile arrayTypeNode {} [] = .ok (.ofShape (.array .any [])) ∧
      compile (.object (arrayNode textNode)) {} [] = .ok texts ∧
      (Validator.ofShape (.array .any [])).isValid (.array [.int 1]) = true ∧
      texts.isValid (.array [.int 1]) = false := by
  have hsaid : ∀ items, ¬ SaysItems arrayTypeNode items := by
    rintro items ⟨_, ⟨⟩, hl⟩
    cases hl
  exact ⟨rfl, agreeing_orTexts hsaid, by with_unfolding_all rfl, by with_unfolding_all rfl,
    compile_arrayNode_textNode, by with_unfolding_all rfl, by with_unfolding_all rfl⟩

end SchemaCheck.Schema
