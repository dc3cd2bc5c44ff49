import SchemaCheck.Proofs.Schema.Agreement
import SchemaCheck.Proofs.Schema.Keywords

namespace SchemaCheck.Schema

open Json (Members hasKey)

def mapAt (key : String) (f : Json → Json) (members : Members) : Members :=
  members.map fun m => (m.1, if m.1 = key then f m.2 else m.2)

def isSchema : Json → Bool
  | .object _ => true
  | .bool _ => true
  | _ => false

section Inline

variable (inline : Json → Json)

def inlineEach : Json → Json
  | .array xs => .array (xs.map inline)
  | x => x

def inlineProperties : Json → Json
  | .object properties => .object (properties.map fun m => (m.1, inline m.2))
  | x => x

/-- In the place of additional properties a truth value is no schema but a flag. One that a
reference leads to there becomes the only branch of a conjunction. -/
def inlineUnknown : Json → Json
  | .object x =>
    match inline (.object x) with
    | .bool b => .object [("allOf", .array [.bool b])]
    | y => y
  | x => x

def inlineObject (node : Members) : Members :=
  mapAt "properties" (inlineProperties inline)
    (mapAt "additionalProperties" (inlineUnknown inline) node)

/-- Positions are under items or else under prefixItems, and items of their own only beside no
positions. -/
def inlineArray (node : Members) : Members :=
  match node.lookup "items" with
  | some (.array _) => mapAt "items" (inlineEach inline) node
  | _ =>
    if hasKey "prefixItems" node then mapAt "prefixItems" (inlineEach inline) node
    else mapAt "items" inline node

def inlineTypes (types : List TypeName) (node : Members) : Members :=
  let node := if .object ∈ types then inlineObject inline node else node
  if .array ∈ types then inlineArray inline node else node

/-- Of alternatives that are merged, the first that has items. -/
def inlineFirst : List Json → List Json
  | .object alternative :: rest =>
    if hasKey "items" alternative then .object (inlineArray inline alternative) :: rest
    else .object alternative :: inlineFirst rest
  | xs => xs

def inlineAlternatives (xs : List Json) : List Json :=
  if (mergeAlternatives? xs).isSome then inlineFirst inline xs else xs.map inline

def inlineForm (node : Members) : Form → Members
  | .anyOf xs => mapAt "anyOf" (fun _ => .array (inlineAlternatives inline xs)) node
  | .oneOf _ => mapAt "oneOf" (inlineEach inline) node
  | .allOf _ => mapAt "allOf" (inlineEach inline) node
  | .typed t => inlineTypes inline [t] node
  | .types ts => inlineTypes inline ts node
  | _ => node

def inlineNode (node : Members) (form : Form) : Members :=
  mapAt "not" inline (inlineForm inline node form)

def inlineStep (follow : String → Option Json) : Json → Json
  | .object node =>
    match Form.ofNode node with
    | .ok (.ref reference) => ((follow reference).filter isSchema).getD (.object node)
    | .ok form => .object (inlineNode inline node form)
    | .error _ => .object node
  | x => x

end Inline

/-- The value with what references lead to in their place, `n` levels deep. Only the references that
are met in compiling the value are replaced, and what stands beside them is dropped. -/
def inlined (target? : String → Option Json) : Nat → Json → Json
  | 0, x => x
  | n + 1, x =>
    inlineStep (inlined target? n) (fun reference => (target? reference).map (inlined target? n)) x

theorem lookup_mapAt (key other : String) (f : Json → Json) (members : Members) :
    (mapAt key f members).lookup other =
      if other = key then (members.lookup other).map f else members.lookup other := by
  induction members with
  | nil => simp [mapAt]
  | cons m rest ih =>
      rw [mapAt] at ih ⊢
      rw [List.map_cons, List.lookup_cons, List.lookup_cons, ih]
      by_cases hm : other = m.1
      · subst hm
        by_cases hk : m.1 = key <;> simp [hk]
      · simp [beq_eq_false_iff_ne.2 hm]

theorem lookup_mapAt_of_ne {key other : String} (h : other ≠ key) (f : Json → Json)
    (members : Members) : (mapAt key f members).lookup other = members.lookup other := by
  rw [lookup_mapAt, if_neg h]

theorem lookup_mapAt_self (key : String) (f : Json → Json) (members : Members) :
    (mapAt key f members).lookup key = (members.lookup key).map f := by
  rw [lookup_mapAt, if_pos rfl]

theorem keys_mapAt (key : String) (f : Json → Json) (members : Members) :
    Json.keys (mapAt key f members) = Json.keys members := by
  simp [mapAt, Json.keys, List.map_map, Function.comp_def]

section Lookups

variable {inline : Json → Json} {node : Members} {key : String}

theorem lookup_inlineObject (hp : key ≠ "properties") (ha : key ≠ "additionalProperties") :
    (inlineObject inline node).lookup key = node.lookup key := by
  rw [inlineObject, lookup_mapAt_of_ne hp, lookup_mapAt_of_ne ha]

theorem lookup_inlineArray (hi : key ≠ "items") (hp : key ≠ "prefixItems") :
    (inlineArray inline node).lookup key = node.lookup key := by
  rw [inlineArray]
  split
  · exact lookup_mapAt_of_ne hi _ _
  · split
    · exact lookup_mapAt_of_ne hp _ _
    · exact lookup_mapAt_of_ne hi _ _

def partKeys : List String := ["properties", "additionalProperties", "items", "prefixItems"]

theorem lookup_inlineTypes (types : List TypeName) (hk : key ∉ partKeys) :
    (inlineTypes inline types node).lookup key = node.lookup key := by
  simp only [partKeys, List.mem_cons, List.not_mem_nil, or_false, not_or] at hk
  have ho : (if .object ∈ types then inlineObject inline node else node).lookup key =
      node.lookup key := by
    split
    · exact lookup_inlineObject hk.1 hk.2.1
    · rfl
  rw [inlineTypes]
  split
  · rw [lookup_inlineArray hk.2.2.1 hk.2.2.2, ho]
  · exact ho

def formKeys : List String := ["anyOf", "oneOf", "allOf"] ++ partKeys

theorem lookup_inlineForm (form : Form) (hk : key ∉ formKeys) :
    (inlineForm inline node form).lookup key = node.lookup key := by
  simp only [formKeys, List.mem_append, not_or, List.mem_cons, List.not_mem_nil, or_false] at hk
  obtain ⟨⟨hany, hone, hall⟩, hparts⟩ := hk
  cases form with
  | anyOf xs => rw [inlineForm, lookup_mapAt_of_ne hany]
  | oneOf xs => rw [inlineForm, lookup_mapAt_of_ne hone]
  | allOf xs => rw [inlineForm, lookup_mapAt_of_ne hall]
  | typed t => exact lookup_inlineTypes _ hparts
  | types ts => exact lookup_inlineTypes _ hparts
  | ref | enum | const | any => rfl

theorem lookup_inlineNode (form : Form) (hn : key ≠ "not") (hk : key ∉ formKeys) :
    (inlineNode inline node form).lookup key = node.lookup key := by
  rw [inlineNode, lookup_mapAt_of_ne hn, lookup_inlineForm form hk]

theorem lookup_not_inlineNode (form : Form) :
    (inlineNode inline node form).lookup "not" = (node.lookup "not").map inline := by
  rw [inlineNode, lookup_mapAt_self, lookup_inlineForm form (by decide)]

end Lookups

def ChildCompiler.through (child : ChildCompiler) (inline : Json → Json) : ChildCompiler :=
  fun segments x => child segments <|
    if segments = ["additionalProperties"] then inlineUnknown inline x else inline x

theorem ChildCompiler.through_of_ne {child : ChildCompiler} {inline : Json → Json}
    {segments : List String} (h : segments ≠ ["additionalProperties"]) (x : Json) :
    child.through inline segments x = child segments (inline x) := by
  rw [ChildCompiler.through, if_neg h]

structure KeepsSchemas (inline : Json → Json) : Prop where
  node : ∀ x, isSchema (inline (.object x)) = true
  other : ∀ x, (∀ node, x ≠ .object node) → inline x = x

theorem KeepsSchemas.unknown {inline : Json → Json} (h : KeepsSchemas inline) (x : Members) :
    ∃ y, inlineUnknown inline (.object x) = .object y := by
  have hs := h.node x
  rw [inlineUnknown]
  cases hi : inline (.object x) with
  | object y => exact ⟨y, rfl⟩
  | bool b => exact ⟨_, rfl⟩
  | null | number n | string s | array items =>
      rw [hi] at hs
      cases hs

theorem KeepsSchemas.ne_array {inline : Json → Json} (h : KeepsSchemas inline) {x : Json}
    (hx : ∀ xs, x ≠ .array xs) (xs : List Json) : inline x ≠ .array xs := by
  intro he
  by_cases hn : ∃ node, x = .object node
  · obtain ⟨node, rfl⟩ := hn
    have hs := h.node node
    rw [he] at hs
    cases hs
  · rw [h.other x fun node hx => hn ⟨node, hx⟩] at he
    exact hx xs he

structure InlinedFor (inline : Json → Json) (t : TypeName) (node other : Members) : Prop where
  same : SameAt ("required" :: checkKeys) node other
  object : t = .object →
    other.lookup "properties" = (node.lookup "properties").map (inlineProperties inline) ∧
    other.lookup "additionalProperties" =
      (node.lookup "additionalProperties").map (inlineUnknown inline)
  array : t = .array → SameAt ["items", "prefixItems"] (inlineArray inline node) other

section Compile

variable {inline : Json → Json} {path : String} {child : ChildCompiler}

theorem compileEach_map (keyword : String) (i : Nat) (xs : List Json) :
    compileEach child keyword i (xs.map inline) =
      compileEach (child.through inline) keyword i xs := by
  induction xs generalizing i with
  | nil => rfl
  | cons x rest ih =>
      rw [List.map_cons, compileEach, compileEach, ih, ChildCompiler.through_of_ne (by simp)]

theorem compileProperties_map (required : List String) (properties : Members) :
    compileProperties child required (properties.map fun m => (m.1, inline m.2)) =
      compileProperties (child.through inline) required properties := by
  induction properties with
  | nil => rfl
  | cons m rest ih =>
      obtain ⟨name, x⟩ := m
      rw [List.map_cons, compileProperties, compileProperties, ih,
        ChildCompiler.through_of_ne (by simp)]

variable {node other : Members} (hinline : KeepsSchemas inline)

theorem compileFields_inlined (required : List String)
    (h : other.lookup "properties" = (node.lookup "properties").map (inlineProperties inline)) :
    compileFields path child required other =
      compileFields path (child.through inline) required node := by
  rw [compileFields, compileFields, h]
  cases node.lookup "properties" with
  | none => rfl
  | some x =>
      cases x with
      | object properties => exact compileProperties_map required properties
      | null | bool b | number n | string s | array items => rfl

include hinline

theorem compileUnknown_inlined (h : other.lookup "additionalProperties" =
      (node.lookup "additionalProperties").map (inlineUnknown inline)) :
    compileUnknown path child other = compileUnknown path (child.through inline) node := by
  rw [compileUnknown, compileUnknown, h]
  cases node.lookup "additionalProperties" with
  | none => rfl
  | some x =>
      cases x with
      | object x =>
          obtain ⟨y, hy⟩ := hinline.unknown x
          rw [Option.map_some, hy]
          simp only [ChildCompiler.through, if_true, hy]
      | bool b => cases b <;> rfl
      | null | number n | string s | array items => rfl

omit hinline in
theorem compileArray_of_items (h : ∀ xs, node.lookup "items" ≠ some (.array xs)) :
    compileArray path child node = match node.lookup "prefixItems" with
      | some (.array positions) => compileTuple child "prefixItems" positions
      | some _ => .error (.malformed path (.notArray "prefixItems"))
      | none => compileList path child node := by
  rw [compileArray]
  split
  next xs hn => exact absurd hn (h xs)
  next => rfl

omit hinline in
theorem inlineArray_of_items (h : ∀ xs, node.lookup "items" ≠ some (.array xs)) :
    inlineArray inline node =
      if hasKey "prefixItems" node then mapAt "prefixItems" (inlineEach inline) node
      else mapAt "items" inline node := by
  rw [inlineArray]
  split
  next xs hn => exact absurd hn (h xs)
  next => rfl

theorem compileArray_inlined (hs : SameAt checkKeys node other)
    (h : SameAt ["items", "prefixItems"] (inlineArray inline node) other) :
    compileArray path child other = compileArray path (child.through inline) node := by
  have hitems := h.lookup "items" (by decide)
  have hpositions := h.lookup "prefixItems" (by decide)
  by_cases ha : ∃ xs, node.lookup "items" = some (.array xs)
  · obtain ⟨xs, hn⟩ := ha
    have ho : other.lookup "items" = some (.array (xs.map inline)) := by
      rw [← hitems, inlineArray, hn, lookup_mapAt_self, hn]
      rfl
    rw [compileArray, compileArray, ho, hn]
    exact congrArg (· >>= _) (compileEach_map "items" 0 xs)
  · have hn : ∀ xs, node.lookup "items" ≠ some (.array xs) := fun xs he => ha ⟨xs, he⟩
    rw [inlineArray_of_items hn] at hitems hpositions
    rw [compileArray_of_items hn]
    cases hp : node.lookup "prefixItems" with
    | some y =>
        rw [hasKey, hp, Option.isSome_some, if_pos rfl] at hitems hpositions
        rw [lookup_mapAt_of_ne (by decide)] at hitems
        rw [lookup_mapAt_self, hp] at hpositions
        rw [compileArray_of_items (hitems ▸ hn), ← hpositions]
        cases y with
        | array xs => exact congrArg (· >>= _) (compileEach_map "prefixItems" 0 xs)
        | null | bool b | number n | string s | object members => rfl
    | none =>
        rw [hasKey, hp, Option.isSome_none, if_neg (by decide)] at hitems hpositions
        rw [lookup_mapAt_self] at hitems
        rw [lookup_mapAt_of_ne (by decide), hp] at hpositions
        have ho : ∀ xs, other.lookup "items" ≠ some (.array xs) := by
          intro xs he
          rw [← hitems] at he
          obtain ⟨x, hx, he⟩ := Option.map_eq_some_iff.1 he
          exact hinline.ne_array (fun ys hy => hn ys (hy ▸ hx)) xs he
        rw [compileArray_of_items ho, ← hpositions, compileList, compileList, compileElement,
          compileElement, ← hitems, hs.arrayChecks]
        cases node.lookup "items" with
        | none => rfl
        | some x =>
            have hs : ["items"] ≠ ["additionalProperties"] := by decide
            simp only [Option.map_some, ChildCompiler.through_of_ne hs]

theorem InlinedFor.compileTyped {t : TypeName} (h : InlinedFor inline t node other) :
    compileTyped path child other t = compileTyped path (child.through inline) node t := by
  have hc : SameAt checkKeys node other := h.same.mono (List.subset_cons_self _ _)
  cases t with
  | object =>
      obtain ⟨hproperties, hadditional⟩ := h.object rfl
      have hrequired : requiredKeys node = requiredKeys other := by
        rw [requiredKeys, requiredKeys, h.same "required" (List.mem_cons_self ..)]
      rw [Schema.compileTyped, Schema.compileTyped, compileObject, compileObject, hrequired,
        compileUnknown_inlined hinline hadditional, hc.objectChecks]
      simp only [compileFields_inlined _ hproperties]
  | array => exact compileArray_inlined hinline hc (h.array rfl)
  | string => rw [Schema.compileTyped, Schema.compileTyped, hc.stringChecks]
  | number | integer => rw [Schema.compileTyped, Schema.compileTyped, hc.numberChecks]
  | boolean | null => rfl

theorem compileBranches_inlined {types : List TypeName}
    (h : ∀ t ∈ types, InlinedFor inline t node other) :
    compileBranches path child other types =
      compileBranches path (child.through inline) node types := by
  induction types with
  | nil => rfl
  | cons t rest ih =>
      rw [List.forall_mem_cons] at h
      rw [compileBranches, compileBranches, ih h.2, ← (like_narrow other t).compileTyped,
        ← (like_narrow node t).compileTyped, h.1.compileTyped hinline]

theorem compileTypes_inlined {types : List TypeName}
    (h : ∀ t ∈ types, InlinedFor inline t node other) :
    compileTypes path child other types =
      compileTypes path (child.through inline) node types := by
  have hb : ∀ t ∈ branchTypes types, InlinedFor inline t node other := by
    intro t ht
    rw [branchTypes_eq] at ht
    have hm := (List.mem_filter.1 ht).1
    rw [distinctTypes, mem_foldl_addType] at hm
    exact h t (by simpa using hm)
  rw [compileTypes, compileTypes, compileBranches_inlined hinline hb]

end Compile

section Types

variable {inline : Json → Json} {node other : Members}

theorem inlineArray_congr (h : SameAt ["items", "prefixItems"] node other) :
    SameAt ["items", "prefixItems"] (inlineArray inline node) (inlineArray inline other) := by
  intro key hk
  rw [inlineArray, inlineArray, hasKey, hasKey, h.lookup "items" (by decide),
    h.lookup "prefixItems" (by decide)]
  split
  · rw [lookup_mapAt, lookup_mapAt, h key hk]
  · split <;> rw [lookup_mapAt, lookup_mapAt, h key hk]

theorem inlinedFor_inlineTypes {t : TypeName} {types : List TypeName} (ht : t ∈ types) :
    InlinedFor inline t node (inlineTypes inline types node) where
  same := by
    intro key hk
    refine (lookup_inlineTypes types ?_).symm
    revert key
    decide
  object := by
    rintro rfl
    have ho : ∀ key, key ≠ "items" → key ≠ "prefixItems" →
        (inlineTypes inline types node).lookup key = (inlineObject inline node).lookup key := by
      intro key hi hp
      rw [inlineTypes, if_pos ht]
      split
      · exact lookup_inlineArray hi hp
      · rfl
    rw [ho _ (by decide) (by decide), ho _ (by decide) (by decide), inlineObject, lookup_mapAt_self,
      lookup_mapAt_of_ne (by decide), lookup_mapAt_of_ne (by decide), lookup_mapAt_self]
    exact ⟨rfl, rfl⟩
  array := by
    rintro rfl
    rw [inlineTypes, if_pos ht]
    refine inlineArray_congr fun key hk => ?_
    split
    · refine (lookup_inlineObject ?_ ?_).symm <;> rintro rfl <;> revert hk <;> decide
    · rfl

end Types

section Merge

variable {inline : Json → Json} {alternative other : Members}

theorem mergeableTypes?_congr (hk : Json.keys other = Json.keys alternative)
    (ht : other.lookup "type" = alternative.lookup "type") :
    mergeableTypes? other = mergeableTypes? alternative := by
  have hall : ∀ members : Members, members.all (fun m => mergeableKeys.contains m.1) =
      (Json.keys members).all mergeableKeys.contains := by
    intro members
    rw [Json.keys, List.all_map]
    rfl
  rw [mergeableTypes?, mergeableTypes?, hall, hall, hk, ht]

theorem keys_inlineArray (node : Members) :
    Json.keys (inlineArray inline node) = Json.keys node := by
  rw [inlineArray]
  split
  · exact keys_mapAt ..
  · split <;> exact keys_mapAt ..

theorem mergeableTypes?_inlineArray :
    mergeableTypes? (inlineArray inline alternative) = mergeableTypes? alternative :=
  mergeableTypes?_congr (keys_inlineArray alternative) (lookup_inlineArray (by decide) (by decide))

theorem mergeParts?_some {xs : List Json} {types names : List String} {x : Json}
    {items : Option Json} (h : mergeParts? xs types (some x) = some (names, items)) :
    items = some x ∧ ∀ y, mergeParts? xs types (some y) = some (names, some y) := by
  induction xs generalizing types with
  | nil =>
      cases h
      exact ⟨rfl, fun y => rfl⟩
  | cons m rest ih =>
      cases m with
      | object alternative =>
          obtain ⟨ns, hns, h⟩ := Option.bind_eq_some_iff.1 h
          obtain ⟨hi, hy⟩ := ih h
          refine ⟨hi, fun y => ?_⟩
          rw [mergeParts?, hns]
          exact hy y
      | null | bool b | number n | string s | array items => cases h

def inlineItems (inline : Json → Json) : Json → Json
  | .array xs => .array (xs.map inline)
  | x => inline x

theorem lookup_items_inlineArray {node : Members} (h : node.lookup "prefixItems" = none) :
    (inlineArray inline node).lookup "items" = (node.lookup "items").map (inlineItems inline) := by
  rw [inlineArray, hasKey, h, Option.isSome_none, if_neg (by decide)]
  split
  next xs hi =>
    rw [lookup_mapAt_self, hi]
    rfl
  next hi =>
    rw [lookup_mapAt_self]
    cases hl : node.lookup "items" with
    | none => rfl
    | some x =>
        cases x with
        | array xs => exact absurd hl (hi xs)
        | null | bool b | number n | string s | object members => rfl

theorem mergeParts?_inlineFirst {xs : List Json} {types names : List String} {items : Option Json}
    (h : mergeParts? xs types none = some (names, items)) :
    mergeParts? (inlineFirst inline xs) types none =
      some (names, items.map (inlineItems inline)) := by
  induction xs generalizing types with
  | nil =>
      cases h
      rfl
  | cons m rest ih =>
      cases m with
      | object alternative =>
          obtain ⟨ns, hns, h⟩ := Option.bind_eq_some_iff.1 h
          cases hi : alternative.lookup "items" with
          | none =>
              rw [hi] at h
              rw [inlineFirst, hasKey, hi, Option.isSome_none, if_neg (by decide), mergeParts?,
                hns, hi]
              exact ih h
          | some x =>
              rw [hi] at h
              obtain ⟨rfl, hy⟩ := mergeParts?_some h
              have hp : alternative.lookup "prefixItems" = none :=
                absent_of_mergeable hns (by decide)
              rw [inlineFirst, hasKey, hi, Option.isSome_some, if_pos rfl, mergeParts?,
                mergeableTypes?_inlineArray, hns, lookup_items_inlineArray hp, hi]
              exact hy _
      | null | bool b | number n | string s | array items => cases h

theorem mergeAlternatives?_inlineFirst {xs : List Json} {merged : Members}
    (h : mergeAlternatives? xs = some merged) :
    mergeAlternatives? (inlineFirst inline xs) = some (inlineArray inline merged) := by
  obtain ⟨names, items, hp, ha, rfl⟩ := mergeAlternatives?_eq_some h
  rw [mergeAlternatives?, mergeParts?_inlineFirst hp]
  change (if names.contains "array" then _ else _) = _
  rw [if_pos (List.contains_iff_mem.2 ha)]
  cases items with
  | none => rfl
  | some x => cases x <;> rfl

theorem inlinedFor_merged {xs : List Json} {merged : Members}
    (h : mergeAlternatives? xs = some merged) (t : TypeName) :
    InlinedFor inline t merged (inlineArray inline merged) where
  same := by
    intro key hk
    refine (lookup_inlineArray ?_ ?_).symm <;> rintro rfl <;> revert hk <;> decide
  object _ := by
    rw [lookup_inlineArray (by decide) (by decide), lookup_inlineArray (by decide) (by decide),
      lookup_merged h (by decide) (by decide), lookup_merged h (by decide) (by decide)]
    exact ⟨rfl, rfl⟩
  array _ := fun _ _ => rfl

theorem compileMerged_inlineArray (hinline : KeepsSchemas inline) {xs : List Json}
    {merged : Members} (h : mergeAlternatives? xs = some merged) {path : String}
    {child : ChildCompiler} :
    compileMerged path child (inlineArray inline merged) =
      compileMerged path (child.through inline) merged := by
  have hconst : merged.lookup "const" = none := lookup_merged h (by decide) (by decide)
  obtain ⟨y, hy⟩ := Option.isSome_iff_exists.1 (hasKey_type_merged h)
  have hform : Form.ofTypeOrConst (inlineArray inline merged) = Form.ofTypeOrConst merged := by
    rw [Form.ofTypeOrConst, Form.ofTypeOrConst, lookup_inlineArray (by decide) (by decide),
      lookup_inlineArray (by decide) (by decide), hconst, hy]
  rw [compileMerged, compileMerged, hform]
  refine bind_congr fun form => ?_
  cases form with
  | typed t => exact (inlinedFor_merged h t).compileTyped hinline
  | types ts => exact compileTypes_inlined hinline fun t _ => inlinedFor_merged h t
  | anyOf | oneOf | allOf | ref | enum | const | any => rfl

def KeepsMerging (inline : Json → Json) (xs : List Json) : Prop :=
  mergeAlternatives? xs = none → mergeAlternatives? (xs.map inline) = none

theorem compileAnyOf_inlineAlternatives (hinline : KeepsSchemas inline) {xs : List Json}
    (h : KeepsMerging inline xs) {path : String} {child : ChildCompiler} :
    compileAnyOf path child (inlineAlternatives inline xs) =
      compileAnyOf path (child.through inline) xs := by
  rw [inlineAlternatives, compileAnyOf, compileAnyOf]
  cases hm : mergeAlternatives? xs with
  | some merged =>
      rw [Option.isSome_some, if_pos rfl, mergeAlternatives?_inlineFirst hm]
      exact compileMerged_inlineArray hinline hm
  | none =>
      rw [Option.isSome_none, if_neg (by decide), h hm]
      simp only [compileEach_map]

end Merge

def Form.inlined (inline : Json → Json) : Form → Form
  | .anyOf xs => .anyOf (inlineAlternatives inline xs)
  | .oneOf xs => .oneOf (xs.map inline)
  | .allOf xs => .allOf (xs.map inline)
  | form => form

section Forms

variable {inline : Json → Json} {node : Members} {form : Form}

theorem keys_inlineTypes (types : List TypeName) :
    Json.keys (inlineTypes inline types node) = Json.keys node := by
  have ho : Json.keys (if .object ∈ types then inlineObject inline node else node) =
      Json.keys node := by
    split
    · rw [inlineObject, keys_mapAt, keys_mapAt]
    · rfl
  rw [inlineTypes]
  split
  · rw [keys_inlineArray, ho]
  · exact ho

theorem keys_inlineNode (form : Form) :
    Json.keys (inlineNode inline node form) = Json.keys node := by
  rw [inlineNode, keys_mapAt]
  cases form with
  | anyOf xs => rw [inlineForm, keys_mapAt]
  | oneOf xs => rw [inlineForm, keys_mapAt]
  | allOf xs => rw [inlineForm, keys_mapAt]
  | typed t => exact keys_inlineTypes [t]
  | types ts => exact keys_inlineTypes ts
  | ref | enum | const | any => rfl

theorem ofNode_inlineTypes (types : List TypeName) :
    Form.ofNode (mapAt "not" inline (inlineTypes inline types node)) = Form.ofNode node := by
  refine ofNode_congr ?_ fun key _ => ?_
  · intro key hk
    have hn : key ≠ "not" ∧ key ∉ partKeys := by
      revert key
      decide
    rw [lookup_mapAt_of_ne hn.1, lookup_inlineTypes types hn.2]
  · rw [Json.hasKey_eq_contains, Json.hasKey_eq_contains, keys_mapAt, keys_inlineTypes]

theorem ofNode_mapAt_not : Form.ofNode (mapAt "not" inline node) = Form.ofNode node := by
  have h : Form.ofNode (mapAt "not" inline (inlineTypes inline [] node)) = Form.ofNode node :=
    ofNode_inlineTypes []
  simpa [inlineTypes] using h

theorem inlineFirst_ne_nil {xs : List Json} (h : xs ≠ []) : inlineFirst inline xs ≠ [] := by
  cases xs with
  | nil => exact absurd rfl h
  | cons x rest =>
      cases x with
      | object alternative =>
          rw [inlineFirst]
          split <;> exact List.cons_ne_nil _ _
      | null | bool b | number n | string s | array items => exact h

theorem inlineAlternatives_ne_nil {xs : List Json} (h : xs ≠ []) :
    inlineAlternatives inline xs ≠ [] := by
  rw [inlineAlternatives]
  split
  · exact inlineFirst_ne_nil h
  · simpa using h

theorem absent_of_oneOf {xs : List Json} (h : Form.ofNode node = .ok (.oneOf xs)) :
    node.lookup "anyOf" = none := by
  rw [Form.ofNode] at h
  split at h
  next =>
    obtain ⟨ys, -, -, he⟩ := nonEmptyArray_map_eq_ok h
    cases he
  next hany => exact hany

theorem absent_of_allOf {xs : List Json} (h : Form.ofNode node = .ok (.allOf xs)) :
    ∀ key ∈ ["anyOf", "oneOf"], node.lookup key = none := by
  rw [Form.ofNode] at h
  split at h
  next =>
    obtain ⟨ys, -, -, he⟩ := nonEmptyArray_map_eq_ok h
    cases he
  next hany =>
    split at h
    next =>
      obtain ⟨ys, -, -, he⟩ := nonEmptyArray_map_eq_ok h
      cases he
    next hone =>
      intro key hk
      simp only [List.mem_cons, List.not_mem_nil, or_false] at hk
      rcases hk with rfl | rfl <;> assumption

theorem ofNode_inlineNode (h : Form.ofNode node = .ok form)
    (hr : ∀ reference, form ≠ .ref reference) :
    Form.ofNode (inlineNode inline node form) = .ok (form.inlined inline) := by
  have hread := Form.readFrom_of_ofNode h
  rw [inlineNode]
  cases form with
  | anyOf xs =>
      refine ofNode_anyOf (inlineAlternatives_ne_nil hread.2) ?_
      rw [lookup_mapAt_of_ne (by decide), inlineForm, lookup_mapAt_self, hread.1]
      rfl
  | oneOf xs =>
      refine ofNode_oneOf (by simpa using hread.2) ?_ ?_
      · rw [lookup_mapAt_of_ne (by decide), inlineForm, lookup_mapAt_of_ne (by decide),
          absent_of_oneOf h]
      · rw [lookup_mapAt_of_ne (by decide), inlineForm, lookup_mapAt_self, hread.1]
        rfl
  | allOf xs =>
      refine ofNode_allOf (by simpa using hread.2) ?_ ?_
      · intro key hk
        have hn : key ≠ "not" ∧ key ≠ "allOf" := by
          revert key
          decide
        rw [lookup_mapAt_of_ne hn.1, inlineForm, lookup_mapAt_of_ne hn.2, absent_of_allOf h key hk]
      · rw [lookup_mapAt_of_ne (by decide), inlineForm, lookup_mapAt_self, hread.1]
        rfl
  | ref reference => exact absurd rfl (hr reference)
  | typed t => exact (ofNode_inlineTypes [t]).trans h
  | types ts => exact (ofNode_inlineTypes ts).trans h
  | enum | const | any => exact ofNode_mapAt_not.trans h

theorem like_mapAt_not : Like (mapAt "not" inline node) node := by
  intro key hk
  refine lookup_mapAt_of_ne ?_ inline node
  rintro rfl
  revert hk
  decide

theorem compileForm_inlined (hinline : KeepsSchemas inline)
    (hr : ∀ reference, form ≠ .ref reference) (hm : ∀ xs, form = .anyOf xs → KeepsMerging inline xs)
    {path : String} {child : ChildCompiler} {follow : String → Result} :
    compileForm path child follow (inlineNode inline node form) (form.inlined inline) =
      compileForm path (child.through inline) follow node form := by
  rw [inlineNode]
  cases form with
  | anyOf xs => exact compileAnyOf_inlineAlternatives hinline (hm xs rfl)
  | oneOf xs => exact congrArg (Except.map _) (compileEach_map "oneOf" 0 xs)
  | allOf xs => exact congrArg (Except.map _) (compileEach_map "allOf" 0 xs)
  | ref reference => exact absurd rfl (hr reference)
  | typed t =>
      have ht : InlinedFor inline t node (inlineTypes inline [t] node) :=
        inlinedFor_inlineTypes (List.mem_singleton_self t)
      exact (like_mapAt_not.compileTyped t).trans (ht.compileTyped hinline)
  | types ts =>
      have hts : compileTypes path child (inlineTypes inline ts node) ts =
          compileTypes path (child.through inline) node ts :=
        compileTypes_inlined hinline fun t ht => inlinedFor_inlineTypes ht
      refine Eq.trans ?_ hts
      exact like_mapAt_not.compileTypes ts
  | enum | const | any => rfl

/-- Compiling the inlined node is compiling the node with each child inlined first. -/
theorem compileMembers_inlineNode (hinline : KeepsSchemas inline)
    (h : Form.ofNode node = .ok form) (hr : ∀ reference, form ≠ .ref reference)
    (hm : ∀ xs, form = .anyOf xs → KeepsMerging inline xs)
    {path : String} {child : ChildCompiler} {follow : String → Result} :
    compileMembers path child follow (inlineNode inline node form) =
      compileMembers path (child.through inline) follow node := by
  have hr' : ∀ reference, form.inlined inline ≠ .ref reference := by
    intro reference he
    cases form with
    | ref reference => exact hr reference rfl
    | anyOf | oneOf | allOf | enum | const | typed | types | any => cases he
  have hl : ∀ key ∈ ["nullable", "enum", "default", "description", "title"],
      (inlineNode inline node form).lookup key = node.lookup key := by
    intro key hk
    apply lookup_inlineNode <;> revert key <;> decide
  have hexcluded : ∀ v, setExcluded child (inlineNode inline node form) v =
      setExcluded (child.through inline) node v := by
    intro v
    rw [setExcluded, setExcluded, lookup_not_inlineNode]
    cases node.lookup "not" with
    | none => rfl
    | some x =>
        have hs : ["not"] ≠ ["additionalProperties"] := by decide
        simp only [Option.map_some, ChildCompiler.through_of_ne hs]
  have hmodify : ∀ v, modify path child (inlineNode inline node form) (form.inlined inline) v =
      modify path (child.through inline) node form v := by
    intro v
    have he : (form.inlined inline).isEnum = form.isEnum := by
      cases form <;> rfl
    simp only [modify_eq, setNullable, refineEnum, he, hexcluded, hl "nullable" (by decide),
      hl "enum" (by decide)]
  have hmetadata : ∀ v, withMetadata (inlineNode inline node form) v = withMetadata node v := by
    intro v
    rw [withMetadata, withMetadata, hl "default" (by decide), hl "description" (by decide),
      hl "title" (by decide)]
  rw [compileMembers_eq h hr, compileMembers_eq (ofNode_inlineNode h hr) hr',
    compileForm_inlined hinline hr hm]
  simp only [hmodify, hmetadata]

end Forms

end SchemaCheck.Schema
