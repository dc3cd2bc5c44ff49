import SchemaCheck.Proofs.Json.DistinctKeys
import SchemaCheck.Proofs.Schema.Context
import SchemaCheck.Proofs.Schema.DistinctRules
import SchemaCheck.Proofs.Schema.Parts
import SchemaCheck.Schema.Strict

namespace SchemaCheck.Schema

open Json (Members)

variable {path : String} {child : ChildCompiler} {node : Members}

def WellFormedChildren (child : ChildCompiler) : Prop :=
  CompiledTo (fun x => x.hasDistinctKeys = true) Validator.WellFormed child

structure Combines (shape : List Validator → Shape) : Prop where
  wellFormed : ∀ vs, 2 ≤ vs.length → (shape vs).WellFormed
  validators : ∀ vs, (shape vs).validators = vs

theorem combines_union : Combines .union := ⟨fun _ h => h, fun _ => rfl⟩

theorem combines_exclusiveUnion : Combines .exclusiveUnion := ⟨fun _ h => h, fun _ => rfl⟩

theorem combines_intersection : Combines .intersection := ⟨fun _ h => h, fun _ => rfl⟩

theorem Combines.wellFormed_combine {shape : List Validator → Shape} (hs : Combines shape)
    {vs : List Validator} (hne : vs ≠ []) (hv : ∀ v ∈ vs, v.WellFormed) :
    (combine shape vs).WellFormed := by
  match vs, hne with
  | [v], _ => exact hv v (by simp)
  | u :: v :: rest, _ =>
      refine Validator.wellFormed_ofShape (hs.wellFormed _ (by simp)) fun w hw => hv w ?_
      rwa [hs.validators] at hw

theorem combineEach_wellFormed (hc : WellFormedChildren child) (keyword : String)
    {shape : List Validator → Shape} (hs : Combines shape) {xs : List Json} (hne : xs ≠ [])
    (hx : ∀ x ∈ xs, x.hasDistinctKeys = true) :
    Produces Validator.WellFormed ((compileEach child keyword 0 xs).map (combine shape)) := by
  refine (compileEach_parts hc keyword 0 hx).map fun vs hvs => ?_
  have hne' : vs ≠ [] := by
    rintro rfl
    exact hne (List.eq_nil_of_length_eq_zero hvs.1.symm)
  exact hs.wellFormed_combine hne' hvs.2

theorem compileTuple_wellFormed (hc : WellFormedChildren child) (keyword : String)
    {xs : List Json} (hx : ∀ x ∈ xs, x.hasDistinctKeys = true) :
    Produces Validator.WellFormed (compileTuple child keyword xs) :=
  (compileEach_parts hc keyword 0 hx).bind fun _ hvs =>
    .ok (Validator.wellFormed_ofShape trivial hvs.2)

variable (hg : GoodValues (fun x => x.hasDistinctKeys = true) node)
include hg

theorem compileList_wellFormed (hc : WellFormedChildren child) :
    Produces Validator.WellFormed (compileList path child node) := by
  refine (compileElement_parts hc hg Validator.wellFormed_any).bind fun element hv => ?_
  refine (distinctRules_array node path).bind fun checks hd => ?_
  refine .ok (Validator.wellFormed_ofShape hd fun u hu => ?_)
  obtain rfl : u = element := by simpa [Shape.validators] using hu
  exact hv

theorem compileArray_wellFormed (hc : WellFormedChildren child) :
    Produces Validator.WellFormed (compileArray path child node) := by
  rw [compileArray]
  split
  next xs hi =>
    exact compileTuple_wellFormed hc "items" fun x hx => hg.item (hg.value (by decide) hi) hx
  next =>
    split
    next xs hi =>
      exact compileTuple_wellFormed hc "prefixItems" fun x hx =>
        hg.item (hg.value (by decide) hi) hx
    next => exact .error
    next => exact compileList_wellFormed hg hc

theorem compileFields_wellFormed (hc : WellFormedChildren child) (required : List String) :
    Produces (fun fields => (fields.map (·.name)).Nodup ∧ ∀ f ∈ fields, f.validator.WellFormed)
      (compileFields path child required node) := by
  rw [compileFields]
  split
  next => exact .ok ⟨List.nodup_nil, by simp⟩
  next properties hp =>
    have hd := Json.hasDistinctKeys_object.1 (hg.value (by decide) hp)
    exact (compileProperties_parts hc required hd.2).imp fun fields hf =>
      ⟨hf.1 ▸ hd.1, hf.2⟩
  next => exact .error

omit hg in
theorem nodup_addRequired {fields : List Field} (required : List String)
    (hd : (fields.map (·.name)).Nodup) : ((addRequired fields required).map (·.name)).Nodup := by
  induction required generalizing fields with
  | nil => exact hd
  | cons name rest ih =>
      rw [addRequired]
      split
      next => exact ih hd
      next hn =>
        apply ih
        rw [List.map_append, List.nodup_append]
        refine ⟨hd, by simp, ?_⟩
        intro a ha b hb
        obtain ⟨f, hf, rfl⟩ := List.mem_map.1 ha
        obtain rfl : b = name := by simpa using hb
        rintro rfl
        exact hn (List.any_eq_true.2 ⟨f, hf, by simp⟩)

theorem compileObject_wellFormed (hc : WellFormedChildren child) :
    Produces Validator.WellFormed (compileObject path child node) := by
  refine Produces.trivial.bind fun required _ => ?_
  refine (compileFields_wellFormed hg hc required).bind fun fields hf => ?_
  refine (compileUnknown_parts hc hg).bind fun unknown hu => ?_
  refine (distinctRules_object node path).bind fun checks hd => ?_
  have hn := nodup_addRequired required hf.1
  have hv := addRequired_parts Validator.wellFormed_any required hf.2
  refine .ok (Validator.wellFormed_ofShape ⟨hn, hd⟩ fun u hm => ?_)
  rcases List.mem_append.1 hm with hm | hm
  · obtain ⟨f, hf, rfl⟩ := List.mem_map.1 hm
    exact hv f hf
  · exact hu u hm

theorem compileTyped_wellFormed (hc : WellFormedChildren child) (t : TypeName) :
    Produces Validator.WellFormed (compileTyped path child node t) := by
  cases t with
  | object => exact compileObject_wellFormed hg hc
  | array => exact compileArray_wellFormed hg hc
  | string =>
      refine (distinctRules_string node path).bind fun checks hd => ?_
      exact .ok (Validator.wellFormed_ofShape hd nofun)
  | number | integer =>
      refine (distinctRules_number node path).bind fun checks hd => ?_
      exact .ok (Validator.wellFormed_ofShape hd nofun)
  | boolean | null => exact .ok (Validator.wellFormed_ofShape trivial nofun)

theorem compileBranches_wellFormed (hc : WellFormedChildren child) (types : List TypeName) :
    Produces (fun vs => ∀ v ∈ vs, v.WellFormed) (compileBranches path child node types) := by
  induction types with
  | nil => exact .ok nofun
  | cons t rest ih =>
      refine (compileTyped_wellFormed (hg.narrow t) hc t).bind fun v hv => ?_
      refine ih.bind fun vs hvs => ?_
      exact .ok (List.forall_mem_cons.2 ⟨hv, hvs⟩)

theorem compileTypes_wellFormed (hc : WellFormedChildren child) (types : List TypeName) :
    Produces Validator.WellFormed (compileTypes path child node types) := by
  refine (compileBranches_wellFormed hg hc _).bind fun vs hvs => ?_
  split
  next => exact .ok (Validator.wellFormed_ofShape trivial nofun)
  next hne =>
    have hu : (combine .union vs).WellFormed :=
      combines_union.wellFormed_combine (by simpa using hne) hvs
    split
    · exact .ok hu.withNullable
    · exact .ok hu

theorem compileMerged_wellFormed (hc : WellFormedChildren child) :
    Produces Validator.WellFormed (compileMerged path child node) := by
  refine Produces.trivial.bind fun form _ => ?_
  cases form with
  | typed t => exact compileTyped_wellFormed hg hc t
  | types ts => exact compileTypes_wellFormed hg hc ts
  | anyOf | oneOf | allOf | ref | enum | const | any => exact .ok Validator.wellFormed_any

theorem compileAnyOf_wellFormed (hc : WellFormedChildren child) {xs : List Json} (hne : xs ≠ [])
    (hx : ∀ x ∈ xs, x.hasDistinctKeys = true) :
    Produces Validator.WellFormed (compileAnyOf path child xs) := by
  rw [compileAnyOf]
  split
  next merged hm => exact compileMerged_wellFormed (hg.merged hx hm) hc
  next => exact combineEach_wellFormed hc "anyOf" combines_union hne hx

omit hg in
theorem setNullable_wellFormed {v : Validator} (hv : v.WellFormed) :
    Produces Validator.WellFormed (setNullable path node v) := by
  rw [setNullable]
  split
  · exact .ok hv
  · exact .ok hv
  · exact .ok hv.withNullable
  · exact .error

omit hg in
theorem refineEnum_wellFormed {v : Validator} (hv : v.WellFormed) :
    Produces Validator.WellFormed (refineEnum path node v) := by
  rw [refineEnum]
  split
  next => exact .ok hv
  next values _ =>
    split
    next => exact .error
    next hf => exact .ok (hv.withAllowed fun x hx => by simpa using List.find?_eq_none.1 hf x hx)
  next => exact .error

theorem setExcluded_wellFormed (hc : WellFormedChildren child) {v : Validator}
    (hv : v.WellFormed) : Produces Validator.WellFormed (setExcluded child node v) := by
  rw [setExcluded]
  split
  next => exact .ok hv
  next x hx =>
    refine (hc _ x (hg.value (by decide) hx)).bind fun u hu => ?_
    exact .ok (hv.withExcluded hu)

theorem modify_wellFormed (hc : WellFormedChildren child) (form : Form) {v : Validator}
    (hv : v.WellFormed) : Produces Validator.WellFormed (modify path child node form v) := by
  rw [modify_eq]
  refine (setNullable_wellFormed hv).bind fun v hv => ?_
  have henum : Produces Validator.WellFormed
      (if form.isEnum then .ok v else refineEnum path node v : Result) := by
    split
    · exact .ok hv
    · exact refineEnum_wellFormed hv
  exact henum.bind fun v hv => setExcluded_wellFormed hg hc hv

omit hg in
theorem wellFormed_compileEnum (values : List Json) : (compileEnum values).WellFormed := by
  unfold compileEnum
  split
  next => exact Validator.wellFormed_ofShape trivial nofun
  next hne =>
    refine Validator.wellFormed_ofShape (fun h => ?_) nofun
    obtain ⟨x, rfl⟩ := List.length_eq_one_iff.1 h
    exact hne x rfl

theorem compileForm_wellFormed (hc : WellFormedChildren child) {follow : String → Result}
    (hf : ∀ reference, Produces Validator.WellFormed (follow reference)) {form : Form}
    (hr : form.ReadFrom node) :
    Produces Validator.WellFormed (compileForm path child follow node form) := by
  have hitems : ∀ key, key ≠ "type" → ∀ xs, node.lookup key = some (.array xs) →
      ∀ x ∈ xs, x.hasDistinctKeys = true :=
    fun key hk xs hl x hx => hg.item (hg.value hk hl) hx
  cases form with
  | anyOf xs => exact compileAnyOf_wellFormed hg hc hr.2 (hitems _ (by decide) xs hr.1)
  | oneOf xs =>
      exact combineEach_wellFormed hc _ combines_exclusiveUnion hr.2
        (hitems _ (by decide) xs hr.1)
  | allOf xs =>
      exact combineEach_wellFormed hc _ combines_intersection hr.2
        (hitems _ (by decide) xs hr.1)
  | ref reference => exact hf reference
  | enum xs => exact .ok (wellFormed_compileEnum xs)
  | const x => exact .ok (Validator.wellFormed_ofShape trivial nofun)
  | typed t => exact compileTyped_wellFormed hg hc t
  | types ts => exact compileTypes_wellFormed hg hc ts
  | any => exact .ok Validator.wellFormed_any

theorem compileMembers_wellFormed (hc : WellFormedChildren child) {follow : String → Result}
    (hf : ∀ reference, Produces Validator.WellFormed (follow reference)) :
    Produces Validator.WellFormed (compileMembers path child follow node) := by
  rw [compileMembers]
  cases ho : Form.ofNode node with
  | error complaint => exact .error
  | ok form =>
      have hr := Form.readFrom_of_ofNode ho
      have hv : Produces Validator.WellFormed (do
          let v ← compileForm path child follow node form
          let v ← modify path child node form v
          .ok (withMetadata node v)) := by
        refine (compileForm_wellFormed hg hc hf hr).bind fun v hv => ?_
        refine (modify_wellFormed hg hc form hv).bind fun v hv => ?_
        exact .ok (hv.withMetadata node)
      cases form with
      | ref reference => exact hf reference
      | anyOf | oneOf | allOf | enum | const | typed | types | any => exact hv

omit hg

theorem compileStep_wellFormed {follow : String → Result} {x : Json}
    (hg : ∀ node, x = .object node → GoodValues (fun y => y.hasDistinctKeys = true) node)
    (hc : WellFormedChildren child)
    (hf : ∀ reference, Produces Validator.WellFormed (follow reference)) :
    Produces Validator.WellFormed (compileStep path child follow x) := by
  unfold compileStep
  split
  · exact .ok Validator.wellFormed_any
  · exact .ok (Validator.wellFormed_ofShape trivial nofun)
  · exact compileMembers_wellFormed (hg _ rfl) hc hf
  · exact .error

/-- No member of the node has a key twice, whatever the node says itself. -/
def DistinctMembers (node : Members) : Prop :=
  ∀ key x, node.lookup key = some x → x.hasDistinctKeys = true

theorem distinctMembers_of_hasDistinctKeys {node : Members}
    (h : (Json.object node).hasDistinctKeys = true) : DistinctMembers node :=
  fun _ _ hl => (Json.Part.member (Json.mem_of_lookup hl)).hasDistinctKeys h

theorem DistinctMembers.goodValues {node : Members} (h : DistinctMembers node) :
    GoodValues (fun x => x.hasDistinctKeys = true) node :=
  ⟨Json.Part.hasDistinctKeys, fun _ hl => h _ _ hl⟩

theorem DistinctMembers.put {node : Members} (h : DistinctMembers node) (key : String) {x : Json}
    (hx : x.hasDistinctKeys = true) : DistinctMembers (Json.put key x node) := by
  intro other y hl
  rw [Json.lookup_put] at hl
  split at hl
  · cases hl
    exact hx
  · exact h other y hl

theorem DistinctMembers.dropOptional {node : Members} (h : DistinctMembers node) :
    DistinctMembers (dropOptional node) := by
  rw [Schema.dropOptional]
  split
  next properties hp =>
    split
    · exact h
    · apply h.put
      obtain ⟨hk, hv⟩ := Json.hasDistinctKeys_object.1 (h _ _ hp)
      refine Json.hasDistinctKeys_object.2 ⟨?_, fun m hm => hv m (List.mem_filter.1 hm).1⟩
      exact (List.filter_sublist.map _).nodup hk
  next => exact h

/-- The induction is on the levels that are left; what a node says itself may be anything. -/
theorem compileNode_wellFormed {c : Context} (hroot : c.root.hasDistinctKeys = true)
    (hd : ∀ m ∈ c.definitions, m.2.hasDistinctKeys = true) {x : Json}
    (hx : ∀ node, x = .object node → DistinctMembers node) :
    Produces Validator.WellFormed (compileNode c x) := by
  have hgood : ∀ y : Json, y.hasDistinctKeys = true → ∀ node, y = .object node →
      DistinctMembers node := by
    rintro y hy node rfl
    exact distinctMembers_of_hasDistinctKeys hy
  induction hn : c.levelsLeft using Nat.strongRecOn generalizing c x with
  | ind n ih =>
      subst hn
      rw [compileNode_eq]
      refine compileStep_wellFormed (fun node he => (hx node he).goodValues) ?_ ?_
      · intro segments y hy v hv
        obtain ⟨d, hdesc, hv⟩ := bind_eq_ok hv
        have hlt := Context.levelsLeft_descend hdesc
        obtain ⟨-, hc⟩ := Context.descend_eq_ok hdesc
        have hroot : d.root.hasDistinctKeys = true := by rwa [hc]
        have hd : ∀ m ∈ d.definitions, m.2.hasDistinctKeys = true := by rwa [hc]
        exact ih _ hlt hroot hd (hgood y hy) rfl v hv
      · intro reference v hv
        obtain ⟨⟨d, target⟩, hfollow, hv⟩ := bind_eq_ok hv
        obtain ⟨henter, hr⟩ := Context.enter_of_follow hfollow
        have ht := Context.of_resolve? Json.Part.hasDistinctKeys hroot hd hr
        have hlt := Context.levelsLeft_follow hfollow
        obtain ⟨-, -, hc⟩ := Context.enter_eq_ok henter
        have hroot : d.root.hasDistinctKeys = true := by rwa [hc]
        have hd : ∀ m ∈ d.definitions, m.2.hasDistinctKeys = true := by rwa [hc]
        exact ih _ hlt hroot hd (hgood _ ht) rfl v hv

theorem distinctMembers_of_prune {schema : Json} (h : schema.hasDistinctKeys = true)
    {node : Members} (hn : prune schema = .object node) : DistinctMembers node := by
  cases schema with
  | null | bool b | number n | string s | array items => cases hn
  | object members =>
      have hm : DistinctMembers members := distinctMembers_of_hasDistinctKeys h
      rw [prune] at hn
      split at hn
      · cases hn
        rw [closeKeys]
        split
        · exact hm.dropOptional
        · exact hm.dropOptional.put _ rfl
      · cases hn
        exact hm

theorem wellFormed_of_compile {schema : Json} (hs : schema.hasDistinctKeys = true)
    {definitions : Members} (hd : ∀ m ∈ definitions, m.2.hasDistinctKeys = true)
    {options : Options} {v : Validator} (hv : compile schema options definitions = .ok v) :
    v.WellFormed := by
  refine compileNode_wellFormed hs hd ?_ v hv
  intro node hn
  split at hn
  · exact distinctMembers_of_prune hs hn
  · subst hn
    exact distinctMembers_of_hasDistinctKeys hs

/-- What a compiled validator is like at each of its nodes: the names of an object, the rules of a
list of checks, the members of a combination, the values of an enumeration, the steps of a number,
and the values that a node is restricted to. -/
theorem compile_wellFormed {schema : Json} (hs : schema.hasDistinctKeys = true)
    {definitions : Members} (hd : ∀ m ∈ definitions, m.2.hasDistinctKeys = true)
    {options : Options} {v w : Validator} (hv : compile schema options definitions = .ok v)
    (hw : Validator.Node w v) :
    (∀ fields unknown checks, w.shape = .object fields unknown checks →
        (fields.map (·.name)).Nodup ∧ DistinctRules ObjectRule.entry checks) ∧
      (∀ checks, w.shape = .string checks → DistinctRules StringRule.entry checks) ∧
      (∀ element checks, w.shape = .array element checks →
        DistinctRules ArrayRule.entry checks) ∧
      (∀ integer checks, w.shape = .number integer checks →
        DistinctRules NumberRule.entry checks ∧
          ∀ step, .multipleOf step ∈ Check.rules checks → Binary64.zero false < step) ∧
      (∀ vs, w.shape = .union vs ∨ w.shape = .exclusiveUnion vs ∨ w.shape = .intersection vs →
        2 ≤ vs.length) ∧
      (∀ values, w.shape = .among values → values.length ≠ 1) ∧
      ∀ values, w.allowed = some values → ∀ x ∈ values,
        (w.nullable = true ∧ x = .null) ∨ (Validator.ofShape w.shape).isValid x = true := by
  obtain ⟨hshape, hallowed⟩ := wellFormed_of_compile hs hd hv w hw
  refine ⟨?_, ?_, ?_, ?_, ?_, ?_, ?_⟩
  · intro fields unknown checks he
    rwa [he] at hshape
  · intro checks he
    rwa [he] at hshape
  · intro element checks he
    rwa [he] at hshape
  · intro integer checks he
    rw [he] at hshape
    exact ⟨hshape.1, fun step hm => hshape.2 step hm⟩
  · rintro vs (he | he | he) <;> rwa [he] at hshape
  · intro values he
    rwa [he] at hshape
  · intro values he x hx
    refine (hallowed values he x hx).imp id fun ha => ?_
    exact Validator.isValid_iff.2 (Validator.accepts_ofShape.2 ha)

def gradeNode : Members :=
  [("enum", .array [.string "a", .string "b", .null]), ("maxLength", .int 1), ("minLength", .int 1),
    ("type", .array [.string "string", .string "null"])]

def gradedNode : Members :=
  [("properties", .object [("grade", .object gradeNode)]),
    ("required", .array [.string "grade", .string "name", .string "name"]),
    ("type", .string "object")]

def gradeChecks : List (Check StringRule) := [⟨.minLength 1, none⟩, ⟨.maxLength 1, none⟩]

def grade : Validator :=
  { shape := .string gradeChecks, nullable := true,
    allowed := some [.string "a", .string "b", .null] }

def gradedFields : List Field := [⟨"grade", true, grade⟩, ⟨"name", true, .any⟩]

theorem compile_gradedNode : compile (.object gradedNode) {} [] =
    .ok (.ofShape (.object gradedFields .accept [])) := by
  with_unfolding_all rfl

theorem compile_wellFormed_gradedNode : (gradedFields.map (·.name)).Nodup ∧
    DistinctRules StringRule.entry gradeChecks ∧
      ∀ x ∈ [Json.string "a", Json.string "b", Json.null],
        x = .null ∨ (Validator.ofShape (.string gradeChecks)).isValid x = true := by
  have hnode : Validator.Node grade (.ofShape (.object gradedFields .accept [])) :=
    .deeper (List.mem_cons_self ..) (.self _)
  have hdistinct : (Json.object gradedNode).hasDistinctKeys = true := by
    decide
  have hroot := compile_wellFormed hdistinct (List.forall_mem_nil _) compile_gradedNode (.self _)
  have hgrade := compile_wellFormed hdistinct (List.forall_mem_nil _) compile_gradedNode hnode
  obtain ⟨-, hstring, -, -, -, -, hallowed⟩ := hgrade
  exact ⟨(hroot.1 _ _ _ rfl).1, hstring _ rfl, fun x hx => (hallowed _ rfl x hx).imp And.right id⟩

end SchemaCheck.Schema
