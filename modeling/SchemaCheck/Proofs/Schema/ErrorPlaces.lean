import SchemaCheck.Proofs.Schema.Asking
import SchemaCheck.Proofs.Schema.Cycles
import SchemaCheck.Proofs.Schema.StrictFields

namespace SchemaCheck.Schema

open Json (Members)

theorem isLocal_descend {c : Context} (hc : Pointer.isLocal c.path = true)
    (segments : List String) :
    ErrorsIn (Pointer.isLocal ·.path = true) (c.descend segments) := by
  intro e he
  obtain ⟨-, rfl⟩ := Context.descend_eq_error he
  exact Pointer.isLocal_build segments hc

theorem isLocal_follow {c : Context} (hc : Pointer.isLocal c.path = true) (reference : String) :
    ErrorsIn (Pointer.isLocal ·.path = true) (c.follow reference) := by
  intro e he
  rw [Context.path_of_follow_error he]
  exact hc

theorem isLocal_compileNode {c : Context} (hc : Pointer.isLocal c.path = true) (x : Json) :
    ErrorsIn (Pointer.isLocal ·.path = true) (compileNode c x) := by
  induction hn : c.levelsLeft using Nat.strongRecOn generalizing c x with
  | ind n ih =>
      subst hn
      rw [compileNode_eq]
      refine compileStep_congr (congruence_errorsIn (fun _ => hc) fun _ => hc) (childOf c)
        (childOf c) (targetOf c) (targetOf c) ?_ ?_
      · intro segments y _
        refine (isLocal_descend hc segments).bind fun d hd => ?_
        have hlt := Context.levelsLeft_descend hd
        obtain ⟨-, rfl⟩ := Context.descend_eq_ok hd
        exact ih _ hlt (Pointer.isLocal_build segments hc) y rfl
      · intro reference _
        refine (isLocal_follow hc reference).bind fun ⟨d, y⟩ hd => ?_
        exact ih d.levelsLeft (Context.levelsLeft_follow hd) (Context.isLocal_of_follow hd) y rfl

theorem holds_strictNode (node : Members) : Holds (Json.object node).Leads (strictNode node) := by
  have h := holds_leads node
  have hproperty : ∀ {properties : Members} {name : String} {x : Json},
      (strictNode node).lookup "properties" = some (.object properties) → (name, x) ∈ properties →
        (Json.object node).Leads ["properties", name] x := by
    intro properties name x hp hx
    by_cases ho : ∃ all, node.lookup "properties" = some (.object all)
    · obtain ⟨all, ho⟩ := ho
      rw [lookup_properties_strictNode_of_object ho] at hp
      cases hp
      exact h.property ho (List.mem_filter.1 hx).1
    · rw [lookup_properties_strictNode fun all he => ho ⟨all, he⟩] at hp
      exact h.property hp hx
  have hunknown : ∀ {x : Json}, (strictNode node).lookup "additionalProperties" = some x →
      x = .bool false ∨ node.lookup "additionalProperties" = some x := by
    intro x hx
    rw [lookup_additional_strictNode] at hx
    cases hl : node.lookup "additionalProperties" with
    | none =>
        rw [hl] at hx
        exact .inl (Option.some.inj hx).symm
    | some y =>
        rw [hl] at hx
        exact .inr hx
  refine ⟨?_, fun hx => h.unknown ((hunknown hx).resolve_left nofun), ?_, hproperty⟩
  · intro keyword x hk hx
    rw [lookup_strictNode] at hx
    · exact h.value hk hx
    · rcases hk with rfl | rfl <;> decide
    · rcases hk with rfl | rfl <;> decide
  · intro keyword xs i x hk hx
    by_cases hp : keyword = "properties"
    · subst hp
      by_cases ho : ∃ all, node.lookup "properties" = some (.object all)
      · obtain ⟨all, ho⟩ := ho
        rw [lookup_properties_strictNode_of_object ho] at hk
        cases hk
      · rw [lookup_properties_strictNode fun all he => ho ⟨all, he⟩] at hk
        exact h.entry hk hx
    · by_cases ha : keyword = "additionalProperties"
      · subst ha
        exact h.entry ((hunknown hk).resolve_left nofun) hx
      · rw [lookup_strictNode hp ha] at hk
        exact h.entry hk hx

/-- The value is the one in the document, or the copy of the document that a strict compilation
prunes. -/
def CopyOf (schema : Json) (strict : Bool) (x z : Json) : Prop :=
  x = z ∨ z = schema ∧ x = document schema strict

theorem CopyOf.holds {schema x z : Json} {strict : Bool} (h : CopyOf schema strict x z)
    {node : Members} (hx : x = .object node) : Holds z.Leads node := by
  subst hx
  rcases h with rfl | ⟨rfl, hd⟩
  · exact holds_leads node
  · rw [document] at hd
    split at hd
    next =>
      cases z with
      | null | bool b | number n | string s | array items => cases hd
      | object whole =>
          rw [prune] at hd
          split at hd
          next =>
            cases hd
            exact holds_strictNode _
          next =>
            cases hd
            exact holds_leads _
    next =>
      subst hd
      exact holds_leads node

/-- The compilation of the first value in the first context comes to the second value in the second
context: it asks for a child that stands in the value, or it follows a reference. -/
inductive Visits : Context → Json → Context → Json → Prop
  | here (c : Context) (x : Json) : Visits c x c x
  | child {c d c' : Context} {x y z : Json} {segments : List String} (ha : AsksFor c x segments)
    (hl : x.Leads segments y) (hd : c.descend segments = .ok d) (hr : Visits d y c' z) :
    Visits c x c' z
  | target {c d c' : Context} {x y z : Json} {reference : String} (hx : RefersTo x reference)
    (hd : c.follow reference = .ok (d, y)) (hr : Visits d y c' z) : Visits c x c' z

/-- The context belongs to the document alone, and its path leads to the value, or to the document
that the value is a copy of. -/
structure Placed (schema : Json) (strict : Bool) (c : Context) (x z : Json) : Prop where
  root : c.root = schema
  definitions : c.definitions = []
  resolves : Pointer.resolve? schema c.path = some z
  copy : CopyOf schema strict x z

/-- What is at the path of the error, and which node made it if it is malformed. -/
def Explains (schema : Json) (strict : Bool) (c : Context) (x : Json) (e : Error) : Prop :=
  ∃ z, Pointer.resolve? schema e.path = some z ∧
    (e.code = .malformedNode → ∃ d y, Visits c x d y ∧ Raises d y e ∧ d.path = e.path ∧
      CopyOf schema strict y z)

section Places

variable {schema : Json} {strict : Bool} {c d : Context} {x y z : Json} {e : Error}

theorem Placed.addressable (h : Placed schema strict c x z) (hs : schema.Addressable) :
    z.Addressable :=
  Json.of_resolve? Json.Part.addressable h.resolves hs

theorem Placed.descend (h : Placed schema strict c x z) (hs : schema.Addressable)
    {segments : List String} (hl : z.Leads segments y) (hd : c.descend segments = .ok d) :
    Placed schema strict d y y := by
  obtain ⟨-, rfl⟩ := Context.descend_eq_ok hd
  exact ⟨h.root, h.definitions, hl.resolve? (h.addressable hs) h.resolves, .inl rfl⟩

theorem Placed.follow (h : Placed schema strict c x z) {reference : String}
    (hd : c.follow reference = .ok (d, y)) : Placed schema strict d y y := by
  obtain ⟨he, ht⟩ := Context.follow_eq_ok hd
  obtain ⟨-, -, rfl⟩ := Context.enter_eq_ok he
  refine ⟨h.root, h.definitions, ?_, .inl rfl⟩
  rw [Context.target?] at ht
  split at ht
  next => rwa [Context.resolve?_of_definitions h.definitions, h.root] at ht
  next => cases ht

theorem Explains.child {segments : List String} (h : Explains schema strict d y e)
    (ha : AsksFor c x segments) (hl : x.Leads segments y) (hd : c.descend segments = .ok d) :
    Explains schema strict c x e := by
  obtain ⟨z, hz, hm⟩ := h
  refine ⟨z, hz, fun hc => ?_⟩
  obtain ⟨d', y', hv, hr⟩ := hm hc
  exact ⟨d', y', .child ha hl hd hv, hr⟩

theorem Explains.target {reference : String} (h : Explains schema strict d y e)
    (hx : RefersTo x reference) (hd : c.follow reference = .ok (d, y)) :
    Explains schema strict c x e := by
  obtain ⟨z, hz, hm⟩ := h
  refine ⟨z, hz, fun hc => ?_⟩
  obtain ⟨d', y', hv, hr⟩ := hm hc
  exact ⟨d', y', .target hx hd hv, hr⟩

/-- The induction is on the levels that are left, and the place of the node is its invariant. -/
theorem explains_compileNode (hs : schema.Addressable) (hp : Placed schema strict c x z)
    (hm : ∀ d y, Visits c x d y → Unmerged y) (he : compileNode c x = .error e) :
    Explains schema strict c x e := by
  induction hn : c.levelsLeft using Nat.strongRecOn generalizing c x z with
  | ind n ih =>
      subst hn
      by_cases hr : ∃ reference, RefersTo x reference
      · -- a reference is reported where it stands, or its target is at the path that it names
        obtain ⟨reference, hr⟩ := hr
        rw [compileNode_of_ref hr, targetOf] at he
        cases hf : c.follow reference with
        | error e' =>
            rw [hf] at he
            cases he
            refine ⟨z, ?_, fun hc => ?_⟩
            · rw [Context.path_of_follow_error hf]
              exact hp.resolves
            · exact absurd hc (Context.code_of_follow_error hf)
        | ok followed =>
            obtain ⟨d, y⟩ := followed
            rw [hf] at he
            have hd := ih d.levelsLeft (Context.levelsLeft_follow hf) (hp.follow hf)
              (fun d' y' hv => hm d' y' (.target hr hf hv)) he rfl
            exact hd.target hr hf
      · -- what a pruned copy asks for stands in the copy and in the document alike
        have hr : ∀ reference, ¬RefersTo x reference := fun reference h => hr ⟨reference, h⟩
        have hholds : ∀ node, x = .object node →
            Holds (fun segments y => x.Leads segments y ∧ z.Leads segments y) node := by
          intro node hx
          have hself : Holds x.Leads node := hx ▸ holds_leads node
          exact hself.and (hp.copy.holds hx)
        rcases compileStep_error_cases hholds hr (hm c x (.here c x)) he with
          ⟨hpath, hraises⟩ | ⟨segments, y, ⟨hx, hz⟩, ha, hy⟩
        · refine ⟨z, hpath ▸ hp.resolves, fun _ => ?_⟩
          exact ⟨c, x, .here c x, hraises, hpath.symm, hp.copy⟩
        · rw [childOf] at hy
          cases hd : c.descend segments with
          | error e' =>
              rw [hd] at hy
              cases hy
              obtain ⟨-, rfl⟩ := Context.descend_eq_error hd
              refine ⟨y, hz.resolve? (hp.addressable hs) hp.resolves, fun hc => ?_⟩
              cases hc
          | ok d =>
              rw [hd] at hy
              have hplace := hp.descend hs hz hd
              have hd' := ih d.levelsLeft (Context.levelsLeft_descend hd) hplace
                (fun d' y' hv => hm d' y' (.child ha hx hd hv)) hy rfl
              exact hd'.child ha hx hd

end Places

/-- The path of an error is that of the document or leads into it. Without definitions, and if no
node that is visited is compiled in the place of its alternatives, the path leads to a value, and if
the error is a malformed node, to the one whose compilation raised it. -/
theorem compile_error_places (schema : Json) (definitions : Members) (options : Options) :
    (∀ e, compile schema options definitions = .error e →
        e.path = "#" ∨ "#/".toList <+: e.path.toList) ∧
      (schema.Addressable →
        (∀ d y, Visits (.start schema [] options) (document schema options.strict) d y →
          Unmerged y) →
        ∀ e, compile schema options [] = .error e →
          ∃ z, Pointer.resolve? schema e.path = some z ∧
            (e.code = .malformedNode →
              ∃ d y, Visits (.start schema [] options) (document schema options.strict) d y ∧
                Raises d y e ∧ d.path = e.path ∧
                  (y = z ∨ z = schema ∧ y = document schema options.strict))) := by
  constructor
  · intro e he
    have hstart : Pointer.isLocal "#" = true := by
      decide
    have hlocal : Pointer.isLocal e.path = true :=
      isLocal_compileNode (c := .start schema definitions options) hstart _ e he
    rcases Pointer.isLocal_cases hlocal with h | ⟨cs, h⟩
    · exact .inl h
    · exact .inr ⟨cs, h.symm⟩
  · intro hs hm e he
    have hroot : Pointer.resolve? schema "#" = some schema := by
      rw [Pointer.resolve?, if_pos (by decide)]
      rfl
    have hp : Placed schema options.strict (.start schema [] options)
        (document schema options.strict) schema := ⟨rfl, rfl, hroot, .inr ⟨rfl, rfl⟩⟩
    exact explains_compileNode hs hp hm he

def floatNode : Json := .object [("type", .string "float")]

def floatHolder : Json := .object [("properties", .object [("a/b", floatNode)])]

def strictHolder : Members :=
  [("additionalProperties", .bool false), ("properties", .object [("a/b", floatNode)])]

theorem compileStep_floatNode (path : String) (child : ChildCompiler) (follow : String → Result) :
    compileStep path child follow floatNode = .error (.malformed path (.unknownType "float")) :=
  rfl

theorem compileStep_strictHolder (path : String) (child : ChildCompiler)
    (follow : String → Result) : compileStep path child follow (.object strictHolder) =
      child ["properties", "a/b"] floatNode >>= fun v =>
        .ok (.ofShape (.object [⟨"a/b", false, v⟩] .reject [])) := by
  have hfields : compileFields path child [] strictHolder =
      child ["properties", "a/b"] floatNode >>= fun v => .ok [⟨"a/b", false, v⟩] := rfl
  have hform : Form.ofNode strictHolder = .ok (.typed .object) := rfl
  rw [compileStep, compileMembers, hform]
  change (compileFields path child [] strictHolder >>= fun fields => _) >>= _ = _
  rw [hfields]
  cases child ["properties", "a/b"] floatNode <;> rfl

theorem asksFor_strictHolder {c : Context} {segments : List String}
    (h : AsksFor c (.object strictHolder) segments) : segments = ["properties", "a/b"] := by
  by_contra hs
  have hasked : ∀ e, (childOf c ["properties", "a/b"] floatNode >>= fun v =>
      Except.ok (Validator.ofShape (.object [⟨"a/b", false, v⟩] .reject []))) = .error e := by
    intro e
    have he := h e
    rw [compileStep_strictHolder, ChildCompiler.failing, if_neg (Ne.symm hs)] at he
    exact he
  cases (hasked (.tooDeep "#" 0)).symm.trans (hasked (.tooDeep "#" 1))

theorem unmerged_of_visits_strictHolder {c d : Context} {y : Json}
    (h : Visits c (.object strictHolder) d y) : Unmerged y := by
  cases h with
  | here =>
      rintro node xs ⟨⟩ hf
      cases hf
  | target hx =>
      obtain ⟨node, hn, hf⟩ := hx
      cases hn
      cases hf
  | @child _ d' _ _ y' _ segments ha hl hd hr =>
      obtain rfl := asksFor_strictHolder ha
      have hwalk : some floatNode = some y' := hl.walk ⟨by decide, by decide⟩
      cases hwalk
      cases hr with
      | here =>
          rintro node xs ⟨⟩ hf
          cases hf
      | target hx =>
          obtain ⟨node, hn, hf⟩ := hx
          cases hn
          cases hf
      | child ha =>
          have hasked := ha (.tooDeep "#" 0)
          rw [compileStep_floatNode] at hasked
          cases hasked

theorem compile_error_places_floatHolder :
    compile floatHolder { strict := true } [] =
        .error (.malformed "#/properties/a~1b" (.unknownType "float")) ∧
      ∃ z, Pointer.resolve? floatHolder "#/properties/a~1b" = some z ∧
        ∃ d y, Visits (.start floatHolder [] { strict := true }) (.object strictHolder) d y ∧
          Raises d y (.malformed "#/properties/a~1b" (.unknownType "float")) ∧
            d.path = "#/properties/a~1b" ∧
              (y = z ∨ z = floatHolder ∧ y = .object strictHolder) := by
  have hpruned : prune floatHolder = .object strictHolder := rfl
  have hpath : Pointer.build "#" ["properties", "a/b"] = "#/properties/a~1b" := by
    rfl
  have he : compile floatHolder { strict := true } [] =
      .error (.malformed "#/properties/a~1b" (.unknownType "float")) := by
    have hd : (Context.start floatHolder [] { strict := true }).descend ["properties", "a/b"] =
        .ok { Context.start floatHolder [] { strict := true } with
          path := "#/properties/a~1b", depth := 1 } := by
      rw [← hpath]
      rfl
    rw [compile, if_pos rfl, hpruned, compileNode_eq, compileStep_strictHolder, childOf, hd]
    change (compileNode _ floatNode >>= fun v => _) = _
    rw [compileNode_eq, compileStep_floatNode]
    rfl
  have hs : floatHolder.Addressable := ⟨by decide, by decide⟩
  refine ⟨he, ?_⟩
  obtain ⟨z, hz, hm⟩ := (compile_error_places floatHolder [] { strict := true }).2 hs
    (fun _ _ => unmerged_of_visits_strictHolder) _ he
  exact ⟨z, hz, hm rfl⟩

end SchemaCheck.Schema
