import SchemaCheck.Proofs.Schema.Cycles
import SchemaCheck.Proofs.Schema.Inlining

namespace SchemaCheck.Schema

open Json (Members hasKey)

section Keeps

variable {target? : String → Option Json} {n : Nat}

theorem inlined_of_not_node {x : Json} (hx : ∀ node, x ≠ .object node) :
    inlined target? n x = x := by
  cases n with
  | zero => rfl
  | succ n =>
      cases x with
      | object node => exact absurd rfl (hx node)
      | null | bool b | number m | string s | array items => rfl

theorem inlined_of_form {node : Members} {form : Form} (hf : Form.ofNode node = .ok form)
    (hr : ∀ reference, form ≠ .ref reference) :
    inlined target? (n + 1) (.object node) =
      .object (inlineNode (inlined target? n) node form) := by
  rw [inlined, inlineStep, hf]
  cases form with
  | ref reference => exact absurd rfl (hr reference)
  | anyOf | oneOf | allOf | enum | const | typed | types | any => rfl

theorem inlined_of_ref {node : Members} {reference : String}
    (hf : Form.ofNode node = .ok (.ref reference)) :
    inlined target? (n + 1) (.object node) =
      (((target? reference).map (inlined target? n)).filter isSchema).getD (.object node) := by
  rw [inlined, inlineStep, hf]

theorem inlined_of_malformed {node : Members} {complaint : Complaint}
    (hf : Form.ofNode node = .error complaint) :
    inlined target? n (.object node) = .object node := by
  cases n with
  | zero => rfl
  | succ n => rw [inlined, inlineStep, hf]

theorem keepsSchemas_inlined : KeepsSchemas (inlined target? n) where
  other _ hx := inlined_of_not_node hx
  node := by
    intro node
    cases n with
    | zero => rfl
    | succ n =>
        cases hf : Form.ofNode node with
        | error complaint => rw [inlined_of_malformed hf, isSchema]
        | ok form =>
            by_cases hr : ∃ reference, form = .ref reference
            · obtain ⟨reference, rfl⟩ := hr
              rw [inlined_of_ref hf]
              cases hs : ((target? reference).map (inlined target? n)).filter isSchema with
              | none => rfl
              | some y => exact (Option.filter_eq_some_iff.1 hs).2
            · rw [inlined_of_form hf fun reference he => hr ⟨reference, he⟩, isSchema]

theorem refersTo_of_inlined {node : Members} {b : Bool}
    (h : inlined target? n (.object node) = .bool b) :
    ∃ reference, RefersTo (.object node) reference := by
  cases hf : Form.ofNode node with
  | error complaint =>
      rw [inlined_of_malformed hf] at h
      cases h
  | ok form =>
      by_cases hr : ∃ reference, form = .ref reference
      · obtain ⟨reference, rfl⟩ := hr
        exact ⟨reference, node, rfl, hf⟩
      · cases n with
        | zero => cases h
        | succ n =>
            rw [inlined_of_form hf fun reference he => hr ⟨reference, he⟩] at h
            cases h

theorem mergeableTypes?_inlined {node : Members}
    (hx : ∀ reference, ¬RefersTo (.object node) reference) :
    ∃ other, inlined target? n (.object node) = .object other ∧
      mergeableTypes? other = mergeableTypes? node := by
  cases hf : Form.ofNode node with
  | error complaint => exact ⟨node, inlined_of_malformed hf, rfl⟩
  | ok form =>
      have hr : ∀ reference, form ≠ .ref reference := by
        rintro reference rfl
        exact hx reference ⟨node, rfl, hf⟩
      cases n with
      | zero => exact ⟨node, rfl, rfl⟩
      | succ n =>
          exact ⟨_, inlined_of_form hf hr, mergeableTypes?_congr (keys_inlineNode form)
            (lookup_inlineNode form (by decide) (by decide))⟩

theorem mergeParts?_inlined {xs : List Json} (hx : ∀ x ∈ xs, ∀ reference, ¬RefersTo x reference)
    (types : List String) (items others : Option Json) :
    (mergeParts? (xs.map (inlined target? n)) types others).map Prod.fst =
      (mergeParts? xs types items).map Prod.fst := by
  induction xs generalizing types items others with
  | nil => rfl
  | cons x rest ih =>
      rw [List.forall_mem_cons] at hx
      by_cases hn : ∃ node, x = .object node
      · obtain ⟨node, rfl⟩ := hn
        obtain ⟨other, ho, ht⟩ : ∃ other, inlined target? n (.object node) = .object other ∧
            mergeableTypes? other = mergeableTypes? node := mergeableTypes?_inlined hx.1
        rw [List.map_cons, ho, mergeParts?, mergeParts?, ht]
        cases mergeableTypes? node with
        | none => rfl
        | some names => exact ih hx.2 _ _ _
      · have hn : ∀ node, x ≠ .object node := fun node he => hn ⟨node, he⟩
        rw [List.map_cons, inlined_of_not_node hn]
        cases x with
        | object node => exact absurd rfl (hn node)
        | null | bool b | number m | string s | array items => rfl

theorem mergeAlternatives?_eq_none_iff {xs : List Json} : mergeAlternatives? xs = none ↔
    ∀ names ∈ (mergeParts? xs [] none).map Prod.fst, "array" ∉ names := by
  rw [mergeAlternatives?]
  rcases mergeParts? xs [] none with _ | ⟨names, items⟩
  · simp
  · cases items <;> simp

theorem keepsMerging_inlined {xs : List Json}
    (hx : ∀ x ∈ xs, ∀ reference, ¬RefersTo x reference) : KeepsMerging (inlined target? n) xs := by
  intro h
  rw [mergeAlternatives?_eq_none_iff] at h ⊢
  rwa [mergeParts?_inlined hx]

end Keeps

def Transfers {α : Type} (r s : Except Error α) : Prop := ∀ a, r = .ok a → s = .ok a

theorem congruence_transfers (p q : String) : Congruence p q fun _ r s => Transfers r s where
  ok _ _ h := h
  malformed _ := nofun
  invalidPattern _ := nofun
  bind := by
    intro α β r s k l h hk b hb
    obtain ⟨a, ha, hb⟩ := bind_eq_ok hb
    rw [h a ha]
    exact hk a b hb

theorem isSchema_of_compileNode {c : Context} {x : Json} {v : Validator}
    (h : compileNode c x = .ok v) : isSchema x = true := by
  cases x with
  | object | bool => rfl
  | null | number m | string s | array items =>
      rw [compileNode_eq] at h
      cases h

theorem levelsLeft_pos_of_ref {c : Context} {x : Json} {reference : String} {v : Validator}
    (hx : RefersTo x reference) (h : compileNode c x = .ok v) : 0 < c.levelsLeft := by
  rw [compileNode_of_ref hx] at h
  obtain ⟨⟨d, target⟩, hd, -⟩ := bind_eq_ok h
  exact Nat.lt_of_le_of_lt (Nat.zero_le _) (Context.levelsLeft_follow hd)

theorem childOf_eq {c : Context} (h : 0 < c.levelsLeft) (segments : List String) :
    ∃ d : Context, d.levelsLeft + 1 = c.levelsLeft ∧ d.target? = c.target? ∧
      ∀ x, childOf c segments x = compileNode d x := by
  rw [Context.levelsLeft] at h
  refine ⟨{ c with path := Pointer.build c.path segments, depth := c.depth + 1 }, ?_,
    Context.target?_congr rfl rfl, fun x => ?_⟩
  · simp only [Context.levelsLeft]
    omega
  · rw [childOf, Context.descend, if_pos (by omega)]
    rfl

theorem levelsLeft_pos_of_childOf {c : Context} {segments : List String} {x : Json} {v : Validator}
    (h : childOf c segments x = .ok v) : 0 < c.levelsLeft := by
  obtain ⟨d, hd, -⟩ := bind_eq_ok h
  exact Nat.lt_of_le_of_lt (Nat.zero_le _) (Context.levelsLeft_descend hd)

theorem compileNode_conjunction {c : Context} (h : 0 < c.levelsLeft) (b : Bool) :
    compileNode c (.object [("allOf", .array [.bool b])]) = compileNode c (.bool b) := by
  obtain ⟨d, -, -, hd⟩ := childOf_eq h ["allOf", toString 0]
  have hf : Form.ofNode [("allOf", .array [.bool b])] = .ok (.allOf [.bool b]) := rfl
  have hr : ∀ reference, Form.allOf [.bool b] ≠ .ref reference := by
    intro reference he
    cases he
  rw [compileNode_eq, compileStep, compileMembers_of_unmodified hf hr (by simp [modifierKeys]),
    compileForm, compileEach, hd, compileNode_eq, compileNode_eq]
  cases b <;> rfl

theorem compileNode_inlineUnknown {target? : String → Option Json} {n : Nat} {c d : Context}
    {x : Json} {v : Validator} (hv : compileNode c x = .ok v)
    (hd : compileNode d (inlined target? n x) = .ok v) (hl : c.levelsLeft ≤ d.levelsLeft) :
    compileNode d (inlineUnknown (inlined target? n) x) = .ok v := by
  cases x with
  | object node =>
      rw [inlineUnknown]
      cases hi : inlined target? n (.object node) with
      | bool b =>
          obtain ⟨reference, hr⟩ := refersTo_of_inlined hi
          have hpos := levelsLeft_pos_of_ref hr hv
          rw [hi] at hd
          exact (compileNode_conjunction (Nat.lt_of_lt_of_le hpos hl) b).trans hd
      | null | number m | string s | array items | object other =>
          rw [hi] at hd
          exact hd
  | null | bool b | number m | string s | array items =>
      rw [inlined_of_not_node (by simp)] at hd
      exact hd

/-- What compiles with fewer levels than are inlined compiles to the same validator inlined. -/
def Transparent (target? : String → Option Json) (top : Json) (n : Nat) : Prop :=
  ∀ {c d : Context} {x : Json} {v : Validator}, Reaches target? top x → c.target? = target? →
    c.levelsLeft < n → c.levelsLeft ≤ d.levelsLeft → compileNode c x = .ok v →
      compileNode d (inlined target? n x) = .ok v

section Run

variable {target? : String → Option Json} {top : Json} {n : Nat}
variable {c d : Context} {node : Members} {v : Validator}

theorem Transparent.reference (h : Transparent target? top n) {reference : String}
    (hf : Form.ofNode node = .ok (.ref reference)) (hx : Reaches target? top (.object node))
    (ht : c.target? = target?) (hn : c.levelsLeft < n + 1) (hl : c.levelsLeft ≤ d.levelsLeft)
    (hv : compileNode c (.object node) = .ok v) :
    compileNode d (inlined target? (n + 1) (.object node)) = .ok v := by
  have href : RefersTo (.object node) reference := ⟨node, rfl, hf⟩
  rw [compileNode_of_ref href] at hv
  obtain ⟨⟨c', target⟩, hc, hv⟩ := bind_eq_ok hv
  obtain ⟨he, htarget⟩ := Context.follow_eq_ok hc
  have hless := Context.levelsLeft_enter he
  have ht' : c'.target? = target? := by
    obtain ⟨-, -, rfl⟩ := Context.enter_eq_ok he
    exact ht
  rw [ht] at htarget
  have hd : compileNode d (inlined target? n target) = .ok v :=
    h (hx.tail (.target href htarget)) ht' (by omega) (by omega) hv
  rw [inlined_of_ref hf, htarget, Option.map_some, Option.filter_some,
    if_pos (isSchema_of_compileNode hd)]
  exact hd

theorem Transparent.child (h : Transparent target? top n) {x : Json}
    (hx : Reaches target? top x) (ht : c.target? = target?) (hn : c.levelsLeft < n + 1)
    (hl : c.levelsLeft ≤ d.levelsLeft) {segments : List String}
    (hv : childOf c segments x = .ok v) :
    (childOf d).through (inlined target? n) segments x = .ok v := by
  have hpos := levelsLeft_pos_of_childOf hv
  obtain ⟨c', hc, ht', hcompile⟩ := childOf_eq hpos segments
  obtain ⟨d', hd, -, hcompile'⟩ := childOf_eq (Nat.lt_of_lt_of_le hpos hl) segments
  rw [hcompile] at hv
  rw [ChildCompiler.through, hcompile']
  have hy : compileNode d' (inlined target? n x) = .ok v :=
    h hx (ht'.trans ht) (by omega) (by omega) hv
  split
  · exact compileNode_inlineUnknown hv hy (by omega)
  · exact hy

variable (hany : ∀ node xs x reference, Reaches target? top (.object node) →
  Form.ofNode node = .ok (.anyOf xs) → x ∈ xs → ¬RefersTo x reference)
include hany

theorem Transparent.members (h : Transparent target? top n) {form : Form}
    (hf : Form.ofNode node = .ok form) (hr : ∀ reference, form ≠ .ref reference)
    (hx : Reaches target? top (.object node)) (ht : c.target? = target?)
    (hn : c.levelsLeft < n + 1) (hl : c.levelsLeft ≤ d.levelsLeft)
    (hv : compileNode c (.object node) = .ok v) :
    compileNode d (inlined target? (n + 1) (.object node)) = .ok v := by
  have hm : ∀ xs, form = .anyOf xs → KeepsMerging (inlined target? n) xs := by
    rintro xs rfl
    exact keepsMerging_inlined fun y hy reference => hany node xs y reference hx hf hy
  rw [inlined_of_form hf hr, compileNode_eq, compileStep,
    compileMembers_inlineNode keepsSchemas_inlined hf hr hm]
  rw [compileNode_eq] at hv
  refine compileStep_congr (congruence_transfers c.path d.path) (childOf c)
    ((childOf d).through (inlined target? n)) (targetOf c) (targetOf d) ?_ ?_ v hv
  · intro segments y hy w hw
    exact h.child (hx.trans (reaches_of_children hy)) ht hn hl hw
  · rintro reference ⟨_, ⟨⟩, he⟩
    exact absurd (Except.ok.inj (hf.symm.trans he)) (hr reference)

/-- The induction is on the levels that are inlined, of which there are more than the compilation
has left. -/
theorem compileNode_inlined (n : Nat) : Transparent target? top n := by
  induction n with
  | zero =>
      intro c d x v hx ht hn
      cases hn
  | succ n ih =>
      intro c d x v hx ht hn hl hv
      cases x with
      | null | number m | string s | array items =>
          have hs := isSchema_of_compileNode hv
          cases hs
      | bool b =>
          rw [compileNode_eq] at hv
          rw [inlined_of_not_node (by simp), compileNode_eq]
          cases b <;> exact hv
      | object node =>
          cases hf : Form.ofNode node with
          | error complaint =>
              rw [compileNode_eq, compileStep, compileMembers, hf] at hv
              cases hv
          | ok form =>
              by_cases hr : ∃ reference, form = .ref reference
              · obtain ⟨reference, rfl⟩ := hr
                exact ih.reference hf hx ht hn hl hv
              · exact ih.members hany hf (fun reference he => hr ⟨reference, he⟩) hx ht hn hl hv

end Run

theorem resolve?_null {reference : String} {x : Json}
    (h : Pointer.resolve? .null reference = some x) : x = .null := by
  rw [Pointer.resolve?] at h
  split at h
  · have hs : ∀ segment ∈ Pointer.split reference, ∀ {y z : Json},
        Pointer.step? y segment = some z → y = .null → z = .null := by
      rintro segment - y z hz rfl
      cases hz
    exact Json.of_foldlM hs h rfl
  · cases h

structure Context.Bare (c : Context) : Prop where
  root : c.root = .null
  definitions : c.definitions = []

theorem not_refersTo_of_bare {c : Context} (hc : c.Bare) {x : Json} {v : Validator}
    (h : compileNode c x = .ok v) (reference : String) : ¬RefersTo x reference := by
  intro hx
  rw [compileNode_of_ref hx] at h
  obtain ⟨⟨d, target⟩, hd, h⟩ := bind_eq_ok h
  obtain ⟨-, hr⟩ := Context.enter_of_follow hd
  rw [Context.resolve?_of_definitions hc.definitions, hc.root] at hr
  cases resolve?_null hr
  cases isSchema_of_compileNode h

theorem Calls.of_not_ref {target? other? : String → Option Json} {x y : Json}
    (h : Calls target? x y) (hx : ∀ reference, ¬RefersTo x reference) : Calls other? x y := by
  cases h with
  | alternative form apart mem => exact .alternative form apart mem
  | merged form merge => exact .merged form merge
  | choice form mem => exact .choice form mem
  | branch form mem => exact .branch form mem
  | part form mem => exact .part form mem
  | narrowed form mem => exact .narrowed form mem
  | excluded read own lookup => exact .excluded read own lookup
  | target refers _ => exact absurd refers (hx _)

theorem not_refersTo_of_reaches {c : Context} (hc : c.Bare) {x y : Json} {v : Validator}
    (hv : compileNode c x = .ok v) {target? : String → Option Json} (h : Reaches target? x y)
    (reference : String) : ¬RefersTo y reference := by
  have hy : Reached c y := by
    induction h with
    | refl => exact .refl hv
    | tail _ hyz ih =>
        obtain ⟨d, w, hw, hroot, hdefinitions, he⟩ := ih
        have hd : d.Bare := ⟨hroot.trans hc.root, hdefinitions.trans hc.definitions⟩
        obtain ⟨e, u, hu, hroot', hdefinitions', he'⟩ :=
          Reached.of_calls hw (hyz.of_not_ref (not_refersTo_of_bare hd hw))
        exact ⟨e, u, hu, hroot'.trans hroot, hdefinitions'.trans hdefinitions,
          List.Subset.trans he he'⟩
  obtain ⟨d, w, hw, hroot, hdefinitions, -⟩ := hy
  exact not_refersTo_of_bare ⟨hroot.trans hc.root, hdefinitions.trans hc.definitions⟩ hw reference

/-- Unless an alternative is a reference, a document compiles to the same validator with the targets
in place of its references, and then meets no reference any more. -/
theorem compile_inlined {schema : Json} {limit n : Nat} {v : Validator}
    (hv : compile schema { maxDepth := limit } [] = .ok v)
    (hany : ∀ node xs x reference, Reaches (targets schema []) schema (.object node) →
      Form.ofNode node = .ok (.anyOf xs) → x ∈ xs → ¬RefersTo x reference)
    (hn : limit < n) :
    (∀ x reference, Reaches (targets (inlined (targets schema []) n schema) [])
      (inlined (targets schema []) n schema) x → ¬RefersTo x reference) ∧
      ∀ more, limit ≤ more →
        compile (inlined (targets schema []) n schema) { maxDepth := more } [] = .ok v := by
  rw [compile, if_neg Bool.false_ne_true] at hv
  have hrun : ∀ d : Context, limit ≤ d.levelsLeft →
      compileNode d (inlined (targets schema []) n schema) = .ok v := fun d hd =>
    compileNode_inlined hany n (c := .start schema [] { maxDepth := limit }) .refl
      (Context.target?_congr rfl rfl) hn hd hv
  constructor
  · intro x reference hx
    have hbare := hrun (.start .null [] { maxDepth := limit }) (Nat.le_refl limit)
    exact not_refersTo_of_reaches ⟨rfl, rfl⟩ hbare hx reference
  · intro more hm
    rw [compile, if_neg Bool.false_ne_true]
    exact hrun _ hm

def policyNode (policy : Json) : Members :=
  [("$defs", .object [("nothing", .bool false)]), ("additionalProperties", policy),
    ("type", .string "object")]

def nothingReference : Json := .object [("$ref", .string "#/$defs/nothing")]

def closedNode : Members := policyNode nothingReference

theorem targets_closedNode :
    targets (.object closedNode) [] "#/$defs/nothing" = some (.bool false) := by
  rfl

theorem refersTo_nothingReference : RefersTo nothingReference "#/$defs/nothing" :=
  ⟨_, rfl, rfl⟩

theorem reaches_closedNode {x : Json}
    (h : Reaches (targets (.object closedNode) []) (.object closedNode) x) :
    x = .object closedNode ∨ x = nothingReference ∨ x = .bool false := by
  induction h with
  | refl => exact .inl rfl
  | tail _ hyz ih =>
      rcases ih with rfl | rfl | rfl
      · have hm := mem_typedChildren_of_calls (t := .object) rfl rfl hyz
        exact .inr (.inl (List.mem_singleton.1 hm))
      · have ht := target_of_calls refersTo_nothingReference hyz
        exact .inr (.inr (Option.some.inj (ht.symm.trans targets_closedNode)))
      · cases hyz with
        | target refers _ =>
            obtain ⟨_, he, -⟩ := refers
            cases he

theorem not_anyOf_of_reaches_closedNode {node : Members} {xs : List Json}
    (h : Reaches (targets (.object closedNode) []) (.object closedNode) (.object node)) :
    Form.ofNode node ≠ .ok (.anyOf xs) := by
  intro hf
  rcases reaches_closedNode h with h | h | h <;> cases h <;> cases hf

theorem compile_closedNode : compile (.object closedNode) { maxDepth := 2 } [] =
    .ok (.ofShape (.object [] (.validate (.ofShape .never)) [])) := by
  have hchild : childOf (.start (.object closedNode) [] { maxDepth := 2 }) ["additionalProperties"]
      nothingReference = .ok (.ofShape .never) := by
    have hforeign : Context.foreign? "#/$defs/nothing" = none := by
      rfl
    have hresolve : ∀ c : Context, c.root = .object closedNode →
        c.resolve? "#/$defs/nothing" = some (.bool false) := by
      intro c hc
      have hp : Pointer.resolve? (.object closedNode) "#/$defs/nothing" = some (.bool false) := by
        rfl
      rw [Context.resolve?, hc, hp, Option.some_or]
    rw [childOf, Context.descend, if_pos (by decide)]
    change compileNode _ nothingReference = _
    rw [compileNode_of_ref refersTo_nothingReference, targetOf, Context.follow, hforeign,
      hresolve _ rfl, Context.enter, if_neg (by decide), if_pos (by decide)]
    change compileNode _ (.bool false) = _
    rw [compileNode_eq]
    rfl
  have hform : Form.ofNode closedNode = .ok (.typed .object) := rfl
  have hr : ∀ reference, Form.typed .object ≠ .ref reference := by
    intro reference he
    cases he
  have hunknown : compileUnknown "#" (childOf (.start (.object closedNode) [] { maxDepth := 2 }))
      closedNode = .ok (.validate (.ofShape .never)) := by
    change (childOf (.start (.object closedNode) [] { maxDepth := 2 }) ["additionalProperties"]
      nothingReference >>= fun v => .ok (UnknownKeys.validate v)) = _
    rw [hchild]
    rfl
  rw [compile, if_neg (by decide), compileNode_eq, compileStep,
    compileMembers_of_unmodified hform hr (by decide), compileForm, compileTyped, compileObject]
  change (compileUnknown "#" (childOf (.start (.object closedNode) [] { maxDepth := 2 }))
    closedNode >>= fun unknown => .ok (Validator.ofShape (.object [] unknown []))) = _
  rw [hunknown]
  rfl

/-- The truth value in the place of the reference is a flag, and makes another validator. -/
theorem not_identical_closedNode :
    (∀ node xs, Reaches (targets (.object closedNode) []) (.object closedNode) (.object node) →
      Form.ofNode node ≠ .ok (.anyOf xs)) ∧
    ∃ v, compile (.object closedNode) { maxDepth := 2 } [] = .ok v ∧
      ∀ more, compile (.object (policyNode (.bool false))) { maxDepth := more } [] ≠ .ok v := by
  refine ⟨fun _ _ => not_anyOf_of_reaches_closedNode, _, compile_closedNode, fun more h => ?_⟩
  have hflag : compile (.object (policyNode (.bool false))) { maxDepth := more } [] =
      .ok (.ofShape (.object [] .reject [])) := by
    rw [compile, if_neg Bool.false_ne_true, compileNode_eq]
    rfl
  rw [hflag] at h
  cases h

theorem compile_inlined_closedNode :
    inlined (targets (.object closedNode) []) 3 (.object closedNode) =
        .object (policyNode (.object [("allOf", .array [.bool false])])) ∧
      ∀ more, 2 ≤ more → compile (inlined (targets (.object closedNode) []) 3 (.object closedNode))
        { maxDepth := more } [] = .ok (.ofShape (.object [] (.validate (.ofShape .never)) [])) := by
  refine ⟨?_, ?_⟩
  · rfl
  · exact (compile_inlined compile_closedNode (fun node xs x reference h hf =>
      absurd hf (not_anyOf_of_reaches_closedNode h)) (by decide)).2

end SchemaCheck.Schema
