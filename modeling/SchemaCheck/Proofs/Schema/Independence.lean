import SchemaCheck.Proofs.Schema.Agreement

namespace SchemaCheck.Schema

/-- Both contexts resolve references in one document, beside the same definitions. -/
structure Context.SameDocument (c d : Context) : Prop where
  root : d.root = c.root
  definitions : d.definitions = c.definitions

theorem Context.SameDocument.agree {c d : Context} (h : c.SameDocument d) (x : Json) :
    Agree (compileNode c x) (compileNode d x) := by
  refine compileNode_agree_of (fun _ => True) (fun _ _ _ _ => trivial) ?_ trivial
  intro _ reference _ _ y z hy hz
  rw [Context.target?_congr h.root h.definitions] at hz
  exact ⟨Option.some.inj (hy.symm.trans hz), trivial⟩

theorem Context.SameDocument.agree_childOf {c d : Context} (h : c.SameDocument d)
    (segments : List String) (x : Json) : Agree (childOf c segments x) (compileNode d x) := by
  intro v w hv hw
  obtain ⟨b, hb, hv⟩ := bind_eq_ok hv
  have hd : b.SameDocument d := by
    obtain ⟨-, rfl⟩ := Context.descend_eq_ok hb
    exact ⟨h.root, h.definitions⟩
  exact hd.agree x v w hv hw

/-- In one document a node compiles to the same validator wherever it compiles, and so do all nodes
that refer to one definition. -/
theorem compileNode_independent {c d : Context} (h : c.SameDocument d) :
    (∀ x v w, compileNode c x = .ok v → compileNode d x = .ok w → v = w) ∧
    ∀ x y reference, RefersTo x reference → RefersTo y reference →
      ∀ v w, compileNode c x = .ok v → compileNode d y = .ok w → v = w := by
  refine ⟨fun x => h.agree x, ?_⟩
  intro x y reference hx hy v w hv hw
  rw [compileNode_of_ref hy, ← compileNode_of_ref hx] at hw
  exact h.agree x v w hv hw

def pairOfNames : Json :=
  .object [("$defs", .object [("Name", .object [("type", .string "string")]),
    ("Pair", .object [("prefixItems", .array [.object [("$ref", .string "#/$defs/Name")],
      .object [("$ref", .string "#/$defs/Name"), ("title", .string "last")]])])]),
    ("$ref", .string "#/$defs/Pair")]

theorem compileNode_name {c : Context} (hroot : c.root = pairOfNames)
    (hn : "#/$defs/Name" ∉ c.entered) (hl : c.depth < c.limit) {x : Json}
    (hx : RefersTo x "#/$defs/Name") : compileNode c x = .ok (.ofShape (.string [])) := by
  have hforeign : Context.foreign? "#/$defs/Name" = none := by
    rfl
  have hresolve : Pointer.resolve? pairOfNames "#/$defs/Name" =
      some (.object [("type", .string "string")]) := by
    rfl
  rw [compileNode_of_ref hx, targetOf, Context.follow, hforeign, Context.resolve?, hroot, hresolve,
    Option.some_or, Context.enter, if_neg (by simpa using hn), if_pos hl]
  change compileNode _ (.object [("type", .string "string")]) = _
  rw [compileNode_eq]
  rfl

def inPair : Context :=
  { root := pairOfNames, definitions := [], limit := 4, path := "#/$defs/Pair/prefixItems/1",
    entered := ["#/$defs/Pair"], depth := 2 }

theorem compileNode_independent_pairOfNames :
    ∃ v w, compileNode (.start pairOfNames [] {}) (.object [("$ref", .string "#/$defs/Name")]) =
        .ok v ∧
      compileNode inPair (.object [("$ref", .string "#/$defs/Name"), ("title", .string "last")]) =
        .ok w ∧ v = w := by
  have hx : RefersTo (.object [("$ref", .string "#/$defs/Name")]) "#/$defs/Name" := ⟨_, rfl, rfl⟩
  have hy : RefersTo (.object [("$ref", .string "#/$defs/Name"), ("title", .string "last")])
      "#/$defs/Name" := ⟨_, rfl, rfl⟩
  have hv := compileNode_name (c := .start pairOfNames [] {}) rfl (by decide) (by decide) hx
  have hw := compileNode_name (c := inPair) rfl (by decide) (by decide) hy
  have h : (Context.start pairOfNames [] {}).SameDocument inPair := ⟨rfl, rfl⟩
  exact ⟨_, _, hv, hw, (compileNode_independent h).2 _ _ _ hx hy _ _ hv hw⟩

end SchemaCheck.Schema
