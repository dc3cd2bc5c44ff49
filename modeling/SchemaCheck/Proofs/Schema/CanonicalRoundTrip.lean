import SchemaCheck.Proofs.Schema.CanonicalForms
import SchemaCheck.Proofs.Schema.Depth
import SchemaCheck.Proofs.Schema.RoundTrip

namespace SchemaCheck.Schema

open Json (Members Part)

theorem ne_array_of_canonical {x : Json} (h : Canonical x) (items : List Json) :
    x ≠ .array items := by
  rintro rfl
  cases h

theorem nodeReproduced_of_canonicalForm {path : String} {child : ChildCompiler}
    {follow : String → Result} {node : Members} (ho : (Json.object node).isOrdered = true)
    (form : CanonicalForm node)
    (direct : ∀ x, Part x (.object node) → Canonical x → Reproduces child x)
    (inner : ∀ x y, Part x y → Part y (.object node) → Canonical x → Reproduces child x) :
    NodeReproduced path child follow node := by
  have hpart : ∀ {key x}, node.lookup key = some x → Part x (.object node) :=
    fun hl => .member (Json.mem_of_lookup hl)
  have hitems : ∀ {key schemas}, node.lookup key = some (.array schemas) →
      (∀ x ∈ schemas, Canonical x) → ∀ x ∈ schemas, Reproduces child x :=
    fun hl hs x hx => inner x _ (.item hx) (hpart hl) (hs x hx)
  cases form with
  | any keys => exact nodeReproduced_any keys
  | string keys type constraints => exact nodeReproduced_string keys type constraints
  | number integer keys type constraints =>
      exact nodeReproduced_number integer keys type constraints
  | boolean keys type =>
      exact nodeReproduced_bare (s := .boolean) rfl (fun _ => nofun) rfl keys type rfl
  | null keys type => exact nodeReproduced_bare (s := .null) rfl (by decide) rfl keys type rfl
  | const keys lookup => exact nodeReproduced_const keys lookup
  | enum keys lookup length => exact nodeReproduced_enum keys lookup length
  | array keys type lookup element constraints =>
      exact nodeReproduced_array keys type lookup (ne_array_of_canonical element)
        (direct _ (hpart lookup) element) constraints
  | tuple keys type lookup schemas min max =>
      exact nodeReproduced_tuple keys type lookup (hitems lookup schemas) min max
  | object keys type lookup schemas required constraints =>
      have hsorted := (Json.isOrdered_object.1 ((hpart lookup).isOrdered ho)).1
      exact nodeReproduced_object keys type lookup hsorted
        (fun p hp => inner p.2 _ (.member hp) (hpart lookup) (schemas p hp)) required constraints
  | oneOf keys lookup two alternatives =>
      exact nodeReproduced_oneOf keys lookup two (hitems lookup alternatives)
  | allOf keys lookup two branches =>
      exact nodeReproduced_allOf keys lookup two (hitems lookup branches)
  | anyOf keys lookup two unmerged alternatives =>
      exact nodeReproduced_anyOf keys lookup two unmerged (hitems lookup alternatives)

theorem compileNode_canonical {x : Json} (ho : x.isOrdered = true) (h : Canonical x) :
    ∀ c : Context, x.height ≤ c.levelsLeft → ∃ v, compileNode c x = .ok v ∧ v.toSchema = x := by
  induction hn : x.height using Nat.strongRecOn generalizing x with
  | ind n ih =>
      subst hn
      intro c hc
      have hbelow : ∀ y, y.height < x.height → y.isOrdered = true → Canonical y →
          Reproduces (childOf c) y := by
        intro y hy hordered hcanonical
        exact childOf_of_levels (Nat.lt_of_lt_of_le hy hc) (ih y.height hy hordered hcanonical rfl)
      cases h with
      | @node node form description title excluded =>
          have hdirect : ∀ y, Part y (.object node) → Canonical y → Reproduces (childOf c) y :=
            fun y hy => hbelow y hy.height_lt (hy.isOrdered ho)
          have hinner : ∀ y z, Part y z → Part z (.object node) → Canonical y →
              Reproduces (childOf c) y :=
            fun y z hy hz => hbelow y (Nat.lt_trans hy.height_lt hz.height_lt)
              (hy.isOrdered (hz.isOrdered ho))
          have hnode : NodeReproduced c.path (childOf c) (targetOf c) node :=
            nodeReproduced_of_canonicalForm ho form hdirect hinner
          obtain ⟨v, hv, he⟩ := compileMembers_reproduces hnode (Json.isOrdered_object.1 ho).1
            description title fun y hy =>
              hdirect y (.member (Json.mem_of_lookup hy)) (excluded y hy)
          refine ⟨v, ?_, by rw [Validator.toSchema, he]⟩
          rw [compileNode_eq]
          exact hv

/-- Whatever the definitions and the limit, a canonical schema is compiled to nothing but what is
exported to it, and it is compiled if the limit is not below its height. Whatever is read has its
members in order, `Json.isOrdered_of_parse?`. -/
theorem compile_canonical {schema : Json} (ho : schema.isOrdered = true) (h : Canonical schema)
    (definitions : Members) :
    (∀ limit, schema.height ≤ limit →
      ∃ v, compile schema { maxDepth := limit } definitions = .ok v ∧ v.toSchema = schema) ∧
    ∀ limit v, compile schema { maxDepth := limit } definitions = .ok v → v.toSchema = schema := by
  have henough : ∀ limit, schema.height ≤ limit →
      ∃ v, compile schema { maxDepth := limit } definitions = .ok v ∧ v.toSchema = schema :=
    fun limit hl => compileNode_canonical ho h (.start schema definitions { maxDepth := limit }) hl
  refine ⟨henough, fun limit v hv => ?_⟩
  obtain ⟨u, hu, he⟩ := henough (max limit schema.height) (Nat.le_max_right ..)
  rcases compile_withLimit schema definitions false (Nat.le_max_left limit schema.height) with
    ⟨path, ht⟩ | hsame
  · cases hv.symm.trans ht
  · cases hv.symm.trans (hsame.trans hu)
    exact he

def nameNode : Members :=
  [("minLength", .int 1), ("type", .array [.string "string", .string "null"])]

def half : Binary64 := .ofQuotient false Binary64.unit 2

def shareNode : Members :=
  [("maximum", .int 1), ("multipleOf", .number (.double half)),
    ("not", .object [("const", .int 0)]), ("type", .string "number")]

def memberNode : Members :=
  [("default", .object [("name", .null)]),
    ("properties", .object [("name", .object nameNode), ("share", .object shareNode)]),
    ("required", .array [.string "name"]), ("title", .string "Member"), ("type", .string "object")]

theorem canonical_nameNode : Canonical (.object nameNode) := by
  have htype : SaysType .string true nameNode := rfl
  have hspells : Spells stringSpelling nameNode := by
    refine spells_cons.2 ⟨?_, spells_cons.2 ⟨nofun, spells_cons.2 ⟨nofun, spells_cons.2
      ⟨nofun, nofun⟩⟩⟩⟩
    rintro _ ⟨⟩
    exact ⟨1, by decide, rfl⟩
  exact .node (.string (by decide) htype hspells) nofun nofun nofun

theorem canonical_shareNode : Canonical (.object shareNode) := by
  have htype : SaysType .number false shareNode := rfl
  have hspells : Spells numberSpelling shareNode := by
    refine spells_cons.2 ⟨nofun, spells_cons.2 ⟨?_, spells_cons.2 ⟨nofun, spells_cons.2
      ⟨nofun, spells_cons.2 ⟨?_, nofun⟩⟩⟩⟩⟩
    · rintro _ ⟨⟩
      exact .inl ⟨1, rfl, by decide⟩
    · rintro _ ⟨⟩
      exact ⟨.inr ⟨half, rfl, by decide +kernel⟩, .double half, rfl, by decide +kernel⟩
  refine .node (.number false (by decide) htype hspells) nofun nofun ?_
  rintro _ ⟨⟩
  exact .node (.const (by decide) rfl) nofun nofun nofun

theorem compile_canonical_memberNode : (Json.object memberNode).isOrdered = true ∧
    Canonical (.object memberNode) ∧
      ∃ v, compile (.object memberNode) {} [] = .ok v ∧ v.toSchema = .object memberNode := by
  have ho : (Json.object memberNode).isOrdered = true := by
    decide
  have hc : Canonical (.object memberNode) := by
    have htype : SaysType .object false memberNode := rfl
    refine .node (.object (by decide) htype rfl ?_ ?_ ?_) nofun ?_ nofun
    · exact List.forall_mem_cons.2 ⟨canonical_nameNode,
        List.forall_mem_singleton.2 canonical_shareNode⟩
    · rintro _ ⟨⟩
      exact ⟨["name"], rfl, by decide, by decide, by decide⟩
    · exact spells_cons.2 ⟨nofun, spells_cons.2 ⟨nofun, nofun⟩⟩
    · rintro _ ⟨⟩
      exact ⟨_, rfl⟩
  exact ⟨ho, hc, (compile_canonical ho hc []).1 50 (by decide)⟩

end SchemaCheck.Schema
