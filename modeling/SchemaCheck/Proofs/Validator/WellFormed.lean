import SchemaCheck.Proofs.Validator.Acceptance
import SchemaCheck.Schema.Compile
import SchemaCheck.Validator.Export

namespace SchemaCheck

open Check (rules)

/-- No two rules are written under one keyword. -/
def DistinctRules {ρ : Type} (entry : ρ → String × Json) (checks : List (Check ρ)) : Prop :=
  ((rules checks).map fun r => (entry r).1).Nodup

def Shape.WellFormed : Shape → Prop
  | .among values => values.length ≠ 1
  | .string checks => DistinctRules StringRule.entry checks
  | .number _ checks => DistinctRules NumberRule.entry checks ∧
      ∀ step, .multipleOf step ∈ rules checks → 0 < step.signedUnits
  | .array _ checks => DistinctRules ArrayRule.entry checks
  | .object fields _ checks => (fields.map (·.name)).Nodup ∧ DistinctRules ObjectRule.entry checks
  | .union vs => 2 ≤ vs.length
  | .exclusiveUnion vs => 2 ≤ vs.length
  | .intersection vs => 2 ≤ vs.length
  | _ => True

structure Validator.WellFormedNode (v : Validator) : Prop where
  shape : v.shape.WellFormed
  allowed : ∀ values, v.allowed = some values → ∀ x ∈ values,
    (v.nullable = true ∧ x = .null) ∨ v.shape.Accepts x

def Validator.WellFormed (v : Validator) : Prop := v.Everywhere Validator.WellFormedNode

namespace Validator

theorem wellFormedNode_ofShape {s : Shape} (h : s.WellFormed) : (ofShape s).WellFormedNode where
  shape := h
  allowed := by simp [ofShape]

theorem wellFormed_ofShape {s : Shape} (hs : s.WellFormed) (hc : ∀ u ∈ s.validators, u.WellFormed) :
    (ofShape s).WellFormed := by
  refine everywhere_iff.2 ⟨wellFormedNode_ofShape hs, fun u hu => hc u ?_⟩
  simpa [children, ofShape] using hu

theorem wellFormed_any : any.WellFormed := wellFormed_ofShape trivial nofun

theorem WellFormed.withNullable {v : Validator} (h : v.WellFormed) : v.withNullable.WellFormed := by
  refine everywhere_iff.2 ⟨⟨h.here.shape, fun values hv x hx => ?_⟩, fun u hu => h.child hu⟩
  exact (h.here.allowed values hv x hx).imp (fun hn => ⟨rfl, hn.2⟩) id

theorem WellFormed.withAllowed {v : Validator} (h : v.WellFormed) {values : List Json}
    (hv : ∀ x ∈ values, v.isValid x = true) :
    ({ v with allowed := some values } : Validator).WellFormed := by
  refine everywhere_iff.2 ⟨⟨h.here.shape, ?_⟩, fun u hu => h.child hu⟩
  rintro _ ⟨⟩ x hx
  exact (accepts_iff.1 (isValid_iff.1 (hv x hx))).imp id And.left

theorem WellFormed.withExcluded {u v : Validator} (h : v.WellFormed) (hu : u.WellFormed) :
    ({ v with excluded := some u } : Validator).WellFormed := by
  refine everywhere_iff.2 ⟨⟨h.here.shape, h.here.allowed⟩, fun w hw => ?_⟩
  rcases List.mem_append.1 hw with hw | hw
  · exact h.child (List.mem_append_left _ hw)
  · obtain rfl : w = u := by simpa using hw
    exact hu

theorem WellFormed.withMetadata {v : Validator} (h : v.WellFormed) (node : Json.Members) :
    (Schema.withMetadata node v).WellFormed :=
  everywhere_iff.2 ⟨⟨h.here.shape, h.here.allowed⟩, fun _ hu => h.child hu⟩

end Validator

end SchemaCheck
