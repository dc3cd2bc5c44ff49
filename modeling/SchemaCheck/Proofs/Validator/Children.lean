import SchemaCheck.Validator.Basic

namespace SchemaCheck

def UnknownKeys.validators : UnknownKeys → List Validator
  | .validate v => [v]
  | _ => []

def Shape.validators : Shape → List Validator
  | .array element _ => [element]
  | .tuple vs => vs
  | .object fields unknown _ => fields.map (·.validator) ++ unknown.validators
  | .union vs => vs
  | .exclusiveUnion vs => vs
  | .intersection vs => vs
  | _ => []

namespace Validator

/-- What must not be accepted counts as a child too. -/
def children (v : Validator) : List Validator := v.shape.validators ++ v.excluded.toList

theorem sizeOf_field {f : Field} : sizeOf f.validator < sizeOf f := by
  obtain ⟨name, required, v⟩ := f
  simp only [Field.mk.sizeOf_spec]
  omega

theorem sizeOf_shape {s : Shape} {w : Validator} (h : w ∈ s.validators) : sizeOf w < sizeOf s := by
  cases s with
  | any | never | boolean | null | literal | among | string | number =>
      simp [Shape.validators] at h
  | array element checks =>
      simp only [Shape.validators, List.mem_singleton] at h
      subst h
      simp only [Shape.array.sizeOf_spec]
      omega
  | tuple vs | union vs | exclusiveUnion vs | intersection vs =>
      have hw := List.sizeOf_lt_of_mem h
      simp only [Shape.validators] at hw
      simp only [Shape.tuple.sizeOf_spec, Shape.union.sizeOf_spec, Shape.exclusiveUnion.sizeOf_spec,
        Shape.intersection.sizeOf_spec]
      omega
  | object fields unknown checks =>
      simp only [Shape.validators, List.mem_append, List.mem_map] at h
      simp only [Shape.object.sizeOf_spec]
      rcases h with ⟨f, hf, rfl⟩ | h
      · have hs := List.sizeOf_lt_of_mem hf
        have hv := sizeOf_field (f := f)
        omega
      · cases unknown with
        | reject | accept => simp [UnknownKeys.validators] at h
        | validate v =>
            simp only [UnknownKeys.validators, List.mem_singleton] at h
            subst h
            simp only [UnknownKeys.validate.sizeOf_spec]
            omega

theorem sizeOf_child {v w : Validator} (h : w ∈ v.children) : sizeOf w < sizeOf v := by
  obtain ⟨shape, nullable, defaultValue, description, title, allowed, excluded⟩ := v
  simp only [Validator.mk.sizeOf_spec]
  rcases List.mem_append.1 h with h | h
  · have hs : sizeOf w < sizeOf shape := sizeOf_shape h
    omega
  · cases excluded with
    | none => simp at h
    | some e =>
        simp only [Option.toList_some, List.mem_singleton] at h
        subst h
        simp only [Option.some.sizeOf_spec]
        omega

theorem induction {P : Validator → Prop} (step : ∀ v, (∀ w ∈ v.children, P w) → P v)
    (v : Validator) : P v :=
  step v fun w _h => induction step w
termination_by sizeOf v
decreasing_by exact sizeOf_child _h

/-- The validator itself and all that stand below it. -/
inductive Node : Validator → Validator → Prop
  | self (v : Validator) : Node v v
  | deeper {u v w : Validator} (h : u ∈ v.children) (hw : Node w u) : Node w v

def Everywhere (P : Validator → Prop) (v : Validator) : Prop := ∀ w, Node w v → P w

theorem everywhere_iff {P : Validator → Prop} {v : Validator} :
    v.Everywhere P ↔ P v ∧ ∀ u ∈ v.children, u.Everywhere P := by
  constructor
  · intro h
    exact ⟨h v (.self v), fun u hu w hw => h w (.deeper hu hw)⟩
  · rintro ⟨hv, hc⟩ w hw
    cases hw with
    | self => exact hv
    | deeper hu hw => exact hc _ hu w hw

theorem everywhere_of_leaf {P : Validator → Prop} {v : Validator} (h : v.children = []) (hv : P v) :
    v.Everywhere P :=
  everywhere_iff.2 ⟨hv, by simp [h]⟩

theorem Everywhere.here {P : Validator → Prop} {v : Validator} (h : v.Everywhere P) : P v :=
  (everywhere_iff.1 h).1

theorem Everywhere.child {P : Validator → Prop} {u v : Validator} (h : v.Everywhere P)
    (hu : u ∈ v.children) : u.Everywhere P :=
  (everywhere_iff.1 h).2 u hu

end Validator

end SchemaCheck
