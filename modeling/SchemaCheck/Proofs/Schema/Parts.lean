import SchemaCheck.Proofs.Schema.Congruence
import SchemaCheck.Proofs.Validator.Children

namespace SchemaCheck.Schema

open Json (Members)

def CompiledTo (Good : Json → Prop) (Q : Validator → Prop) (child : ChildCompiler) : Prop :=
  ∀ segments x, Good x → Produces Q (child segments x)

section Parts

variable {path : String} {child : ChildCompiler} {node : Members} {Good : Json → Prop}
  {Q : Validator → Prop} (hc : CompiledTo Good Q child)
include hc

theorem compileEach_parts (keyword : String) (i : Nat) {xs : List Json} (hx : ∀ x ∈ xs, Good x) :
    Produces (fun vs => vs.length = xs.length ∧ ∀ v ∈ vs, Q v)
      (compileEach child keyword i xs) := by
  induction xs generalizing i with
  | nil => exact .ok ⟨rfl, nofun⟩
  | cons x rest ih =>
      rw [List.forall_mem_cons] at hx
      refine (hc _ x hx.1).bind fun v hv => ?_
      refine (ih (i + 1) hx.2).bind fun vs hvs => ?_
      exact .ok ⟨by simp [hvs.1], List.forall_mem_cons.2 ⟨hv, hvs.2⟩⟩

theorem compileProperties_parts (required : List String) {properties : Members}
    (hx : ∀ m ∈ properties, Good m.2) :
    Produces (fun fields => fields.map (·.name) = Json.keys properties ∧
      ∀ f ∈ fields, Q f.validator) (compileProperties child required properties) := by
  induction properties with
  | nil => exact .ok ⟨rfl, nofun⟩
  | cons m rest ih =>
      obtain ⟨name, x⟩ := m
      rw [List.forall_mem_cons] at hx
      refine (hc _ x hx.1).bind fun v hv => ?_
      refine (ih hx.2).bind fun fields hf => ?_
      exact .ok ⟨by simpa [Json.keys] using hf.1, List.forall_mem_cons.2 ⟨hv, hf.2⟩⟩

omit hc in
theorem addRequired_parts (hany : Q .any) {fields : List Field} (required : List String)
    (hf : ∀ f ∈ fields, Q f.validator) : ∀ f ∈ addRequired fields required, Q f.validator := by
  induction required generalizing fields with
  | nil => exact hf
  | cons name rest ih =>
      rw [addRequired]
      split
      · exact ih hf
      · refine ih fun f hm => ?_
        rcases List.mem_append.1 hm with hm | hm
        · exact hf f hm
        · obtain rfl := List.mem_singleton.1 hm
          exact hany

variable (hg : GoodValues Good node)
include hg

theorem compileElement_parts (hany : Q .any) : Produces Q (compileElement child node) := by
  rw [compileElement]
  split
  next x hi => exact hc _ x (hg.value (by decide) hi)
  next => exact .ok hany

theorem compileFields_parts (required : List String) :
    Produces (fun fields => ∀ f ∈ fields, Q f.validator)
      (compileFields path child required node) := by
  rw [compileFields]
  split
  next => exact .ok (List.forall_mem_nil _)
  next properties hp =>
    have hx : ∀ m ∈ properties, Good m.2 := fun m hm => hg.member (hg.value (by decide) hp) hm
    exact (compileProperties_parts hc required hx).imp fun _ hf => hf.2
  next => exact .error

theorem compileUnknown_parts :
    Produces (fun unknown => ∀ v ∈ unknown.validators, Q v) (compileUnknown path child node) := by
  rw [compileUnknown]
  split
  · exact .ok (List.forall_mem_nil _)
  · exact .ok (List.forall_mem_nil _)
  · exact .ok (List.forall_mem_nil _)
  next x hx =>
    refine (hc _ _ (hg.value (by decide) hx)).bind fun v hv => ?_
    refine .ok fun u hu => ?_
    obtain rfl : u = v := by simpa [UnknownKeys.validators] using hu
    exact hv
  next => exact .error

theorem compileArray_parts (hany : Q .any) :
    Produces (fun v => ∀ u ∈ v.children, Q u) (compileArray path child node) := by
  have htuple : ∀ keyword, keyword ≠ "type" → ∀ xs, node.lookup keyword = some (.array xs) →
      Produces (fun v => ∀ u ∈ v.children, Q u) (compileTuple child keyword xs) := by
    intro keyword hk xs hl
    have hx : ∀ x ∈ xs, Good x := fun x hx => hg.item (hg.value hk hl) hx
    refine (compileEach_parts hc keyword 0 hx).bind fun vs hvs => .ok fun u hu => ?_
    exact hvs.2 u (by simpa [Validator.children, Validator.ofShape, Shape.validators] using hu)
  rw [compileArray]
  split
  next xs hi => exact htuple "items" (by decide) xs hi
  next =>
    split
    next xs hi => exact htuple "prefixItems" (by decide) xs hi
    next => exact .error
    next =>
      refine (compileElement_parts hc hg hany).bind fun element he => ?_
      refine Produces.trivial.bind fun checks _ => .ok fun u hu => ?_
      obtain rfl : u = element := by
        simpa [Validator.children, Validator.ofShape, Shape.validators] using hu
      exact he

theorem compileObject_parts (hany : Q .any) :
    Produces (fun v => ∀ u ∈ v.children, Q u) (compileObject path child node) := by
  refine Produces.trivial.bind fun required _ => ?_
  refine (compileFields_parts hc hg required).bind fun fields hf => ?_
  refine (compileUnknown_parts hc hg).bind fun unknown hunknown => ?_
  refine Produces.trivial.bind fun checks _ => .ok fun u hu => ?_
  have hu : u ∈ (addRequired fields required).map (·.validator) ++ unknown.validators := by
    simpa [Validator.children, Validator.ofShape, Shape.validators] using hu
  rcases List.mem_append.1 hu with hu | hu
  · obtain ⟨f, hm, rfl⟩ := List.mem_map.1 hu
    exact addRequired_parts hany required hf f hm
  · exact hunknown u hu

theorem compileTyped_parts (hany : Q .any) (t : TypeName) :
    Produces (fun v => ∀ u ∈ v.children, Q u) (compileTyped path child node t) := by
  cases t with
  | object => exact compileObject_parts hc hg hany
  | array => exact compileArray_parts hc hg hany
  | string | number | integer => exact Produces.trivial.bind fun checks _ => .ok nofun
  | boolean | null => exact .ok nofun

end Parts

end SchemaCheck.Schema
