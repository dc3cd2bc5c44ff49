import SchemaCheck.Proofs.Schema.Congruence
import SchemaCheck.Proofs.Schema.Context
import SchemaCheck.Proofs.Schema.Keywords

namespace SchemaCheck.Schema

open Json (Members)

def FailsWith (code : ErrorCode) {α : Type} (r : Except Error α) : Prop :=
  ∃ e, r = .error e ∧ e.code = code

theorem congruence_failsWith (path : String) (excused : Prop) (code : ErrorCode) :
    Congruence path path fun _ r s => (excused ∧ FailsWith code r) ∨ r = s :=
  congruence_unless path fun _ ⟨hx, e, he, hc⟩ => ⟨hx, e, by rw [he]; rfl, hc⟩

namespace Context

def beside (c : Context) (root : Json) (definitions : Members) : Context :=
  { c with root, definitions }

variable (c : Context) (root : Json) (definitions : Members)

theorem descend_beside (segments : List String) :
    (c.beside root definitions).descend segments =
      (c.descend segments).map (·.beside root definitions) := by
  rw [descend, descend]
  by_cases h : c.depth < c.limit
  · exact (if_pos h).trans (by rw [if_pos h]; rfl)
  · exact (if_neg h).trans (by rw [if_neg h]; rfl)

theorem enter_beside (reference : String) :
    (c.beside root definitions).enter reference =
      (c.enter reference).map (·.beside root definitions) := by
  rw [enter, enter]
  by_cases he : c.entered.contains reference = true
  · exact (if_pos he).trans (by rw [if_pos he]; rfl)
  · by_cases h : c.depth < c.limit
    · exact ((if_neg he).trans (if_pos h)).trans (by rw [if_neg he, if_pos h]; rfl)
    · exact ((if_neg he).trans (if_neg h)).trans (by rw [if_neg he, if_neg h]; rfl)

end Context

/-- What the second documents supply for a reference, given what the first ones do. They may supply
what is missing only if that is excused. -/
inductive Supplied (excused : Prop) (Good : Json → Prop) : Option Json → Option Json → Prop
  | found {x y : Json} (hx : Good x) (h : ReadsAs x y) : Supplied excused Good (some x) (some y)
  | missing : Supplied excused Good none none
  | more (h : excused) (y : Option Json) : Supplied excused Good none y

theorem supplied_self {excused : Prop} {Good : Json → Prop} {found : Option Json}
    (h : ∀ x, found = some x → Good x) : Supplied excused Good found found := by
  cases found with
  | none => exact .missing
  | some x => exact .found (h x rfl) (.refl x)

def Knows (known : String → Prop) (x : Json) : Prop := ∀ reference ∈ x.references, known reference

theorem Knows.part {known : String → Prop} {x y : Json} (h : Json.Part x y) (hy : Knows known y) :
    Knows known x :=
  fun reference hr => hy reference (h.references_subset hr)

/-- Unless it is excused that the first compilation misses the target of a reference, the results
are the same. -/
theorem compileNode_beside {excused : Prop} {known : String → Prop} {c : Context} {root : Json}
    {definitions : Members}
    (hs : ∀ reference, known reference → Supplied excused (Knows known) (c.target? reference)
      ((c.beside root definitions).target? reference)) {x y : Json} (hxy : ReadsAs x y)
    (hx : Knows known x) :
    (excused ∧ FailsWith .unresolvableRef (compileNode c x)) ∨
      compileNode c x = compileNode (c.beside root definitions) y := by
  induction hn : c.levelsLeft using Nat.strongRecOn generalizing c x y with
  | ind n ih =>
      subst hn
      have hparts : ∀ z, Json.Part z x → Knows known z := fun z hz => hx.part hz
      rw [compileNode_eq c, compileNode_eq (c.beside root definitions), ← hxy.compileStep_eq]
      refine compileStep_congr (congruence_failsWith c.path excused .unresolvableRef) _ _ _ _ ?_ ?_
      · intro segments z hz
        have hg := good_of_children (fun _ _ hp hy => hy.part hp) hparts z hz
        rw [childOf, childOf, c.descend_beside]
        cases hd : c.descend segments with
        | error e => exact .inr rfl
        | ok d =>
            have hsd : ∀ reference, known reference → Supplied excused (Knows known)
                (d.target? reference) ((d.beside root definitions).target? reference) := by
              obtain ⟨-, rfl⟩ := Context.descend_eq_ok hd
              exact hs
            exact ih d.levelsLeft (Context.levelsLeft_descend hd) hsd (.refl z) hg rfl
      · intro reference hr
        have ht := hs reference (hx reference hr.mem_references)
        rw [targetOf, targetOf, Context.follow, Context.follow, c.enter_beside]
        cases hf : Context.foreign? reference with
        | some feature => exact .inr rfl
        | none =>
            have hl := Context.isLocal_of_foreign? hf
            rw [Context.target?, Context.target?, if_pos hl, if_pos hl] at ht
            cases he : c.enter reference with
            | error e => exact .inr rfl
            | ok d =>
                have hsd : ∀ reference, known reference → Supplied excused (Knows known)
                    (d.target? reference) ((d.beside root definitions).target? reference) := by
                  obtain ⟨-, -, rfl⟩ := Context.enter_eq_ok he
                  exact hs
                generalize c.resolve? reference = found at ht
                generalize (c.beside root definitions).resolve? reference = supplied at ht
                cases ht with
                | found hz hzw =>
                    exact ih d.levelsLeft (Context.levelsLeft_enter he) hsd hzw hz rfl
                | missing => exact .inr rfl
                | more h => exact .inl ⟨h, .unresolvable c.path reference, rfl, rfl⟩

end SchemaCheck.Schema
