import SchemaCheck.Proofs.Schema.Calls
import SchemaCheck.Proofs.Schema.Congruence
import SchemaCheck.Schema.Strict

namespace SchemaCheck.Schema

open Json (Members)

/-- From the target of the reference one comes to the reference again. -/
def LeadsBack (target? : String → Option Json) (reference : String) : Prop :=
  ∃ target, target? reference = some target ∧
    ∃ x, Reaches target? target x ∧ RefersTo x reference

/-- From the value one comes to a reference that leads back. -/
structure Circular (target? : String → Option Json) (value : Json) (reference : String) :
    Prop where
  meets : ∃ x, Reaches target? value x ∧ RefersTo x reference
  leadsBack : LeadsBack target? reference

theorem Circular.of_reaches {target? : String → Option Json} {x y : Json} {reference : String}
    (h : Circular target? y reference) (hxy : Reaches target? x y) :
    Circular target? x reference where
  meets := by
    obtain ⟨z, hyz, hz⟩ := h.meets
    exact ⟨z, hxy.trans hyz, hz⟩
  leadsBack := h.leadsBack

def CyclesIn (P : String → Prop) {α : Type} (r : Except Error α) : Prop :=
  ∀ path reference, r = .error (.cycle path reference) → P reference

theorem cyclesIn_iff {P : String → Prop} {α : Type} {r : Except Error α} : CyclesIn P r ↔
    ErrorsIn (fun e => ∀ path reference, e = .cycle path reference → P reference) r := by
  constructor
  · rintro h e he path reference rfl
    exact h path reference he
  · intro h path reference he
    exact h _ he path reference rfl

theorem CyclesIn.bind {P : String → Prop} {α β : Type} {r : Except Error α}
    {k : α → Except Error β} (h : CyclesIn P r) (hk : ∀ a, r = .ok a → CyclesIn P (k a)) :
    CyclesIn P (r >>= k) :=
  cyclesIn_iff.2 ((cyclesIn_iff.1 h).bind fun a ha => cyclesIn_iff.1 (hk a ha))

theorem congruence_cyclesIn (path : String) (P : String → Prop) :
    Congruence path path fun _ r _ => CyclesIn P r := by
  simp only [cyclesIn_iff]
  exact congruence_errorsIn (fun _ => nofun) fun _ => nofun

theorem cyclesIn_descend (c : Context) (segments : List String) (P : String → Prop) :
    CyclesIn P (c.descend segments) := by
  intro path reference h
  cases (Context.descend_eq_error h).2

theorem cyclesIn_follow (c : Context) (reference : String) :
    CyclesIn (fun r => r = reference ∧ r ∈ c.entered) (c.follow reference) := by
  intro path r h
  rcases Context.follow_eq_error h with ⟨feature, -, he⟩ | h | ⟨-, he⟩
  · cases he
  · rcases Context.enter_eq_error h with ⟨hm, he⟩ | ⟨-, he⟩
    · cases he
      exact ⟨rfl, hm⟩
    · cases he
  · cases he

def LedHere (c : Context) (x : Json) : Prop :=
  ∀ reference ∈ c.entered, ∃ target, c.target? reference = some target ∧
    Reaches c.target? target x

theorem LedHere.descend {c d : Context} {x y : Json} {segments : List String} (h : LedHere c x)
    (hd : c.descend segments = .ok d) (hxy : Reaches c.target? x y) : LedHere d y := by
  obtain ⟨-, rfl⟩ := Context.descend_eq_ok hd
  intro reference hr
  obtain ⟨target, ht, hx⟩ := h reference hr
  exact ⟨target, ht, hx.trans hxy⟩

theorem LedHere.follow {c d : Context} {x y : Json} {reference : String} (h : LedHere c x)
    (hd : c.follow reference = .ok (d, y)) (hx : RefersTo x reference) : LedHere d y := by
  obtain ⟨he, ht⟩ := Context.follow_eq_ok hd
  obtain ⟨-, -, rfl⟩ := Context.enter_eq_ok he
  intro r hr
  rcases List.mem_append.1 hr with hr | hr
  · obtain ⟨target, htarget, hreach⟩ := h r hr
    exact ⟨target, htarget, hreach.tail (.target hx ht)⟩
  · obtain rfl := List.mem_singleton.1 hr
    exact ⟨y, ht, .refl⟩

/-- The induction is on the levels that are left, and the way to the node is its invariant. -/
theorem cyclesIn_compileNode {c : Context} {x : Json} (hc : LedHere c x) :
    CyclesIn (Circular c.target? x) (compileNode c x) := by
  induction hn : c.levelsLeft using Nat.strongRecOn generalizing c x with
  | ind n ih =>
      subst hn
      rw [compileNode_eq]
      refine compileStep_congr (congruence_cyclesIn c.path _) (childOf c) (childOf c) (targetOf c)
        (targetOf c) ?_ ?_
      · intro segments y hy
        have hxy : Reaches c.target? x y := reaches_of_children hy
        refine (cyclesIn_descend c segments _).bind fun d hd => ?_
        have hy := ih d.levelsLeft (Context.levelsLeft_descend hd) (hc.descend hd hxy) rfl
        obtain ⟨-, rfl⟩ := Context.descend_eq_ok hd
        intro path reference he
        exact (hy path reference he).of_reaches hxy
      · intro reference hx
        refine CyclesIn.bind ?_ fun ⟨d, y⟩ hd => ?_
        · intro path r he
          obtain ⟨rfl, hr⟩ := cyclesIn_follow c reference path r he
          obtain ⟨target, ht, hreach⟩ := hc r hr
          exact ⟨⟨x, .refl, hx⟩, target, ht, x, hreach, hx⟩
        · have hy := ih d.levelsLeft (Context.levelsLeft_follow hd) (hc.follow hd hx) rfl
          obtain ⟨he, ht⟩ := Context.follow_eq_ok hd
          obtain ⟨-, -, rfl⟩ := Context.enter_eq_ok he
          intro path r he
          exact (hy path r he).of_reaches (.single (.target hx ht))

theorem Reached.follows {c : Context} {x : Json} {reference : String} (h : Reached c x)
    (hx : RefersTo x reference) :
    reference ∉ c.entered ∧ ∃ d target v, c.target? reference = some target ∧
      compileNode d target = .ok v ∧ d.target? = c.target? ∧ reference ∈ d.entered := by
  obtain ⟨d, v, hv, hroot, hdefinitions, he⟩ := h
  rw [compileNode_of_ref hx] at hv
  obtain ⟨⟨e, target⟩, hd, hv⟩ := bind_eq_ok hv
  obtain ⟨hd, ht⟩ := Context.follow_eq_ok hd
  obtain ⟨hn, -, rfl⟩ := Context.enter_eq_ok hd
  have hc : d.target? = c.target? := Context.target?_congr hroot hdefinitions
  refine ⟨fun hm => hn (he hm), _, target, v, hc ▸ ht, hv, hc, ?_⟩
  exact List.mem_append_right _ (List.mem_singleton_self _)

theorem not_circular_of_compileNode {c : Context} {x : Json} {v : Validator}
    (hv : compileNode c x = .ok v) (reference : String) :
    ¬ Circular c.target? x reference := by
  rintro ⟨⟨y, hxy, hy⟩, target, ht, z, hz, hr⟩
  obtain ⟨-, d, target', w, ht', hw, hd, he⟩ := (Reached.of_reaches hv hxy).follows hy
  cases ht.symm.trans ht'
  rw [← hd] at hz
  exact ((Reached.of_reaches hw hz).follows hr).1 he

def document (schema : Json) (strict : Bool) : Json := if strict then prune schema else schema

/-- What a reference in the document or in a definition is followed to. The document that a strict
compilation prunes is still the one that references are resolved in. -/
def targets (schema : Json) (definitions : Members) : String → Option Json :=
  (Context.start schema definitions {}).target?

theorem compile_cycles (schema : Json) (definitions : Members) (strict : Bool)
    (reference : String) :
    (∀ limit path, compile schema { strict, maxDepth := limit } definitions =
        .error (.cycle path reference) →
      Circular (targets schema definitions) (document schema strict) reference) ∧
    (Circular (targets schema definitions) (document schema strict) reference →
      ∀ limit v, compile schema { strict, maxDepth := limit } definitions ≠ .ok v) ∧
    (¬ LeadsBack (targets schema definitions) reference →
      ∀ limit path, compile schema { strict, maxDepth := limit } definitions ≠
        .error (.cycle path reference)) := by
  have hsound : ∀ limit path, compile schema { strict, maxDepth := limit } definitions =
      .error (.cycle path reference) →
        Circular (targets schema definitions) (document schema strict) reference := by
    intro limit path h
    refine cyclesIn_compileNode (c := .start schema definitions { strict, maxDepth := limit })
      ?_ path reference h
    intro r hr
    cases hr
  refine ⟨hsound, ?_, ?_⟩
  · intro hc limit v hv
    exact not_circular_of_compileNode (c := .start schema definitions { strict, maxDepth := limit })
      hv reference hc
  · intro hn limit path h
    exact hn (hsound limit path h).leadsBack

def linkedNodes : Json :=
  .object [("$defs", .object [("Node", .object [
      ("properties", .object [("next", .object [("$ref", .string "#/$defs/Node")])])])]),
    ("$ref", .string "#/$defs/Node")]

def sharedName : Json :=
  .object [("$defs", .object [("Name", .object [("type", .string "string")])]),
    ("properties", .object [("first", .object [("$ref", .string "#/$defs/Name")]),
      ("last", .object [("$ref", .string "#/$defs/Name")])])]

theorem compile_cycles_linkedNodes :
    Circular (targets linkedNodes []) (document linkedNodes false) "#/$defs/Node" ∧
      (∀ limit v, compile linkedNodes { strict := false, maxDepth := limit } [] ≠ .ok v) ∧
    ¬ LeadsBack (targets sharedName []) "#/$defs/Name" ∧
      ∀ limit path, compile sharedName { strict := false, maxDepth := limit } [] ≠
        .error (.cycle path "#/$defs/Name") := by
  have hnode : targets linkedNodes [] "#/$defs/Node" = some (.object [("properties",
      .object [("next", .object [("$ref", .string "#/$defs/Node")])])]) := by
    rfl
  have hnext : Reaches (targets linkedNodes []) (.object [("properties",
      .object [("next", .object [("$ref", .string "#/$defs/Node")])])])
        (.object [("$ref", .string "#/$defs/Node")]) :=
    reaches_of_children (List.mem_singleton_self _)
  have hlinked : Circular (targets linkedNodes []) (document linkedNodes false) "#/$defs/Node" :=
    ⟨⟨linkedNodes, .refl, _, rfl, rfl⟩, _, hnode, _, hnext, _, rfl, rfl⟩
  have hname : targets sharedName [] "#/$defs/Name" =
      some (.object [("type", .string "string")]) := by
    rfl
  have hshared : ¬ LeadsBack (targets sharedName []) "#/$defs/Name" := by
    rintro ⟨target, ht, x, hx, hr⟩
    cases hname.symm.trans ht
    rcases hx.cases_head with rfl | ⟨y, hy, -⟩
    · obtain ⟨node, hnode, hf⟩ := hr
      cases hnode
      cases hf
    · exact not_calls_of_bare (t := .string) rfl rfl rfl y hy
  exact ⟨hlinked, (compile_cycles linkedNodes [] false _).2.1 hlinked, hshared,
    (compile_cycles sharedName [] false _).2.2 hshared⟩

end SchemaCheck.Schema
