import Mathlib.Order.Nat
import SchemaCheck.Proofs.Schema.WellFormed

namespace SchemaCheck

namespace Validator

/-- A way down from a validator, each node directly below the one before it. -/
inductive Chain : Validator → List Validator → Prop
  | single (v : Validator) : Chain v [v]
  | cons {u v : Validator} {rest : List Validator} (h : u ∈ v.children) (hr : Chain u rest) :
      Chain v (v :: rest)

def HeightAtMost (n : Nat) (v : Validator) : Prop := ∀ chain, v.Chain chain → chain.length ≤ n

theorem heightAtMost_succ {n : Nat} {v : Validator} :
    v.HeightAtMost (n + 1) ↔ ∀ u ∈ v.children, u.HeightAtMost n := by
  constructor
  · intro h u hu chain hc
    exact Nat.le_of_succ_le_succ (h _ (.cons hu hc))
  · intro h chain hc
    cases hc with
    | single => exact Nat.succ_le_succ (Nat.zero_le n)
    | cons hu hr => exact Nat.succ_le_succ (h _ hu _ hr)

namespace HeightAtMost

variable {m n : Nat} {u v : Validator}

theorem mono (h : v.HeightAtMost m) (hmn : m ≤ n) : v.HeightAtMost n :=
  fun chain hc => (h chain hc).trans hmn

theorem of_leaf (h : v.children = []) : v.HeightAtMost (n + 1) :=
  heightAtMost_succ.2 (by simp [h])

theorem congr (h : v.HeightAtMost n) (hn : 0 < n) (hs : u.shape = v.shape)
    (he : u.excluded = v.excluded) : u.HeightAtMost n := by
  obtain ⟨m, rfl⟩ := Nat.exists_eq_succ_of_ne_zero hn.ne'
  have hc : u.children = v.children := by
    rw [children, children, hs, he]
  rw [heightAtMost_succ] at h ⊢
  rwa [hc]

theorem withExcluded (h : v.HeightAtMost (n + 1)) (hu : u.HeightAtMost n) :
    ({ v with excluded := some u } : Validator).HeightAtMost (n + 1) := by
  rw [heightAtMost_succ] at h ⊢
  intro w hw
  rcases List.mem_append.1 hw with hw | hw
  · exact h w (List.mem_append_left _ hw)
  · obtain rfl : w = u := by simpa using hw
    exact hu

end HeightAtMost

theorem heightAtMost_ofShape {n : Nat} {s : Shape} (h : ∀ u ∈ s.validators, u.HeightAtMost n) :
    (ofShape s).HeightAtMost (n + 1) := by
  refine heightAtMost_succ.2 fun u hu => h u ?_
  simpa [children, ofShape] using hu

end Validator

namespace Schema

open Json (Members)
open Validator (HeightAtMost heightAtMost_succ heightAtMost_ofShape)

theorem Combines.heightAtMost {shape : List Validator → Shape} (hs : Combines shape) {n : Nat}
    {vs : List Validator} (hv : ∀ v ∈ vs, v.HeightAtMost n) :
    (combine shape vs).HeightAtMost (n + 1) := by
  match vs with
  | [v] => exact (hv v (List.mem_singleton_self v)).mono n.le_succ
  | [] | u :: v :: rest => exact heightAtMost_ofShape (hs.validators _ ▸ hv)

section Node

theorem goodValues_true (node : Members) : GoodValues (fun _ => True) node :=
  ⟨fun _ _ => trivial, fun _ _ => trivial⟩

variable {path : String} {child : ChildCompiler} {node : Members} {n : Nat}
  (hc : CompiledTo (fun _ => True) (HeightAtMost (n + 1)) child)
include hc

theorem combineEach_heightAtMost (keyword : String) {shape : List Validator → Shape}
    (hs : Combines shape) (xs : List Json) :
    Produces (HeightAtMost (n + 2)) ((compileEach child keyword 0 xs).map (combine shape)) :=
  (compileEach_parts hc keyword 0 fun _ _ => trivial).map fun _ hvs => hs.heightAtMost hvs.2

theorem compileTyped_heightAtMost (node : Members) (t : TypeName) :
    Produces (HeightAtMost (n + 2)) (compileTyped path child node t) :=
  (compileTyped_parts hc (goodValues_true node) (.of_leaf rfl) t).imp
    fun _ => heightAtMost_succ.2

theorem compileBranches_heightAtMost (ts : List TypeName) :
    Produces (fun vs => ∀ v ∈ vs, v.HeightAtMost (n + 2))
      (compileBranches path child node ts) := by
  induction ts with
  | nil => exact .ok nofun
  | cons t rest ih =>
      refine (compileTyped_heightAtMost hc (narrow node t) t).bind fun v hv => ?_
      exact ih.bind fun vs hvs => .ok (List.forall_mem_cons.2 ⟨hv, hvs⟩)

theorem compileTypes_heightAtMost (node : Members) (ts : List TypeName) :
    Produces (HeightAtMost (n + 3)) (compileTypes path child node ts) := by
  refine (compileBranches_heightAtMost hc _).bind fun vs hvs => ?_
  have hunion := combines_union.heightAtMost hvs
  split
  · exact .ok (.of_leaf rfl)
  · split
    · exact .ok (hunion.congr (Nat.succ_pos _) rfl rfl)
    · exact .ok hunion

theorem compileAnyOf_heightAtMost (xs : List Json) :
    Produces (HeightAtMost (n + 3)) (compileAnyOf path child xs) := by
  rw [compileAnyOf]
  split
  next merged _ =>
    refine Produces.trivial.bind fun form _ => ?_
    cases form with
    | typed t => exact (compileTyped_heightAtMost hc merged t).imp fun _ h => h.mono (by omega)
    | types ts => exact compileTypes_heightAtMost hc merged ts
    | anyOf | oneOf | allOf | ref | enum | const | any => exact .ok (.of_leaf rfl)
  next =>
    exact (combineEach_heightAtMost hc "anyOf" combines_union xs).imp fun _ h => h.mono (by omega)

theorem modify_heightAtMost (form : Form) {v : Validator} (hv : v.HeightAtMost (n + 3)) :
    Produces (HeightAtMost (n + 3)) (modify path child node form v) := by
  rw [modify_eq]
  have hnull : Produces (HeightAtMost (n + 3)) (setNullable path node v) := by
    rw [setNullable]
    split
    · exact .ok hv
    · exact .ok hv
    · exact .ok (hv.congr (Nat.succ_pos _) rfl rfl)
    · exact .error
  refine hnull.bind fun v hv => ?_
  have henum : Produces (HeightAtMost (n + 3))
      (if form.isEnum then .ok v else refineEnum path node v : Result) := by
    split
    · exact .ok hv
    · rw [refineEnum]
      split
      · exact .ok hv
      · split
        · exact .error
        · exact .ok (hv.congr (Nat.succ_pos _) rfl rfl)
      · exact .error
  refine henum.bind fun v hv => ?_
  rw [setExcluded]
  split
  · exact .ok hv
  · refine (hc _ _ trivial).bind fun u hu => ?_
    exact .ok (hv.withExcluded (hu.mono (by omega)))

variable {follow : String → Result}
  (hf : ∀ reference, Produces (HeightAtMost (n + 3)) (follow reference))
include hf

theorem compileForm_heightAtMost (form : Form) :
    Produces (HeightAtMost (n + 3)) (compileForm path child follow node form) := by
  cases form with
  | anyOf xs => exact compileAnyOf_heightAtMost hc xs
  | oneOf xs =>
      exact (combineEach_heightAtMost hc _ combines_exclusiveUnion xs).imp
        fun _ h => h.mono (by omega)
  | allOf xs =>
      exact (combineEach_heightAtMost hc _ combines_intersection xs).imp
        fun _ h => h.mono (by omega)
  | ref reference => exact hf reference
  | enum xs =>
      have hleaf : (compileEnum xs).children = [] := by
        unfold compileEnum
        split <;> rfl
      exact .ok (.of_leaf hleaf)
  | const x => exact .ok (.of_leaf rfl)
  | typed t => exact (compileTyped_heightAtMost hc node t).imp fun _ h => h.mono (by omega)
  | types ts => exact compileTypes_heightAtMost hc node ts
  | any => exact .ok (.of_leaf rfl)

theorem compileStep_heightAtMost (x : Json) :
    Produces (HeightAtMost (n + 3)) (compileStep path child follow x) := by
  unfold compileStep
  split
  · exact .ok (.of_leaf rfl)
  · exact .ok (.of_leaf rfl)
  next node =>
    rw [compileMembers]
    refine Produces.trivial.bind fun form _ => ?_
    have hv : Produces (HeightAtMost (n + 3)) (do
        let v ← compileForm path child follow node form
        let v ← modify path child node form v
        .ok (withMetadata node v)) := by
      refine (compileForm_heightAtMost hc hf form).bind fun v hv => ?_
      refine (modify_heightAtMost hc form hv).bind fun v hv => ?_
      exact .ok (hv.congr (Nat.succ_pos _) rfl rfl)
    cases form with
    | ref reference => exact hf reference
    | anyOf | oneOf | allOf | enum | const | typed | types | any => exact hv
  · exact .error

end Node

/-- The induction is on the levels that are left. A reference takes a level and adds no node. -/
theorem compileNode_heightAtMost (c : Context) (x : Json) :
    Produces (HeightAtMost (2 * c.levelsLeft + 3)) (compileNode c x) := by
  induction hn : c.levelsLeft using Nat.strongRecOn generalizing c x with
  | ind n ih =>
      subst hn
      rw [compileNode_eq]
      refine compileStep_heightAtMost ?_ ?_ x
      · intro segments y _ v hv
        obtain ⟨d, hdesc, hv⟩ := bind_eq_ok hv
        have hlt := Context.levelsLeft_descend hdesc
        exact (ih _ hlt d y rfl v hv).mono (by omega)
      · intro reference v hv
        obtain ⟨⟨d, target⟩, hfollow, hv⟩ := bind_eq_ok hv
        have hlt := Context.levelsLeft_follow hfollow
        exact (ih _ hlt d target rfl v hv).mono (by omega)

def nestedNode : Nat → Members
  | 0 => [("type", .array [.string "array", .string "string"])]
  | n + 1 =>
    [("items", .object (nestedNode n)), ("type", .array [.string "array", .string "string"])]

def textOrListOf (element : Validator) : Validator :=
  .ofShape (.union [.ofShape (.array element []), .ofShape (.string [])])

def nested : Nat → Validator
  | 0 => textOrListOf .any
  | n + 1 => textOrListOf (nested n)

def longestChain : Nat → List Validator
  | 0 => [nested 0, .ofShape (.array .any []), .any]
  | n + 1 => nested (n + 1) :: .ofShape (.array (nested n) []) :: longestChain n

theorem length_longestChain (n : Nat) : (longestChain n).length = 2 * n + 3 := by
  induction n with
  | zero => rfl
  | succ n ih =>
      rw [longestChain, List.length_cons, List.length_cons, ih]
      omega

theorem chain_textOrListOf {element : Validator} {chain : List Validator}
    (h : element.Chain chain) :
    (textOrListOf element).Chain (textOrListOf element :: .ofShape (.array element []) :: chain) :=
  .cons (List.mem_cons_self ..) (.cons (List.mem_singleton_self _) h)

theorem chain_longestChain (n : Nat) : (nested n).Chain (longestChain n) := by
  induction n with
  | zero => exact chain_textOrListOf (.single .any)
  | succ n ih => exact chain_textOrListOf ih

theorem compileStep_nestedNode {path : String} {child : ChildCompiler}
    {follow : String → Result} {n : Nat} {u : Validator}
    (h : child ["items"] (.object (nestedNode n)) = .ok u) :
    compileStep path child follow (.object (nestedNode (n + 1))) = .ok (textOrListOf u) := by
  have harray : compileTyped path child (narrow (nestedNode (n + 1)) .array) .array =
      .ok (.ofShape (.array u [])) := by
    change (child ["items"] (.object (nestedNode n)) >>= fun element => do
      let checks ← arrayChecks (narrow (nestedNode (n + 1)) .array) path
      .ok (Validator.ofShape (.array element checks))) = _
    rw [h]
    rfl
  have hbranches : compileBranches path child (nestedNode (n + 1)) (branchTypes [.array, .string]) =
      .ok [.ofShape (.array u []), .ofShape (.string [])] := by
    change (compileTyped path child (narrow (nestedNode (n + 1)) .array) .array >>= fun v => do
      let vs ← compileBranches path child (nestedNode (n + 1)) [.string]
      .ok (v :: vs)) = _
    rw [harray]
    rfl
  have hform : Form.ofNode (nestedNode (n + 1)) = .ok (.types [.array, .string]) := rfl
  rw [compileStep, compileMembers_eq hform (by simp), compileForm, compileTypes, hbranches]
  rfl

theorem compileNode_nestedNode {n : Nat} {c : Context} (h : n ≤ c.levelsLeft) :
    compileNode c (.object (nestedNode n)) = .ok (nested n) := by
  induction n generalizing c with
  | zero =>
      rw [compileNode_eq]
      rfl
  | succ n ih =>
      obtain ⟨u, hu, rfl⟩ := childOf_of_levels h (fun d hd => ⟨_, ih hd, rfl⟩) ["items"]
      rw [compileNode_eq, compileStep_nestedNode hu, nested]

/-- Every way down in a compiled tree, to a leaf or not, is bounded by the depth that schemas may
have. -/
theorem length_le_of_chain {schema : Json} {options : Options} {definitions : Members}
    {v : Validator} (hv : compile schema options definitions = .ok v) {chain : List Validator}
    (hc : v.Chain chain) : chain.length ≤ 2 * options.maxDepth + 3 :=
  compileNode_heightAtMost _ _ v hv chain hc

theorem length_le_of_chain_nested :
    compile (.object (nestedNode 1)) { maxDepth := 1 } [] = .ok (nested 1) ∧
      (nested 1).Chain (longestChain 1) ∧ (longestChain 1).length ≤ 5 := by
  have hv : compile (.object (nestedNode 1)) { maxDepth := 1 } [] = .ok (nested 1) := by
    with_unfolding_all rfl
  exact ⟨hv, chain_longestChain 1, length_le_of_chain hv (chain_longestChain 1)⟩

/-- At each depth there is a schema whose tree is as high as the bound. -/
theorem exists_longest_chain (n : Nat) : ∃ v chain,
    compile (.object (nestedNode n)) { maxDepth := n } [] = .ok v ∧ v.Chain chain ∧
      chain.length = 2 * n + 3 :=
  ⟨nested n, longestChain n, compileNode_nestedNode (Nat.le_refl n), chain_longestChain n,
    length_longestChain n⟩

end Schema

end SchemaCheck
