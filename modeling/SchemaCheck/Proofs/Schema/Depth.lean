import Mathlib.Data.List.Dedup
import Mathlib.Order.Nat
import SchemaCheck.Proofs.Schema.Congruence
import SchemaCheck.Proofs.Schema.Context
import SchemaCheck.Schema.Strict

namespace SchemaCheck.Schema

open Json (Members)

def TooDeep {α : Type} (limit : Nat) (r : Except Error α) : Prop :=
  ∃ path, r = .error (.tooDeep path limit)

def NeverTooDeep {α : Type} (r : Except Error α) : Prop :=
  ∀ path limit, r ≠ .error (.tooDeep path limit)

namespace Context

def withLimit (c : Context) (limit : Nat) : Context := { c with limit }

theorem descend_withLimit {c : Context} {limit : Nat} (h : c.limit ≤ limit)
    (segments : List String) :
    TooDeep c.limit (c.descend segments) ∨
      ∃ d, c.descend segments = .ok d ∧ d.limit = c.limit ∧
        (c.withLimit limit).descend segments = .ok (d.withLimit limit) := by
  rw [descend, descend]
  by_cases hd : c.depth < c.limit
  · right
    have hl : (c.withLimit limit).depth < (c.withLimit limit).limit := Nat.lt_of_lt_of_le hd h
    exact ⟨_, if_pos hd, rfl, if_pos hl⟩
  · left
    exact ⟨_, if_neg hd⟩

theorem enter_withLimit {c : Context} {limit : Nat} (h : c.limit ≤ limit) (reference : String) :
    TooDeep c.limit (c.enter reference) ∨
      (∃ e, c.enter reference = .error e ∧ (c.withLimit limit).enter reference = .error e) ∨
      ∃ d, c.enter reference = .ok d ∧ d.limit = c.limit ∧
        (c.withLimit limit).enter reference = .ok (d.withLimit limit) := by
  rw [enter, enter]
  by_cases he : c.entered.contains reference = true
  · right
    left
    exact ⟨_, if_pos he, if_pos he⟩
  · by_cases hd : c.depth < c.limit
    · right
      right
      have hl : (c.withLimit limit).depth < (c.withLimit limit).limit := Nat.lt_of_lt_of_le hd h
      exact ⟨_, (if_neg he).trans (if_pos hd), rfl, (if_neg he).trans (if_pos hl)⟩
    · left
      exact ⟨_, (if_neg he).trans (if_neg hd)⟩

theorem follow_withLimit {c : Context} {limit : Nat} (h : c.limit ≤ limit) (reference : String) :
    TooDeep c.limit (c.follow reference) ∨
      (∃ e, c.follow reference = .error e ∧ (c.withLimit limit).follow reference = .error e) ∨
      ∃ d target, c.follow reference = .ok (d, target) ∧ d.limit = c.limit ∧
        (c.withLimit limit).follow reference = .ok (d.withLimit limit, target) := by
  have hr : (c.withLimit limit).resolve? reference = c.resolve? reference := rfl
  rw [follow, follow]
  cases foreign? reference with
  | some feature => exact .inr (.inl ⟨_, rfl, rfl⟩)
  | none =>
      simp only [hr]
      rcases enter_withLimit h reference with ⟨path, he⟩ | ⟨e, he, he'⟩ | ⟨d, he, hd, he'⟩
      · left
        exact ⟨path, by rw [he]; rfl⟩
      · right
        left
        exact ⟨e, by rw [he]; rfl, by rw [he']; rfl⟩
      · right
        rw [he, he']
        cases c.resolve? reference with
        | none => exact .inl ⟨_, rfl, rfl⟩
        | some target => exact .inr ⟨d, target, rfl, hd, rfl⟩

end Context

theorem congruence_tooDeep (path : String) (limit : Nat) :
    Congruence path path fun _ r s => TooDeep limit r ∨ r = s :=
  congruence_unless path fun _ ⟨p, hp⟩ => ⟨p, by rw [hp]; rfl⟩

/-- A compilation that does not end at the limit ends the same way under every larger one. -/
theorem compileNode_withLimit {c : Context} {limit : Nat} (h : c.limit ≤ limit) (x : Json) :
    TooDeep c.limit (compileNode c x) ∨
      compileNode c x = compileNode (c.withLimit limit) x := by
  induction hn : c.levelsLeft using Nat.strongRecOn generalizing c x with
  | ind n ih =>
      subst hn
      rw [compileNode_eq c, compileNode_eq (c.withLimit limit)]
      refine compileStep_related (congruence_tooDeep c.path c.limit) (childOf c)
        (childOf (c.withLimit limit)) (targetOf c) (targetOf (c.withLimit limit)) (fun _ => True)
        (fun _ _ _ _ => trivial) ?_ ?_ fun _ _ => trivial
      · intro segments y _
        unfold childOf
        rcases Context.descend_withLimit h segments with ⟨path, hd⟩ | ⟨d, hd, hl, hd'⟩
        · left
          exact ⟨path, by rw [hd]; rfl⟩
        · rw [hd, hd']
          have hy := ih d.levelsLeft (Context.levelsLeft_descend hd) (hl ▸ h) y rfl
          rw [hl] at hy
          exact hy
      · intro node reference _ _
        unfold targetOf
        rcases Context.follow_withLimit h reference with
          ⟨path, hf⟩ | ⟨e, hf, hf'⟩ | ⟨d, target, hf, hl, hf'⟩
        · left
          exact ⟨path, by rw [hf]; rfl⟩
        · right
          rw [hf, hf']
        · rw [hf, hf']
          have hy := ih d.levelsLeft (Context.levelsLeft_follow hf) (hl ▸ h) target rfl
          rw [hl] at hy
          exact hy

/-- What the contexts of a compilation keep: references lead to values within bounds, and those
entered are among the known ones, each once. -/
structure Context.Within (c : Context) (rs : List String) (n : Nat) : Prop where
  root : c.root.Bounded rs n
  definitions : ∀ m ∈ c.definitions, m.2.Bounded rs n
  nodup : c.entered.Nodup
  subset : c.entered ⊆ rs

namespace Context.Within

variable {c d : Context} {rs : List String} {n : Nat}

theorem target (hc : c.Within rs n) {reference : String} {x : Json}
    (h : c.resolve? reference = some x) : x.Bounded rs n :=
  of_resolve? Json.Bounded.part hc.root hc.definitions h

theorem descend (hc : c.Within rs n) {segments : List String} (h : c.descend segments = .ok d) :
    d.Within rs n ∧ d.entered = c.entered ∧ d.levelsLeft + 1 = c.levelsLeft := by
  obtain ⟨hl, rfl⟩ := descend_eq_ok h
  refine ⟨⟨hc.root, hc.definitions, hc.nodup, hc.subset⟩, rfl, ?_⟩
  simp only [levelsLeft]
  omega

theorem enter (hc : c.Within rs n) {reference : String} (hr : reference ∈ rs)
    (h : c.enter reference = .ok d) :
    d.Within rs n ∧ d.entered.length = c.entered.length + 1 ∧
      d.levelsLeft + 1 = c.levelsLeft := by
  obtain ⟨hn, hl, rfl⟩ := enter_eq_ok h
  refine ⟨⟨hc.root, hc.definitions, ?_, ?_⟩, by simp, ?_⟩
  · rw [List.nodup_append]
    refine ⟨hc.nodup, by simp, ?_⟩
    intro a ha b hb
    rintro rfl
    exact hn (List.mem_singleton.1 hb ▸ ha)
  · exact List.append_subset.2 ⟨hc.subset, by simpa using hr⟩
  · simp only [levelsLeft]
    omega

theorem length_le (hc : c.Within rs n) : c.entered.length ≤ rs.length :=
  hc.nodup.length_le_of_subset hc.subset

end Context.Within

theorem neverTooDeep_iff {α : Type} {r : Except Error α} :
    NeverTooDeep r ↔ ErrorsIn (fun e => ∀ path limit, e ≠ .tooDeep path limit) r := by
  constructor
  · rintro h e he path limit rfl
    exact h path limit he
  · intro h path limit he
    exact h _ he path limit rfl

theorem NeverTooDeep.bind {α β : Type} {r : Except Error α} {k : α → Except Error β}
    (h : NeverTooDeep r) (hk : ∀ a, r = .ok a → NeverTooDeep (k a)) : NeverTooDeep (r >>= k) :=
  neverTooDeep_iff.2 ((neverTooDeep_iff.1 h).bind fun a ha => neverTooDeep_iff.1 (hk a ha))

theorem congruence_neverTooDeep (path : String) :
    Congruence path path fun _ r _ => NeverTooDeep r := by
  simp only [neverTooDeep_iff]
  exact congruence_errorsIn (fun _ => nofun) fun _ => nofun

/-- The levels that the entered references leave to a value of some height. A reference takes as
many as the highest document and one more. -/
def levelsNeeded (rs : List String) (n : Nat) (c : Context) (x : Json) : Nat :=
  (rs.length - c.entered.length) * (n + 1) + x.height

theorem levelsNeeded_enter {rs : List String} {n : Nat} {c d : Context} {x target : Json}
    (hlen : d.entered.length = c.entered.length + 1) (hle : d.entered.length ≤ rs.length)
    (ht : target.height ≤ n) (hx : 0 < x.height) :
    levelsNeeded rs n d target < levelsNeeded rs n c x := by
  obtain ⟨j, hj⟩ : ∃ j, rs.length - c.entered.length = j + 1 :=
    ⟨rs.length - c.entered.length - 1, by omega⟩
  have hj' : rs.length - d.entered.length = j := by omega
  rw [levelsNeeded, levelsNeeded, hj, hj', Nat.succ_mul]
  omega

theorem descend_neverTooDeep {c : Context} (h : 0 < c.levelsLeft) (segments : List String) :
    NeverTooDeep (c.descend segments) := by
  intro p n he
  obtain ⟨hl, -⟩ := Context.descend_eq_error he
  rw [Context.levelsLeft] at h
  omega

theorem follow_neverTooDeep {c : Context} (h : 0 < c.levelsLeft) (reference : String) :
    NeverTooDeep (c.follow reference) := by
  intro p n hf
  rcases Context.follow_eq_error hf with ⟨feature, -, he⟩ | hf | ⟨-, he⟩
  · cases he
  · rcases Context.enter_eq_error hf with ⟨-, he⟩ | ⟨hl, -⟩
    · cases he
    · rw [Context.levelsLeft] at h
      omega
  · cases he

/-- The measure is the levels that are left: a child is lower than its node, and a reference is
paid for by the levels of one document. -/
theorem compileNode_neverTooDeep {c : Context} {rs : List String} {n : Nat} (hc : c.Within rs n)
    {x : Json} (hx : x.references ⊆ rs) (hl : levelsNeeded rs n c x ≤ c.levelsLeft) :
    NeverTooDeep (compileNode c x) := by
  induction hn : c.levelsLeft using Nat.strongRecOn generalizing c x with
  | ind k ih =>
      subst hn
      rw [compileNode_eq]
      refine compileStep_related (congruence_neverTooDeep c.path) (childOf c) (childOf c)
        (targetOf c) (targetOf c) (fun y => y.height < x.height ∧ y.references ⊆ rs) ?_ ?_ ?_ ?_
      · intro y z hyz hz
        exact ⟨Nat.lt_trans hyz.height_lt hz.1, List.Subset.trans hyz.references_subset hz.2⟩
      · intro segments y hy
        rw [levelsNeeded] at hl
        refine (descend_neverTooDeep (by omega) segments).bind fun d hd => ?_
        obtain ⟨hw, he, hs⟩ := hc.descend hd
        refine ih d.levelsLeft (by omega) hw hy.2 ?_ rfl
        rw [levelsNeeded, he]
        omega
      · intro node reference hv hr
        subst hv
        have hh : 0 < (Json.object node).height :=
          Nat.lt_of_le_of_lt (Nat.zero_le _) (Json.Part.member (Json.mem_of_lookup hr)).height_lt
        have hpos : 0 < c.levelsLeft := by
          rw [levelsNeeded] at hl
          omega
        refine (follow_neverTooDeep hpos reference).bind fun ⟨d, target⟩ hf => ?_
        obtain ⟨he, hr'⟩ := Context.enter_of_follow hf
        obtain ⟨hw, hlen, hs⟩ := hc.enter (hx (Json.mem_references hr)) he
        have ht := hc.target hr'
        have hless := levelsNeeded_enter hlen hw.length_le ht.height_le hh
        exact ih d.levelsLeft (by omega) hw ht.references_subset (by omega) rfl
      · intro y hy
        exact ⟨hy.height_lt, List.Subset.trans hy.references_subset hx⟩

theorem exists_mem_of_isObjectSchema {node : Members} (h : isObjectSchema node = true) :
    ∃ m, m ∈ node := by
  rw [isObjectSchema] at h
  split at h
  next x hx => exact ⟨_, Json.mem_of_lookup hx⟩
  next =>
    obtain ⟨x, hx⟩ := Option.isSome_iff_exists.1 h
    exact ⟨_, Json.mem_of_lookup hx⟩

theorem bounded_dropOptional {rs : List String} {n : Nat} {node : Members}
    (h : (Json.object node).Bounded rs (n + 1)) :
    (Json.object (dropOptional node)).Bounded rs (n + 1) := by
  rw [dropOptional]
  split
  next properties hp =>
    obtain ⟨hh, -, hr⟩ := Json.bounded_object.1 h _ (Json.mem_of_lookup hp)
    have hp : (Json.object properties).Bounded rs n := ⟨Nat.le_of_succ_le_succ hh, hr⟩
    split
    · exact h
    · exact h.put (by decide) (hp.filter _)
  next => exact h

theorem bounded_prune {rs : List String} {n : Nat} {schema : Json} (h : schema.Bounded rs n) :
    (prune schema).Bounded rs n := by
  cases schema with
  | null | bool b | number m | string s | array items => exact h
  | object node =>
      rw [prune]
      split
      next ho =>
        obtain ⟨m, hm⟩ := exists_mem_of_isObjectSchema (Bool.and_eq_true_iff.1 ho).1
        obtain ⟨k, rfl⟩ : ∃ k, n = k + 1 :=
          ⟨n - 1, by have := (Json.bounded_object.1 h _ hm).1; omega⟩
        have hd := bounded_dropOptional h
        rw [closeKeys]
        split
        · exact hd
        · exact hd.put (by decide) ⟨Nat.zero_le _, List.nil_subset _⟩
      next => exact h

def documents (schema : Json) (definitions : Members) : List Json :=
  schema :: definitions.map (·.2)

def nesting (documents : List Json) : Nat := (documents.map Json.height).foldr max 0

def distinctReferences (documents : List Json) : List String :=
  (documents.flatMap Json.references).dedup

theorem bounded_of_mem {ds : List Json} {x : Json} (h : x ∈ ds) :
    x.Bounded (distinctReferences ds) (nesting ds) := by
  constructor
  · rw [nesting]
    induction ds with
    | nil => cases h
    | cons d rest ih =>
        rw [List.map_cons, List.foldr_cons]
        rcases List.mem_cons.1 h with rfl | h
        · exact Nat.le_max_left _ _
        · exact Nat.le_trans (ih h) (Nat.le_max_right _ _)
  · intro reference hr
    exact List.mem_dedup.2 (List.mem_flatMap.2 ⟨x, h, hr⟩)

theorem compile_neverTooDeep (schema : Json) (definitions : Members) (strict : Bool) {limit : Nat}
    (h : ((distinctReferences (documents schema definitions)).length + 1) *
      (nesting (documents schema definitions) + 1) ≤ limit) :
    NeverTooDeep (compile schema { strict, maxDepth := limit } definitions) := by
  have hs : schema ∈ documents schema definitions := List.mem_cons_self ..
  have hw : (Context.start schema definitions { strict, maxDepth := limit }).Within
      (distinctReferences (documents schema definitions))
      (nesting (documents schema definitions)) :=
    ⟨bounded_of_mem hs, fun m hm => bounded_of_mem
      (List.mem_cons_of_mem _ (List.mem_map_of_mem hm)), List.nodup_nil, List.nil_subset _⟩
  have hl : ∀ x : Json, x.Bounded (distinctReferences (documents schema definitions))
      (nesting (documents schema definitions)) →
      NeverTooDeep (compileNode (.start schema definitions { strict, maxDepth := limit }) x) := by
    intro x hx
    refine compileNode_neverTooDeep hw hx.references_subset ?_
    have := hx.height_le
    rw [Nat.succ_mul] at h
    simp only [levelsNeeded, Context.levelsLeft, Context.start, List.length_nil, Nat.sub_zero]
    omega
  rw [compile]
  cases strict with
  | false => exact hl schema (bounded_of_mem hs)
  | true => exact hl (prune schema) (bounded_prune (bounded_of_mem hs))

theorem compile_withLimit (schema : Json) (definitions : Members) (strict : Bool) {limit more : Nat}
    (h : limit ≤ more) :
    TooDeep limit (compile schema { strict, maxDepth := limit } definitions) ∨
      compile schema { strict, maxDepth := limit } definitions =
        compile schema { strict, maxDepth := more } definitions :=
  compileNode_withLimit (c := .start schema definitions { strict, maxDepth := limit }) h _

/-- From some limit on the result no longer depends on the limit, and below it the limit is what a
compilation ends with. Each reference costs at most the height of one document and one more. -/
theorem compile_depth_threshold (schema : Json) (definitions : Members) (strict : Bool) :
    ∃ threshold ≤ ((distinctReferences (documents schema definitions)).length + 1) *
        (nesting (documents schema definitions) + 1),
      ∃ r : Result, NeverTooDeep r ∧ ∀ limit,
        (limit < threshold →
          TooDeep limit (compile schema { strict, maxDepth := limit } definitions)) ∧
        (threshold ≤ limit → compile schema { strict, maxDepth := limit } definitions = r) := by
  classical
  have hbound := compile_neverTooDeep schema definitions strict (Nat.le_refl _)
  have he : ∃ limit, NeverTooDeep (compile schema { strict, maxDepth := limit } definitions) :=
    ⟨_, hbound⟩
  refine ⟨Nat.find he, Nat.find_min' he hbound, _, Nat.find_spec he, fun limit => ?_⟩
  constructor
  · intro hl
    rcases compile_withLimit schema definitions strict (Nat.le_of_lt hl) with h | h
    · exact h
    · exact absurd (h ▸ Nat.find_spec he) (Nat.find_min he hl)
  · intro hl
    rcases compile_withLimit schema definitions strict hl with ⟨path, h⟩ | h
    · exact absurd h (Nat.find_spec he path _)
    · exact h.symm

end SchemaCheck.Schema
