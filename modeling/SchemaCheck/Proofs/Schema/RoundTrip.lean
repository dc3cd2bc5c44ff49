import SchemaCheck.Proofs.Schema.Kept
import SchemaCheck.Proofs.Schema.WellFormed

namespace SchemaCheck

open Json (Members)
open Schema (TypeName)

namespace Schema

variable {v : Validator}

/-- With enough levels left the export is compiled to a validator alike. -/
def RestoresFrom (n : Nat) (v : Validator) : Prop :=
  ∀ c : Context, n ≤ c.levelsLeft → ∃ u, compileNode c v.toSchema = .ok u ∧ Alike u v

def Restorable (v : Validator) : Prop := ∃ n, RestoresFrom n v

theorem RestoresFrom.restores {n : Nat} (h : RestoresFrom n v) {c : Context}
    (hc : n < c.levelsLeft) : Restores (childOf c) v :=
  childOf_of_levels hc h

theorem restoresFrom_all {vs : List Validator} (h : ∀ v ∈ vs, Restorable v) :
    ∃ n, ∀ v ∈ vs, RestoresFrom n v := by
  induction vs with
  | nil => exact ⟨0, nofun⟩
  | cons v rest ih =>
      rw [List.forall_mem_cons] at h
      obtain ⟨m, hm⟩ := h.1
      obtain ⟨n, hn⟩ := ih h.2
      refine ⟨max m n, List.forall_mem_cons.2 ⟨?_, ?_⟩⟩
      · intro c hc
        exact hm c (Nat.le_trans (Nat.le_max_left m n) hc)
      · intro u hu c hc
        exact hn u hu c (Nat.le_trans (Nat.le_max_right m n) hc)

theorem restoresFrom_any : RestoresFrom 0 .any := by
  intro c _
  refine ⟨.any, ?_, fun x => Iff.rfl, rfl⟩
  rw [compileNode_eq]
  rfl

theorem restoresFrom_null : RestoresFrom 0 (.ofShape .null) := by
  intro c _
  refine ⟨.ofShape .null, ?_, fun x => Iff.rfl, rfl⟩
  rw [compileNode_eq]
  rfl

theorem compileNode_export (c : Context) (v : Validator) : compileNode c v.toSchema =
    compileMembers c.path (childOf c) (targetOf c) v.toMembers := by
  rw [compileNode_eq]
  rfl

theorem mergedElement?_everywhere {P : Validator → Prop}
    (h : ∀ w ∈ v.children, w.Everywhere P) {element : Validator}
    (he : v.shape.mergedElement? = some element) : P element := by
  cases hs : v.shape with
  | union vs =>
      rw [hs] at he
      obtain ⟨-, hf⟩ := bare_of_mergedElement? he
      obtain ⟨w, hw, hwe⟩ := List.exists_of_findSome?_eq_some hf
      obtain ⟨checks, hws⟩ := element?_eq_some.1 hwe
      have hchild : w ∈ v.children := List.mem_append_left _ (by rw [hs]; exact hw)
      refine ((h w hchild).child (List.mem_append_left _ ?_)).here
      rw [hws]
      exact List.mem_singleton_self element
  | any | never | boolean | null | literal | among | string | number | array | tuple | object
  | exclusiveUnion | intersection =>
      rw [hs] at he
      cases he

theorem exists_restoresParts (h : ∀ w ∈ v.children, w.Everywhere Restorable) :
    ∃ n, ∀ c : Context, n < c.levelsLeft → RestoresParts (childOf c) v := by
  obtain ⟨n, hn⟩ := restoresFrom_all fun w hw => (h w hw).here
  obtain ⟨m, hm⟩ : ∃ m, ∀ element, v.shape.mergedElement? = some element →
      RestoresFrom m element := by
    cases he : v.shape.mergedElement? with
    | none => exact ⟨0, nofun⟩
    | some element =>
        obtain ⟨m, hm⟩ := mergedElement?_everywhere h he
        exact ⟨m, by rintro _ ⟨⟩; exact hm⟩
  refine ⟨max n m, fun c hc => ⟨?_, ?_, ?_, ?_⟩⟩
  · intro w hw
    exact (hn w hw).restores (by omega)
  · intro element he
    exact (hm element he).restores (by omega)
  · exact restoresFrom_any.restores (by omega)
  · exact restoresFrom_null.restores (by omega)

theorem exists_bare (hw : v.WellFormedNode) (hu : v.AcceptsUnknown)
    (h : ∀ w ∈ v.children, w.Everywhere Restorable) :
    ∃ n, ∀ c : Context, n < c.levelsLeft → ∃ b,
      compileNode c (.object v.shape.toMembers) = .ok b ∧
        ∀ x, b.Accepts x ↔ v.shape.Reread x := by
  have hb : ∀ w ∈ (Validator.ofShape v.shape).children, w.Everywhere Restorable := by
    intro w hw
    refine h w (List.mem_append_left _ ?_)
    simpa [Validator.children, Validator.ofShape] using hw
  obtain ⟨n, hn⟩ := exists_restoresParts hb
  refine ⟨n, fun c hc => ?_⟩
  have ho : OutcomeNotNullable (.ofShape v.shape) (compileMembers c.path (childOf c) (targetOf c)
      (Validator.ofShape v.shape).toMembers) :=
    outcome_not_nullable (Validator.wellFormedNode_ofShape hw.shape) hu (hn c hc) rfl
  obtain ⟨b, hb⟩ := ho.succeeds.2 (by
    rintro x ⟨_, hv, -⟩
    cases hv)
  refine ⟨b, (compileNode_export c (.ofShape v.shape)).trans hb, fun x => ?_⟩
  rw [ho.accepts b hb]
  constructor
  · rintro (⟨h | h, -⟩ | ⟨-, rfl, h⟩)
    · rw [Validator.isOverwritten] at h
      split at h <;> cases h
    · exact h
    · exact Shape.reread_null.2 h
  · exact fun h => .inl ⟨.inr h, Validator.admits_of_none rfl rfl x⟩

/-- From some level on, the export is compiled to what keeps the default, and the meaning just if
that is to be kept. -/
theorem exists_outcome (hw : v.WellFormedNode) (hu : v.AcceptsUnknown)
    (h : ∀ w ∈ v.children, w.Everywhere Restorable) :
    ∃ n, ∀ c : Context, n ≤ c.levelsLeft → ∃ ok P,
      Outcome (compileNode c v.toSchema) ok P v.defaultValue ∧
        ((ok ∧ ∀ x, P x ↔ v.Accepts x) ↔ v.Kept) := by
  obtain ⟨n, hn⟩ := exists_restoresParts h
  obtain ⟨m, hm⟩ := exists_bare hw hu h
  refine ⟨max n m + 2, fun c hc => ?_⟩
  rw [compileNode_export]
  refine outcome_kept hw hu (hn c (by omega)) fun _ => ?_
  exact childOf_of_levels (n := m + 1) (by omega) fun d hd => hm d (by omega)

theorem restorable_of_kept (hw : v.WellFormedNode) (hu : v.AcceptsUnknown)
    (h : ∀ w ∈ v.children, w.Everywhere Restorable) (hk : v.Kept) : Restorable v := by
  obtain ⟨n, hn⟩ := exists_outcome hw hu h
  refine ⟨n, fun c hc => ?_⟩
  obtain ⟨ok, P, ho, hiff⟩ := hn c hc
  obtain ⟨u, hu, ha⟩ := ho.keeps_iff.2 (hiff.2 hk)
  exact ⟨u, hu, ha, ho.default u hu⟩

/-- Compiled without definitions and to any sufficient depth, the export accepts what the validator
accepts. -/
def Recompiles (v : Validator) : Prop :=
  ∃ n, ∀ limit, n ≤ limit → ∃ u, compile v.toSchema { maxDepth := limit } [] = .ok u ∧
    ∀ x, u.isValid x = v.isValid x

theorem isValid_congr {u v : Validator} :
    (∀ x, u.isValid x = v.isValid x) ↔ ∀ x, u.Accepts x ↔ v.Accepts x :=
  forall_congr' fun x => by rw [Bool.eq_iff_iff, Validator.isValid_iff, Validator.isValid_iff]

theorem Restorable.recompiles (h : Restorable v) : Recompiles v := by
  obtain ⟨n, hn⟩ := h
  refine ⟨n, fun limit hl => ?_⟩
  obtain ⟨u, hu, ha⟩ := hn (.start v.toSchema [] { maxDepth := limit }) hl
  exact ⟨u, hu, isValid_congr.2 ha.accepts⟩

theorem kept_of_recompiles (hw : v.WellFormedNode) (hu : v.AcceptsUnknown)
    (h : ∀ w ∈ v.children, w.Everywhere Restorable) (hr : Recompiles v) : v.Kept := by
  obtain ⟨n, hn⟩ := exists_outcome hw hu h
  obtain ⟨m, hm⟩ := hr
  obtain ⟨ok, P, ho, hiff⟩ := hn (.start v.toSchema [] { maxDepth := max n m })
    (Nat.le_max_left n m)
  obtain ⟨u, hu, ha⟩ := hm (max n m) (Nat.le_max_right n m)
  exact hiff.1 (ho.keeps_iff.1 ⟨u, hu, isValid_congr.1 ha⟩)

theorem restorable_everywhere (hw : v.WellFormed)
    (hu : v.Everywhere Validator.AcceptsUnknown) (hk : v.Everywhere Validator.Kept) :
    v.Everywhere Restorable := by
  induction v using Validator.induction with
  | step v ih =>
      have hc : ∀ w ∈ v.children, w.Everywhere Restorable := fun w hm =>
        ih w hm (hw.child hm) (hu.child hm) (hk.child hm)
      exact Validator.everywhere_iff.2 ⟨restorable_of_kept hw.here hu.here hc hk.here, hc⟩

theorem kept_everywhere (hw : v.WellFormed) (hu : v.Everywhere Validator.AcceptsUnknown)
    (hr : v.Everywhere Recompiles) : v.Everywhere Validator.Kept := by
  induction v using Validator.induction with
  | step v ih =>
      have hk : ∀ w ∈ v.children, w.Everywhere Validator.Kept := fun w hm =>
        ih w hm (hw.child hm) (hu.child hm) (hr.child hm)
      have hc : ∀ w ∈ v.children, w.Everywhere Restorable := fun w hm =>
        restorable_everywhere (hw.child hm) (hu.child hm) (hk w hm)
      exact Validator.everywhere_iff.2 ⟨kept_of_recompiles hw.here hu.here hc hr.here, hk⟩

/-- A validator whose parts recompile does so just if its own meaning is kept, and all of them
recompile just if all meanings are kept. -/
theorem recompiles_iff_kept {schema : Json} (hs : schema.hasDistinctKeys = true)
    {definitions : Members} (hd : ∀ m ∈ definitions, m.2.hasDistinctKeys = true)
    {options : Options} (hv : compile schema options definitions = .ok v)
    (hu : v.Everywhere Validator.AcceptsUnknown) :
    ((∀ w ∈ v.children, w.Everywhere Recompiles) → (Recompiles v ↔ v.Kept)) ∧
      (v.Everywhere Recompiles ↔ v.Everywhere Validator.Kept) := by
  have hw : v.WellFormed := wellFormed_of_compile hs hd hv
  constructor
  · intro hr
    have hc : ∀ w ∈ v.children, w.Everywhere Restorable := by
      intro w hm
      have hk : w.Everywhere Validator.Kept :=
        kept_everywhere (hw.child hm) (hu.child hm) (hr w hm)
      exact restorable_everywhere (hw.child hm) (hu.child hm) hk
    constructor
    · exact kept_of_recompiles hw.here hu.here hc
    · intro hk
      exact (restorable_of_kept hw.here hu.here hc hk).recompiles
  · constructor
    · exact kept_everywhere hw hu
    · intro hk w hm
      exact (restorable_everywhere hw hu hk w hm).recompiles

def wordListSchema : Json :=
  .object [("items", .object [("type", .string "string")]), ("nullable", .bool true),
    ("type", .string "array")]

def wordList : Validator :=
  { shape := .array (.ofShape (.string [])) [], nullable := true }

theorem wordList_everywhere {P : Validator → Prop} (hlist : P wordList)
    (hword : P (.ofShape (.string []))) : wordList.Everywhere P := by
  refine Validator.everywhere_iff.2 ⟨hlist, fun w hw => ?_⟩
  obtain rfl := List.mem_singleton.1 hw
  exact Validator.everywhere_of_leaf rfl hword

theorem recompiles_wordList : compile wordListSchema {} [] = .ok wordList ∧
    wordList.Everywhere Validator.Kept ∧ Recompiles wordList ∧ wordList.isValid .null = true ∧
      wordList.isValid (.array [.string "a"]) = true ∧
        wordList.isValid (.array [.null]) = false := by
  have hv : compile wordListSchema {} [] = .ok wordList := by
    with_unfolding_all rfl
  have hk : wordList.Everywhere Validator.Kept :=
    wordList_everywhere (Validator.kept_of_none rfl rfl rfl) (Validator.kept_of_none rfl rfl rfl)
  have hu : wordList.Everywhere Validator.AcceptsUnknown := wordList_everywhere trivial trivial
  have hr := recompiles_iff_kept (by decide) (List.forall_mem_nil _) hv hu
  refine ⟨hv, hk, hr.2.2 hk _ (.self _), ?_, ?_, ?_⟩ <;> rfl

def oneOrTwoSchema : Json :=
  .object [("enum", .array [.int 1, .int 2]), ("not", .object [("type", .string "null")]),
    ("nullable", .bool true)]

def oneOrTwo : Validator :=
  { shape := .among [.int 1, .int 2], nullable := true, excluded := some (.ofShape .null) }

theorem oneOrTwo_everywhere {P : Validator → Prop} (h : P oneOrTwo) (hnull : P (.ofShape .null)) :
    oneOrTwo.Everywhere P := by
  refine Validator.everywhere_iff.2 ⟨h, fun w hw => ?_⟩
  obtain rfl := List.mem_singleton.1 hw
  exact Validator.everywhere_of_leaf rfl hnull

/-- Null is accepted whatever is excluded, but by the export it is excluded. -/
theorem not_recompiles_oneOrTwo : compile oneOrTwoSchema {} [] = .ok oneOrTwo ∧
    oneOrTwo.Everywhere Validator.AcceptsUnknown ∧ ¬ Recompiles oneOrTwo := by
  have hv : compile oneOrTwoSchema {} [] = .ok oneOrTwo := by
    with_unfolding_all rfl
  have hw := wellFormed_of_compile (by decide) (List.forall_mem_nil _) hv
  refine ⟨hv, oneOrTwo_everywhere trivial trivial, fun hr => ?_⟩
  have hc : ∀ w ∈ oneOrTwo.children, w.Everywhere Restorable := by
    intro w hw
    obtain rfl := List.mem_singleton.1 hw
    exact Validator.everywhere_of_leaf rfl ⟨0, restoresFrom_null⟩
  have hk : oneOrTwo.Kept := kept_of_recompiles hw.here trivial hc hr
  have hn := (hk.null rfl (.inl rfl)).2 _ rfl
  exact hn (Validator.accepts_ofShape.2 (Shape.accepts_null.2 rfl))

end Schema

end SchemaCheck
