import SchemaCheck.Proofs.Schema.RecompileUntyped

namespace SchemaCheck

open Json (Members)
open Schema (TypeName)

/-- What the export must not change about the validator itself. An exclusion or a list of values
takes the keyword of the shape, null is judged by the modifiers, and arrays that are merged are
judged by the first. -/
structure Validator.Kept (v : Validator) : Prop where
  null : v.nullable = true → v.shape.typeName? = none ∨ v.shape = .null → v.Admits .null
  overwritten : v.nullable = false → v.isOverwritten = true → ∀ x, v.Admits x → v.shape.Accepts x
  merged : ∀ items, v.Listed (.array items) ∨ v.Admits (.array items) →
    v.shape.Accepts (.array items) → v.shape.Reread (.array items)
  mergedNull : v.nullable = false → v.shape.mergedElement?.isSome = true →
    v.shape.Accepts .null → v.Admits .null

theorem Validator.kept_of_none {v : Validator} (ha : v.allowed = none) (hx : v.excluded = none)
    (hm : v.shape.mergedElement? = none) : v.Kept where
  null := fun _ _ => admits_of_none ha hx .null
  overwritten := by
    intro _ ho
    rw [isOverwritten] at ho
    split at ho <;> simp [ha, hx] at ho
  merged := fun _ _ h => (Shape.reread_iff hm).2 h
  mergedNull := by simp [hm]

namespace Schema

variable {path : String} {child : ChildCompiler} {follow : String → Result} {v : Validator}

def Keeps (v : Validator) (r : Result) : Prop := ∃ u, r = .ok u ∧ ∀ x, u.Accepts x ↔ v.Accepts x

theorem Outcome.keeps_iff {r : Result} {ok : Prop} {P : Json → Prop} {d : Option Json}
    (h : Outcome r ok P d) : Keeps v r ↔ ok ∧ ∀ x, P x ↔ v.Accepts x := by
  constructor
  · rintro ⟨u, hu, ha⟩
    exact ⟨h.succeeds.1 ⟨u, hu⟩, fun x => (h.accepts u hu x).symm.trans (ha x)⟩
  · rintro ⟨hok, ha⟩
    obtain ⟨u, hu⟩ := h.succeeds.2 hok
    exact ⟨u, hu, fun x => (h.accepts u hu x).trans (ha x)⟩

theorem reread_of_not_array {s : Shape} {x : Json} (hx : ∀ items, x ≠ .array items) :
    s.Reread x ↔ s.Accepts x := by
  constructor
  · exact And.left
  · intro h
    exact ⟨h, fun _ _ items he => absurd he (hx items)⟩

theorem listed_accepts (hw : v.WellFormedNode) {x : Json} (h : v.Listed x) :
    (v.nullable = true ∧ x = .null) ∨ v.shape.Accepts x := by
  obtain ⟨values, hv, hx⟩ := h
  exact hw.allowed values hv x hx

theorem reread_of_kept (hk : v.Kept) {x : Json} (h : v.Listed x ∨ v.Admits x)
    (ha : v.shape.Accepts x) : v.shape.Reread x := by
  by_cases hx : ∃ items, x = .array items
  · obtain ⟨items, rfl⟩ := hx
    exact hk.merged items h ha
  · exact (reread_of_not_array fun items he => hx ⟨items, he⟩).2 ha

theorem mergedElement?_of_isOverwritten (h : v.isOverwritten = true) :
    v.shape.mergedElement? = none := by
  rw [Validator.isOverwritten] at h
  split at h
  next hs =>
    rw [hs]
    rfl
  next hs =>
    rw [hs]
    rfl
  next hs =>
    rw [hs]
    rfl
  next => cases h

theorem kept_iff_not_nullable (hw : v.WellFormedNode) (hn : v.nullable = false) :
    ((∀ x, v.Listed x → v.shape.Reread x) ∧ ∀ x, AcceptsAgain v x ↔ v.Accepts x) ↔ v.Kept := by
  have hacc : ∀ x, v.Accepts x ↔ v.shape.Accepts x ∧ v.Admits x := by
    intro x
    rw [Validator.accepts_iff, hn]
    simp [Validator.Admits, Validator.Passes]
  constructor
  · rintro ⟨hok, hP⟩
    refine ⟨by simp [hn], ?_, ?_, ?_⟩
    · intro _ ho x ha
      have hv : v.Accepts x := (hP x).1 (.inl ⟨.inl ho, ha⟩)
      exact ((hacc x).1 hv).1
    · rintro items (h | h) ha
      · exact hok _ h
      · rcases (hP _).2 ((hacc _).2 ⟨ha, h⟩) with ⟨ho | hr, -⟩ | ⟨-, hx, -⟩
        · exact (Shape.reread_iff (mergedElement?_of_isOverwritten ho)).2 ha
        · exact hr
        · cases hx
    · intro _ hm ha
      have hv : v.Accepts .null := (hP .null).1 (.inr ⟨hm, rfl, ha⟩)
      exact ((hacc .null).1 hv).2
  · intro hk
    constructor
    · intro x hl
      have hs : v.shape.Accepts x := (listed_accepts hw hl).resolve_left (by simp [hn])
      exact reread_of_kept hk (.inl hl) hs
    · intro x
      rw [hacc]
      constructor
      · rintro (⟨ho | hr, ha⟩ | ⟨hm, rfl, ha⟩)
        · exact ⟨hk.overwritten hn ho x ha, ha⟩
        · exact ⟨hr.1, ha⟩
        · exact ⟨ha, hk.mergedNull hn hm ha⟩
      · rintro ⟨hs, ha⟩
        exact .inl ⟨.inr (reread_of_kept hk (.inr ha) hs), ha⟩

theorem accepts_of_nullable (hn : v.nullable = true) {x : Json} :
    v.Accepts x ↔ x = .null ∨ (v.shape.Accepts x ∧ v.Admits x) := by
  rw [Validator.accepts_iff, hn]
  simp [Validator.Admits, Validator.Passes]

theorem kept_iff_typed_nullable (hw : v.WellFormedNode) {t : TypeName}
    (ht : v.shape.typeName? = some t) (hne : t ≠ .null) (hn : v.nullable = true) :
    ((∀ x, v.Listed x → x = .null ∨ v.shape.Accepts x) ∧
      ∀ x, x = .null ∨ (v.shape.Accepts x ∧ v.Admits x) ↔ v.Accepts x) ↔ v.Kept := by
  apply iff_of_true
  · constructor
    · intro x hl
      exact (listed_accepts hw hl).imp And.right id
    · intro x
      rw [accepts_of_nullable hn]
  · refine ⟨?_, by simp [hn], ?_, by simp [hn]⟩
    · rintro - (h | h)
      · cases ht.symm.trans h
      · rw [h] at ht
        cases ht
        exact absurd rfl hne
    · intro items _ ha
      exact (Shape.reread_iff (Shape.mergedElement?_of_typeName? ht)).2 ha

theorem kept_iff_null (hw : v.WellFormedNode) (hs : v.shape = .null) (hn : v.nullable = true) :
    ((∀ x, v.Listed x → v.shape.Reread x) ∧ ∀ x, AcceptsAgain v x ↔ v.Accepts x) ↔ v.Kept := by
  have hm : v.shape.mergedElement? = none := by
    rw [hs]
    rfl
  have ho : v.isOverwritten = false := by
    rw [Validator.isOverwritten, hs]
  have hr : ∀ x, v.shape.Reread x ↔ x = .null := by
    intro x
    rw [Shape.reread_iff hm, hs, Shape.accepts_null]
  have hacc : ∀ x, v.Accepts x ↔ x = .null := by
    intro x
    rw [accepts_of_nullable hn, hs, Shape.accepts_null]
    exact or_iff_left_of_imp And.left
  have hl : ∀ x, v.Listed x → x = .null := by
    intro x h
    rcases listed_accepts hw h with ⟨-, h⟩ | h
    · exact h
    · rwa [hs, Shape.accepts_null] at h
  constructor
  · rintro ⟨-, hP⟩
    refine ⟨?_, by simp [hn], ?_, by simp [hn]⟩
    · intro _ _
      have hnull : AcceptsAgain v .null := (hP .null).2 ((hacc _).2 rfl)
      simpa [AcceptsAgain, ho, hm, hr] using hnull
    · intro items _ ha
      rwa [Shape.reread_iff hm]
  · intro hk
    constructor
    · intro x h
      exact (hr x).2 (hl x h)
    · intro x
      simp only [AcceptsAgain, ho, hm, hr, hacc]
      constructor
      · rintro (⟨h | h, -⟩ | ⟨h, -⟩)
        · cases h
        · exact h
        · cases h
      · rintro rfl
        exact .inl ⟨.inr rfl, hk.null hn (.inr hs)⟩

theorem kept_iff_untyped_nullable (hw : v.WellFormedNode) (ht : v.shape.typeName? = none)
    (hn : v.nullable = true) :
    ((∀ x, v.Listed x → v.shape.Reread x ∨ x = .null) ∧
      ∀ x, (v.shape.Reread x ∨ x = .null) ∧ v.Admits x ↔ v.Accepts x) ↔ v.Kept := by
  constructor
  · rintro ⟨hok, hP⟩
    refine ⟨?_, by simp [hn], ?_, by simp [hn]⟩
    · intro _ _
      have hnull : v.Accepts .null := (accepts_of_nullable hn).2 (.inl rfl)
      exact ((hP .null).2 hnull).2
    · rintro items (h | h) ha
      · exact (hok _ h).resolve_right (by simp)
      · have hitems : v.Accepts (.array items) := (accepts_of_nullable hn).2 (.inr ⟨ha, h⟩)
        exact ((hP _).2 hitems).1.resolve_right (by simp)
  · intro hk
    constructor
    · intro x hl
      rcases listed_accepts hw hl with ⟨-, hx⟩ | hs
      · exact .inr hx
      · exact .inl (reread_of_kept hk (.inl hl) hs)
    · intro x
      rw [accepts_of_nullable hn]
      constructor
      · rintro ⟨hr | hx, ha⟩
        · exact .inr ⟨hr.1, ha⟩
        · exact .inl hx
      · rintro (rfl | ⟨hs, ha⟩)
        · exact ⟨.inr rfl, hk.null hn (.inl ht)⟩
        · exact ⟨.inl (reread_of_kept hk (.inr ha) hs), ha⟩

/-- What the export is compiled to keeps the default, and the meaning if that is to be kept. -/
theorem outcome_kept (hw : v.WellFormedNode) (hu : v.AcceptsUnknown)
    (hp : RestoresParts child v) (hbare : v.nullable = true → ∀ segments, ∃ b,
      child segments (.object v.shape.toMembers) = .ok b ∧
        ∀ x, b.Accepts x ↔ v.shape.Reread x) :
    ∃ ok P, Outcome (compileMembers path child follow v.toMembers) ok P v.defaultValue ∧
      ((ok ∧ ∀ x, P x ↔ v.Accepts x) ↔ v.Kept) := by
  by_cases hn : v.nullable = true
  · cases ht : v.shape.typeName? with
    | none =>
        exact ⟨_, _, outcome_untyped_nullable hp hn ht (hbare hn),
          kept_iff_untyped_nullable hw ht hn⟩
    | some t =>
        by_cases hne : t = .null
        · subst hne
          exact ⟨_, _, outcome_typed hw.shape hu hp ht (by simp),
            kept_iff_null hw (Shape.eq_null_of_typeName? ht) hn⟩
        · exact ⟨_, _, outcome_typed_nullable hw.shape hu hp ht hn hne,
            kept_iff_typed_nullable hw ht hne hn⟩
  · have hn := Bool.eq_false_iff.2 hn
    exact ⟨_, _, outcome_not_nullable hw hu hp hn, kept_iff_not_nullable hw hn⟩

end Schema

end SchemaCheck
