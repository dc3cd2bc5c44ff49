import Mathlib.Data.List.Forall2
import SchemaCheck.Proofs.Validator.Evaluation

namespace SchemaCheck

/-- One entry of the list, at one place, and no other. -/
def ExactlyOne {α : Type} (P : α → Prop) (l : List α) : Prop :=
  ∃ before a after, l = before ++ a :: after ∧ P a ∧ ∀ b ∈ before ++ after, ¬ P b

theorem not_exactlyOne_nil {α : Type} (P : α → Prop) : ¬ ExactlyOne P [] := by
  rintro ⟨before, a, after, h, -⟩
  cases before <;> cases h

theorem exactlyOne_cons {α : Type} {P : α → Prop} {a : α} {l : List α} :
    ExactlyOne P (a :: l) ↔ (P a ∧ ∀ b ∈ l, ¬ P b) ∨ (¬ P a ∧ ExactlyOne P l) := by
  constructor
  · rintro ⟨before, b, after, h, hb, hn⟩
    cases before with
    | nil =>
        cases h
        exact .inl ⟨hb, by simpa using hn⟩
    | cons c before =>
        cases h
        refine .inr ⟨hn a (by simp), before, b, after, rfl, hb, ?_⟩
        exact fun d hd => hn d (List.mem_cons_of_mem _ hd)
  · rintro (⟨ha, hn⟩ | ⟨ha, before, b, after, rfl, hb, hn⟩)
    · exact ⟨[], a, l, rfl, ha, hn⟩
    · refine ⟨a :: before, b, after, rfl, hb, fun d hd => ?_⟩
      rcases List.mem_cons.1 hd with rfl | hd
      · exact ha
      · exact hn d hd

section Pointwise

variable {α β γ : Type} {P : α → Prop} {Q : β → Prop} {l : List α} {m : List β}

theorem exists_mem_iff (h : List.Forall₂ (fun a b => P a ↔ Q b) l m) :
    (∃ a ∈ l, P a) ↔ ∃ b ∈ m, Q b := by
  induction h with
  | nil => simp
  | cons h _ ih => simp [h, ih]

theorem forall_mem_iff (h : List.Forall₂ (fun a b => P a ↔ Q b) l m) :
    (∀ a ∈ l, P a) ↔ ∀ b ∈ m, Q b := by
  induction h with
  | nil => simp
  | cons h _ ih => simp [h, ih]

theorem exactlyOne_iff (h : List.Forall₂ (fun a b => P a ↔ Q b) l m) :
    ExactlyOne P l ↔ ExactlyOne Q m := by
  induction h with
  | nil => exact iff_of_false (not_exactlyOne_nil P) (not_exactlyOne_nil Q)
  | cons h hs ih =>
      have hn := forall_mem_iff (hs.imp fun _ _ h => not_congr h)
      rw [exactlyOne_cons, exactlyOne_cons, h, hn, ih]

theorem forall₂_iff {R : α → γ → Prop} {S : β → γ → Prop} {n : List γ}
    (h : List.Forall₂ (fun a b => ∀ c, R a c ↔ S b c) l m) :
    List.Forall₂ R l n ↔ List.Forall₂ S m n := by
  induction h generalizing n with
  | nil => cases n <;> simp
  | cons h _ ih =>
      cases n with
      | nil => simp
      | cons c n => rw [List.forall₂_cons, List.forall₂_cons, h c, ih]

theorem forall₂_congr_of_mem {R S : α → β → Prop} (h : ∀ a ∈ l, ∀ b ∈ m, R a b ↔ S a b) :
    List.Forall₂ R l m ↔ List.Forall₂ S l m := by
  rw [List.forall₂_iff_zip, List.forall₂_iff_zip]
  refine and_congr_right fun _ => forall₂_congr fun a b => forall_congr' fun hz => ?_
  exact h a (List.of_mem_zip hz).1 b (List.of_mem_zip hz).2

theorem exists_of_forall₂_left {R : α → β → Prop} (h : List.Forall₂ R l m) {a : α} (ha : a ∈ l) :
    ∃ b ∈ m, R a b := by
  induction h with
  | nil => cases ha
  | cons hr _ ih =>
      rcases List.mem_cons.1 ha with rfl | ha
      · exact ⟨_, List.mem_cons_self .., hr⟩
      · obtain ⟨b, hb, hr⟩ := ih ha
        exact ⟨b, List.mem_cons_of_mem _ hb, hr⟩

end Pointwise

theorem isSome_bind_iff {α β : Type} {o : Option α} {f : α → Option β} {P : Prop}
    (h : ∀ a, (f a).isSome = true ↔ P) : (o.bind f).isSome = true ↔ o.isSome = true ∧ P := by
  cases o with
  | none => simp
  | some a => simp [h a]

theorem isSome_bind_some {α β : Type} {o : Option α} (f : α → β) :
    (o.bind fun a => some (f a)).isSome = o.isSome := by
  cases o <;> rfl

theorem isSome_keepIf {α : Type} {ok : Bool} {a : α} : (keepIf ok a).isSome = true ↔ ok = true := by
  cases ok <;> simp [keepIf]

theorem isSome_mapM {α β : Type} {f : α → Option β} {l : List α} :
    (l.mapM f).isSome = true ↔ ∀ a ∈ l, (f a).isSome = true := by
  induction l with
  | nil => simp
  | cons a rest ih =>
      have hrest : ∀ b, ((rest.mapM f).bind fun bs => some (b :: bs)).isSome = true ↔
          ∀ a ∈ rest, (f a).isSome = true := by
        intro b
        rw [isSome_bind_some, ih]
      rw [List.mapM_cons, List.forall_mem_cons]
      exact isSome_bind_iff hrest

def Validator.Accepts (v : Validator) (x : Json) : Prop := (v.eval x).isSome = true

def Shape.Accepts (s : Shape) (x : Json) : Prop := (s.eval x).isSome = true

/-- Absent members are accepted if they are not required or have a default. -/
structure Field.Accepts (f : Field) (members : Json.Members) : Prop where
  present : ∀ y, members.lookup f.name = some y → f.validator.Accepts y
  absent : members.lookup f.name = none → f.required = true →
    f.validator.defaultValue.isSome = true

def UnknownKeys.Accepts : UnknownKeys → Json.Members → Prop
  | .reject, others => others = []
  | .accept, _ => True
  | .validate v, others => ∀ m ∈ others, v.Accepts m.2

def Check.rules {ρ : Type} (checks : List (Check ρ)) : List ρ := checks.map (·.rule)

def Rule.AllHold {ρ α : Type} [Rule ρ α] (rules : List ρ) (a : α) : Prop :=
  ∀ r ∈ rules, Rule.holds r a = true

theorem Check.allHold_iff {ρ α : Type} [Rule ρ α] {checks : List (Check ρ)} {a : α} :
    Check.allHold checks a = true ↔ Rule.AllHold (Check.rules checks) a := by
  simp [Check.allHold, Check.rules, Rule.AllHold, Check.holds]

theorem amongValues_iff {x : Json} {values : List Json} :
    x.amongValues values = true ↔ ∃ y ∈ values, Json.sameValue y x = true := by
  simp [Json.amongValues]

theorem evalMembers_isSome {eval : Json → Option Json} {output members : Json.Members} :
    (evalMembers eval output members).isSome = true ↔ ∀ m ∈ members, (eval m.2).isSome = true := by
  induction members generalizing output with
  | nil => simp [evalMembers]
  | cons m rest ih =>
      obtain ⟨key, x⟩ := m
      rw [evalMembers, List.forall_mem_cons]
      exact isSome_bind_iff fun y => ih

theorem evalPositions_isSome {vs : List Validator} {items : List Json} :
    (evalPositions vs items).isSome = true ↔ List.Forall₂ Validator.Accepts vs items := by
  induction vs generalizing items with
  | nil => cases items <;> simp [evalPositions]
  | cons v vs ih =>
      cases items with
      | nil => simp [evalPositions]
      | cons x rest =>
          rw [evalPositions, List.forall₂_cons, ← ih]
          exact isSome_bind_iff fun y => by rw [isSome_bind_some]

theorem evalFields_isSome {fields : List Field} {members output : Json.Members} :
    (evalFields fields members output).isSome = true ↔ ∀ f ∈ fields, f.Accepts members := by
  induction fields generalizing output with
  | nil => simp [evalFields]
  | cons f rest ih =>
      obtain ⟨name, required, v⟩ := f
      rw [List.forall_mem_cons, evalFields]
      cases hl : members.lookup name with
      | some x =>
          rw [isSome_bind_iff fun y => ih]
          refine and_congr_left fun _ => ?_
          constructor
          · intro h
            constructor
            · intro y hy
              cases hl.symm.trans hy
              exact h
            · intro hn
              cases hl.symm.trans hn
          · intro h
            exact h.present x hl
      | none =>
          have hp : ∀ y, members.lookup name = some y → v.Accepts y := by
            intro y hy
            cases hl.symm.trans hy
          cases hd : v.defaultValue with
          | some d =>
              have hf : (Field.mk name required v).Accepts members :=
                ⟨hp, fun _ _ => by simp [hd]⟩
              simp only [ih, hf, true_and]
          | none =>
              cases required with
              | true =>
                  simp only [if_true, Option.isSome_none, Bool.false_eq_true, false_iff, not_and]
                  intro h
                  have := h.absent hl rfl
                  simp [hd] at this
              | false =>
                  have hf : (Field.mk name false v).Accepts members := ⟨hp, by simp⟩
                  simp only [Bool.false_eq_true, if_false, ih, hf, true_and]

theorem unknown_eval_isSome {unknown : UnknownKeys} {output others : Json.Members} :
    (unknown.eval output others).isSome = true ↔ unknown.Accepts others := by
  cases unknown with
  | reject => simp [UnknownKeys.eval, UnknownKeys.Accepts, isSome_keepIf]
  | accept => simp [UnknownKeys.eval, UnknownKeys.Accepts]
  | validate v => exact evalMembers_isSome

theorem evalFirst_isSome {vs : List Validator} {x : Json} :
    (evalFirst vs x).isSome = true ↔ ∃ v ∈ vs, v.Accepts x := by
  induction vs with
  | nil => simp [evalFirst]
  | cons v vs ih => simp [evalFirst, ih, Validator.Accepts]

theorem evalEach_eq_nil {vs : List Validator} {x : Json} :
    evalEach vs x = [] ↔ ∀ v ∈ vs, ¬ v.Accepts x := by
  induction vs with
  | nil => simp [evalEach]
  | cons v vs ih => simp [evalEach, ih, Validator.Accepts]

theorem only?_evalEach_isSome {vs : List Validator} {x : Json} :
    (only? (evalEach vs x)).isSome = true ↔ ExactlyOne (·.Accepts x) vs := by
  induction vs with
  | nil => simp [evalEach, only?, not_exactlyOne_nil]
  | cons v vs ih =>
      rw [exactlyOne_cons, ← ih, ← evalEach_eq_nil, evalEach, Validator.Accepts]
      cases v.eval x with
      | none => simp
      | some y => cases evalEach vs x <;> simp [only?]

theorem evalAll_isSome {vs : List Validator} {x : Json} :
    (evalAll vs x).isSome = true ↔ ∀ v ∈ vs, v.Accepts x := by
  induction vs with
  | nil => simp [evalAll]
  | cons v vs ih =>
      rw [evalAll, List.forall_mem_cons, ← ih]
      exact isSome_bind_iff fun y => by rw [isSome_bind_some]

namespace Shape

variable {x : Json}

theorem accepts_any : Shape.any.Accepts x := rfl

theorem not_accepts_never : ¬ Shape.never.Accepts x := nofun

theorem accepts_boolean : Shape.boolean.Accepts x ↔ ∃ b, x = .bool b := by
  cases x <;> simp [Accepts, Shape.eval]

theorem accepts_null : Shape.null.Accepts x ↔ x = .null := by
  cases x <;> simp [Accepts, Shape.eval, Json.isNull, keepIf]

theorem accepts_literal {value : Json} :
    (Shape.literal value).Accepts x ↔ Json.sameValue value x = true := by
  rw [Accepts, Shape.eval, isSome_keepIf]

theorem accepts_among {values : List Json} :
    (Shape.among values).Accepts x ↔ ∃ y ∈ values, Json.sameValue y x = true := by
  rw [Accepts, Shape.eval, isSome_keepIf, amongValues_iff]

theorem accepts_string {checks : List (Check StringRule)} :
    (Shape.string checks).Accepts x ↔ ∃ s, x = .string s ∧ Rule.AllHold (Check.rules checks) s := by
  cases x <;> simp [Accepts, Shape.eval, isSome_keepIf, Check.allHold_iff]

theorem accepts_number {integer : Bool} {checks : List (Check NumberRule)} :
    (Shape.number integer checks).Accepts x ↔ ∃ n, x = .number n ∧
      (integer = true → n.isIntegral = true) ∧ Rule.AllHold (Check.rules checks) n.toBinary64 := by
  cases x <;> cases integer <;> simp [Accepts, Shape.eval, isSome_keepIf, Check.allHold_iff]

theorem accepts_array {element : Validator} {checks : List (Check ArrayRule)} :
    (Shape.array element checks).Accepts x ↔ ∃ items, x = .array items ∧
      Rule.AllHold (Check.rules checks) items ∧ ∀ y ∈ items, element.Accepts y := by
  cases x with
  | array items =>
      simp only [Accepts, Shape.eval, Json.array.injEq, exists_eq_left', ← Check.allHold_iff]
      rw [isSome_bind_iff (P := ∀ y ∈ items, element.Accepts y), isSome_keepIf]
      intro _
      rw [Option.isSome_map]
      exact isSome_mapM
  | null | bool b | number n | string s | object members => simp [Accepts, Shape.eval]

theorem accepts_tuple {positions : List Validator} :
    (Shape.tuple positions).Accepts x ↔ ∃ items, x = .array items ∧
      List.Forall₂ Validator.Accepts positions items := by
  cases x with
  | array items =>
      simp only [Accepts, Shape.eval, Json.array.injEq, exists_eq_left', Option.isSome_map]
      exact evalPositions_isSome
  | null | bool b | number n | string s | object members => simp [Accepts, Shape.eval]

theorem accepts_object {fields : List Field} {unknown : UnknownKeys}
    {checks : List (Check ObjectRule)} :
    (Shape.object fields unknown checks).Accepts x ↔ ∃ members, x = .object members ∧
      (∀ f ∈ fields, f.Accepts members) ∧
      unknown.Accepts (members.filter fun m => !Field.hasName fields m.1) ∧
      Rule.AllHold (Check.rules checks) members.length := by
  cases x with
  | object members =>
      have hrest : ∀ output, ((unknown.eval output
          (members.filter fun m => !Field.hasName fields m.1)).bind fun output =>
            keepIf (Check.allHold checks members.length) (Json.object output)).isSome = true ↔
          unknown.Accepts (members.filter fun m => !Field.hasName fields m.1) ∧
            Check.allHold checks members.length = true := by
        intro output
        rw [isSome_bind_iff fun output => isSome_keepIf, unknown_eval_isSome]
      simp only [Accepts, Shape.eval, Json.object.injEq, exists_eq_left', ← Check.allHold_iff]
      rw [isSome_bind_iff hrest, evalFields_isSome]
  | null | bool b | number n | string s | array items => simp [Accepts, Shape.eval]

theorem accepts_union {vs : List Validator} :
    (Shape.union vs).Accepts x ↔ ∃ v ∈ vs, v.Accepts x := evalFirst_isSome

theorem accepts_exclusiveUnion {vs : List Validator} :
    (Shape.exclusiveUnion vs).Accepts x ↔ ExactlyOne (·.Accepts x) vs := only?_evalEach_isSome

theorem accepts_intersection {vs : List Validator} :
    (Shape.intersection vs).Accepts x ↔ ∀ v ∈ vs, v.Accepts x := by
  rw [Accepts, Shape.eval, Option.isSome_map]
  exact evalAll_isSome

end Shape

namespace Validator

variable {v : Validator} {x : Json}

theorem isValid_iff : v.isValid x = true ↔ v.Accepts x := by
  rw [isValid_eq_isSome_eval, Accepts]

theorem accepts_iff : v.Accepts x ↔ (v.nullable = true ∧ x = .null) ∨
    (v.shape.Accepts x ∧ allows v.allowed x = true ∧ ∀ w, v.excluded = some w → ¬ w.Accepts x) := by
  obtain ⟨shape, nullable, defaultValue, description, title, allowed, excluded⟩ := v
  have hx : excludes excluded x = false ↔ ∀ w, excluded = some w → ¬ w.Accepts x := by
    cases excluded <;> simp [excludes, Accepts]
  have hs : ((shape.eval x).bind fun y =>
      keepIf (allows allowed x && !excludes excluded x) y).isSome = true ↔
        shape.Accepts x ∧ allows allowed x = true ∧ ∀ w, excluded = some w → ¬ w.Accepts x := by
    rw [isSome_bind_iff fun y => isSome_keepIf, Bool.and_eq_true_iff, Bool.not_eq_true', hx]
    rfl
  have hn : (x.isNull && nullable) = true ↔ nullable = true ∧ x = .null := by
    cases x <;> simp [Json.isNull]
  rw [Accepts, Validator.eval]
  by_cases h : (x.isNull && nullable) = true
  · rw [if_pos h]
    exact iff_of_true rfl (.inl (hn.1 h))
  · rw [if_neg h, hs]
    have hne : ¬ (nullable = true ∧ x = .null) := fun hl => h (hn.2 hl)
    exact (or_iff_right hne).symm

theorem accepts_ofShape {s : Shape} : (ofShape s).Accepts x ↔ s.Accepts x := by
  rw [accepts_iff]
  simp [ofShape, allows]

end Validator

end SchemaCheck
