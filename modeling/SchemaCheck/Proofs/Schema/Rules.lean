import SchemaCheck.Proofs.Schema.Form
import SchemaCheck.Proofs.Validator.Acceptance

namespace SchemaCheck.Schema

open Json (Members)
open Check (rules)

def ruleAt? {ρ : Type} (node : Members) (keyword : String)
    (read : Json → Except Mistake (Option ρ)) : Option ρ :=
  (node.lookup keyword).bind fun x => (read x).toOption.join

theorem ruleAt?_eq_some {ρ : Type} {node : Members} {keyword : String}
    {read : Json → Except Mistake (Option ρ)} {rule : ρ} :
    ruleAt? node keyword read = some rule ↔
      ∃ x, node.lookup keyword = some x ∧ read x = .ok (some rule) := by
  rw [ruleAt?, Option.bind_eq_some_iff]
  refine exists_congr fun x => and_congr_right fun _ => ?_
  rcases read x with m | r
  · simp [Except.toOption]
  · cases r <;> simp [Except.toOption]

theorem rules_constraint {ρ : Type} {node : Members} {path keyword : String}
    {read : Json → Except Mistake (Option ρ)} {checks : List (Check ρ)}
    (h : constraint node path keyword read = .ok checks) :
    rules checks = (ruleAt? node keyword read).toList := by
  rw [constraint] at h
  rw [ruleAt?]
  cases hl : node.lookup keyword with
  | none =>
      rw [hl] at h
      cases h
      rfl
  | some x =>
      simp only [hl, Option.bind_some] at h ⊢
      revert h
      rcases read x with m | r
      · exact nofun
      · cases r <;> rintro ⟨⟩ <;> rfl

abbrev RuleTable (ρ : Type) := List (String × (Json → Except Mistake (Option ρ)))

def tableRules {ρ : Type} (table : RuleTable ρ) (node : Members) : List ρ :=
  table.flatMap fun e => (ruleAt? node e.1 e.2).toList

def stringTable : RuleTable StringRule :=
  [("minLength", counted .minLength), ("maxLength", counted .maxLength), ("pattern", readPattern),
    ("format", readFormat)]

def arrayTable : RuleTable ArrayRule :=
  [("minItems", counted .minItems), ("maxItems", counted .maxItems), ("uniqueItems", readUnique)]

def objectTable : RuleTable ObjectRule :=
  [("minProperties", counted .minProperties), ("maxProperties", counted .maxProperties)]

def Side.excludeRules (side : Side) (node : Members) (rules : List NumberRule) : List NumberRule :=
  match node.lookup side.keyword with
  | some (.bool true) => rules.map fun r => (side.sharpen? r).getD r
  | _ => rules ++ (ruleAt? node side.keyword (bounded side.rule)).toList

def numberRules (node : Members) : List NumberRule :=
  Side.upper.excludeRules node (Side.lower.excludeRules node
    ((ruleAt? node "minimum" (bounded .minimum)).toList ++
      (ruleAt? node "maximum" (bounded .maximum)).toList)) ++
    (ruleAt? node "multipleOf" readStep).toList

theorem rules_append {ρ : Type} (cs ds : List (Check ρ)) :
    rules (cs ++ ds) = rules cs ++ rules ds := List.map_append

theorem rules_stringChecks {node : Members} {path : String} {checks : List (Check StringRule)}
    (h : stringChecks node path = .ok checks) : rules checks = tableRules stringTable node := by
  obtain ⟨min, hmin, h⟩ := bind_eq_ok h
  obtain ⟨max, hmax, h⟩ := bind_eq_ok h
  obtain ⟨pattern, hpattern, h⟩ := bind_eq_ok h
  obtain ⟨format, hformat, h⟩ := bind_eq_ok h
  cases h
  simp [rules_append, rules_constraint hmin, rules_constraint hmax, rules_constraint hpattern,
    rules_constraint hformat, tableRules, stringTable]

theorem rules_exclude {side : Side} {node : Members} {path : String}
    {checks after : List (Check NumberRule)} (h : side.exclude node path checks = .ok after) :
    rules after = side.excludeRules node (rules checks) := by
  have hadd : (constraint node path side.keyword (bounded side.rule) >>= fun added =>
      .ok (checks ++ added)) = .ok after →
      rules after = rules checks ++ (ruleAt? node side.keyword (bounded side.rule)).toList := by
    intro h
    obtain ⟨added, ha, h⟩ := bind_eq_ok h
    cases h
    rw [rules_append, rules_constraint ha]
  rw [Side.exclude] at h
  rw [Side.excludeRules]
  cases hl : node.lookup side.keyword with
  | none =>
      rw [hl] at h
      cases h
      simp [ruleAt?, hl]
  | some x =>
      rw [hl] at h
      cases x with
      | bool b =>
          cases b with
          | false =>
              cases h
              simp [ruleAt?, hl, bounded, readNumber, Except.toOption, Except.map]
          | true =>
              cases h
              simp only [rules, List.map_map]
              refine List.map_congr_left fun c _ => ?_
              simp only [Function.comp, Side.sharpen]
              cases side.sharpen? c.rule <;> rfl
      | null | number n | string s | array items | object members => exact hadd h

theorem rules_numberChecks {node : Members} {path : String} {checks : List (Check NumberRule)}
    (h : numberChecks node path = .ok checks) : rules checks = numberRules node := by
  obtain ⟨min, hmin, h⟩ := bind_eq_ok h
  obtain ⟨max, hmax, h⟩ := bind_eq_ok h
  obtain ⟨lower, hlower, h⟩ := bind_eq_ok h
  obtain ⟨upper, hupper, h⟩ := bind_eq_ok h
  obtain ⟨step, hstep, h⟩ := bind_eq_ok h
  cases h
  rw [rules_append, rules_exclude hupper, rules_exclude hlower, rules_append, rules_constraint hmin,
    rules_constraint hmax, rules_constraint hstep, numberRules]

theorem rules_arrayChecks {node : Members} {path : String} {checks : List (Check ArrayRule)}
    (h : arrayChecks node path = .ok checks) : rules checks = tableRules arrayTable node := by
  obtain ⟨min, hmin, h⟩ := bind_eq_ok h
  obtain ⟨max, hmax, h⟩ := bind_eq_ok h
  obtain ⟨unique, hunique, h⟩ := bind_eq_ok h
  cases h
  simp [rules_append, rules_constraint hmin, rules_constraint hmax, rules_constraint hunique,
    tableRules, arrayTable]

theorem rules_objectChecks {node : Members} {path : String} {checks : List (Check ObjectRule)}
    (h : objectChecks node path = .ok checks) : rules checks = tableRules objectTable node := by
  obtain ⟨min, hmin, h⟩ := bind_eq_ok h
  obtain ⟨max, hmax, h⟩ := bind_eq_ok h
  cases h
  simp [rules_append, rules_constraint hmin, rules_constraint hmax, tableRules, objectTable]

def countAt? (node : Members) (keyword : String) : Option Nat :=
  (node.lookup keyword).bind fun x => (readCount x).toOption

def numberAt? (node : Members) (keyword : String) : Option Binary64 :=
  (node.lookup keyword).bind fun x => (readNumber x).toOption

theorem ruleAt?_counted {ρ : Type} (node : Members) (keyword : String) (rule : Nat → ρ) :
    ruleAt? node keyword (counted rule) = (countAt? node keyword).map rule := by
  unfold ruleAt? countAt? counted
  cases node.lookup keyword with
  | none => rfl
  | some x =>
      simp only [Option.bind_some]
      cases readCount x <;> rfl

theorem ruleAt?_bounded (node : Members) (keyword : String) (rule : Binary64 → NumberRule) :
    ruleAt? node keyword (bounded rule) = (numberAt? node keyword).map rule := by
  unfold ruleAt? numberAt? bounded
  cases node.lookup keyword with
  | none => rfl
  | some x =>
      simp only [Option.bind_some]
      cases readNumber x <;> rfl

theorem numberAt?_eq_some {node : Members} {keyword : String} {b : Binary64} :
    numberAt? node keyword = some b ↔
      ∃ n, node.lookup keyword = some (.number n) ∧ n.toBinary64 = b := by
  rw [numberAt?, Option.bind_eq_some_iff]
  constructor
  · rintro ⟨x, hx, h⟩
    cases x <;> cases h
    exact ⟨_, hx, rfl⟩
  · rintro ⟨n, hn, rfl⟩
    exact ⟨_, hn, rfl⟩

theorem countAt?_eq_some {node : Members} {keyword : String} {n : Nat} :
    countAt? node keyword = some n ↔
      ∃ m, node.lookup keyword = some (.number m) ∧ m.toCount? = some n := by
  rw [countAt?, Option.bind_eq_some_iff]
  constructor
  · rintro ⟨x, hx, h⟩
    cases x with
    | number m =>
        refine ⟨m, hx, ?_⟩
        simp only [readCount] at h
        split at h
        next k hk =>
          cases h
          exact hk
        next => cases h
    | null | bool b | string s | array items | object members => cases h
  · rintro ⟨m, hm, h⟩
    refine ⟨_, hm, ?_⟩
    simp only [readCount, h]
    rfl

section AllHold

variable {ρ α : Type} [Rule ρ α] {a : α}

open Rule (AllHold)

theorem allHold_append {rs ss : List ρ} : AllHold (rs ++ ss) a ↔ AllHold rs a ∧ AllHold ss a :=
  List.forall_mem_append

theorem allHold_toList {o : Option ρ} :
    AllHold o.toList a ↔ ∀ r, o = some r → Rule.holds r a = true := by
  simp [AllHold]

theorem allHold_toList_map {β : Type} {o : Option β} {rule : β → ρ} :
    AllHold (o.map rule).toList a ↔ ∀ b, o = some b → Rule.holds (rule b) a = true := by
  simp [AllHold]

theorem allHold_tableRules {table : RuleTable ρ} {node : Members} :
    AllHold (tableRules table node) a ↔
      ∀ e ∈ table, AllHold (ruleAt? node e.1 e.2).toList a := by
  simp only [tableRules, AllHold, List.mem_flatMap]
  constructor
  · intro h e he r hr
    exact h r ⟨e, he, hr⟩
  · rintro h r ⟨e, he, hr⟩
    exact h e he r hr

end AllHold

open Rule (AllHold)

theorem readPattern_eq_some {x : Json} {r : StringRule} :
    readPattern x = .ok (some r) ↔
      ∃ source p, x = .string source ∧ Pattern.ofSource? source = some p ∧ r = .pattern p := by
  constructor
  · intro h
    obtain ⟨source, hs, h⟩ := bind_eq_ok h
    have hx : x = .string source := by
      cases x <;> cases hs
      rfl
    split at h
    next p hp =>
      cases h
      exact ⟨source, p, hx, hp, rfl⟩
    next => cases h
  · rintro ⟨source, p, rfl, hp, rfl⟩
    simp [readPattern, readString, hp, bind, Except.bind]

theorem readFormat_eq_some {x : Json} {r : StringRule} :
    readFormat x = .ok (some r) ↔
      ∃ keyword f, x = .string keyword ∧ Format.ofKeyword? keyword = some f ∧ r = .format f := by
  constructor
  · intro h
    obtain ⟨keyword, hs, h⟩ := bind_eq_ok h
    cases x <;> cases hs
    obtain ⟨f, hf, rfl⟩ := Option.map_eq_some_iff.1 (Except.ok.inj h)
    exact ⟨keyword, f, rfl, hf, rfl⟩
  · rintro ⟨keyword, f, rfl, hf, rfl⟩
    simp [readFormat, readString, hf, bind, Except.bind]

theorem allHold_stringTable {node : Members} {s : String} :
    AllHold (tableRules stringTable node) s ↔
      (∀ n, countAt? node "minLength" = some n → n ≤ s.length) ∧
      (∀ n, countAt? node "maxLength" = some n → s.length ≤ n) ∧
      (∀ source, node.lookup "pattern" = some (.string source) →
        ∀ p, Pattern.ofSource? source = some p → p.isMatch s = true) ∧
      ∀ keyword, node.lookup "format" = some (.string keyword) →
        ∀ f, Format.ofKeyword? keyword = some f → f.isMatch s = true := by
  have hp : AllHold (ruleAt? node "pattern" readPattern).toList s ↔
      ∀ source, node.lookup "pattern" = some (.string source) →
        ∀ p, Pattern.ofSource? source = some p → p.isMatch s = true := by
    simp only [allHold_toList, ruleAt?_eq_some, readPattern_eq_some]
    constructor
    · intro h source hl p hs
      exact h (.pattern p) ⟨_, hl, source, p, rfl, hs, rfl⟩
    · rintro h r ⟨x, hl, source, p, rfl, hs, rfl⟩
      exact h source hl p hs
  have hf : AllHold (ruleAt? node "format" readFormat).toList s ↔
      ∀ keyword, node.lookup "format" = some (.string keyword) →
        ∀ f, Format.ofKeyword? keyword = some f → f.isMatch s = true := by
    simp only [allHold_toList, ruleAt?_eq_some, readFormat_eq_some]
    constructor
    · intro h keyword hl f hk
      exact h (.format f) ⟨_, hl, keyword, f, rfl, hk, rfl⟩
    · rintro h r ⟨x, hl, keyword, f, rfl, hk, rfl⟩
      exact h keyword hl f hk
  rw [allHold_tableRules]
  simp [stringTable, hp, hf, ruleAt?_counted, allHold_toList_map, Rule.holds]

def Side.isStrict (side : Side) (node : Members) : Bool :=
  match node.lookup side.keyword with
  | some (.bool b) => b
  | _ => false

theorem Side.isStrict_iff {side : Side} {node : Members} :
    side.isStrict node = true ↔ node.lookup side.keyword = some (.bool true) := by
  rw [isStrict]
  split
  next b h =>
    simp [h]
  next h =>
    simpa using h true

def Side.adjust (side : Side) (strict : Bool) (r : NumberRule) : NumberRule :=
  if strict then (side.sharpen? r).getD r else r

theorem excludeRules_eq (side : Side) (node : Members) (rules : List NumberRule) :
    side.excludeRules node rules = rules.map (side.adjust (side.isStrict node)) ++
      ((numberAt? node side.keyword).map side.rule).toList := by
  rw [Side.excludeRules]
  split
  next h =>
    have hn : numberAt? node side.keyword = none := by
      rw [numberAt?, h]
      rfl
    rw [hn, Side.isStrict_iff.2 h]
    simp [Side.adjust]
  next h =>
    have hs : side.isStrict node = false := by
      rw [← Bool.not_eq_true, Side.isStrict_iff]
      exact h
    have hm : rules.map (side.adjust false) = rules := List.map_id' rules
    rw [hs, hm, ruleAt?_bounded]

namespace Side

def inclusive : Side → String
  | lower => "minimum"
  | upper => "maximum"

def bound : Side → Binary64 → NumberRule
  | lower => .minimum
  | upper => .maximum

/-- The inclusive bound, which is exclusive where the other keyword says so. -/
def boundRule? (side : Side) (node : Members) : Option NumberRule :=
  (numberAt? node side.inclusive).map fun b => side.adjust (side.isStrict node) (side.bound b)

def exclusiveRule? (side : Side) (node : Members) : Option NumberRule :=
  (numberAt? node side.keyword).map side.rule

end Side

theorem numberRules_eq (node : Members) :
    numberRules node =
      (Side.lower.boundRule? node).toList ++ (Side.upper.boundRule? node).toList ++
      (Side.lower.exclusiveRule? node).toList ++ (Side.upper.exclusiveRule? node).toList ++
      (ruleAt? node "multipleOf" readStep).toList := by
  have hmax (b : Binary64) (strict : Bool) :
      Side.lower.adjust strict (.maximum b) = .maximum b := by
    cases strict <;> rfl
  have hmin (b : Binary64) (strict other : Bool) :
      Side.upper.adjust strict (Side.lower.adjust other (.minimum b)) =
        Side.lower.adjust other (.minimum b) := by
    cases strict <;> cases other <;> rfl
  have hex (b : Binary64) (strict : Bool) :
      Side.upper.adjust strict (.exclusiveMinimum b) = .exclusiveMinimum b := by
    cases strict <;> rfl
  rw [numberRules, ruleAt?_bounded, ruleAt?_bounded, excludeRules_eq, excludeRules_eq]
  simp only [List.map_append, ← Option.toList_map, Option.map_map, Function.comp_def, Side.rule,
    Side.boundRule?, Side.exclusiveRule?, Side.inclusive, Side.bound, hmin, hmax, hex]

theorem holds_adjust_lower {node : Members} {a b : Binary64} :
    Rule.holds (Side.lower.adjust (Side.lower.isStrict node) (.minimum b)) a = true ↔
      b ≤ a ∧ (node.lookup "exclusiveMinimum" = some (.bool true) → b < a) := by
  have hle : b < a → b ≤ a := Int.le_of_lt
  change _ ↔ b ≤ a ∧ (node.lookup Side.lower.keyword = _ → b < a)
  rw [← Side.isStrict_iff]
  cases Side.lower.isStrict node <;> simp [Side.adjust, Side.sharpen?, Rule.holds]
  exact hle

theorem holds_adjust_upper {node : Members} {a b : Binary64} :
    Rule.holds (Side.upper.adjust (Side.upper.isStrict node) (.maximum b)) a = true ↔
      a ≤ b ∧ (node.lookup "exclusiveMaximum" = some (.bool true) → a < b) := by
  have hle : a < b → a ≤ b := Int.le_of_lt
  change _ ↔ a ≤ b ∧ (node.lookup Side.upper.keyword = _ → a < b)
  rw [← Side.isStrict_iff]
  cases Side.upper.isStrict node <;> simp [Side.adjust, Side.sharpen?, Rule.holds]
  exact hle

/-- An exclusive bound that is true tells the inclusive one to be strict, and gives none itself. -/
theorem allHold_numberRules {node : Members} {a : Binary64} :
    AllHold (numberRules node) a ↔
      (∀ b, numberAt? node "minimum" = some b →
        b ≤ a ∧ (node.lookup "exclusiveMinimum" = some (.bool true) → b < a)) ∧
      (∀ b, numberAt? node "maximum" = some b →
        a ≤ b ∧ (node.lookup "exclusiveMaximum" = some (.bool true) → a < b)) ∧
      (∀ b, numberAt? node "exclusiveMinimum" = some b → b < a) ∧
      (∀ b, numberAt? node "exclusiveMaximum" = some b → a < b) ∧
      AllHold (ruleAt? node "multipleOf" readStep).toList a := by
  simp only [numberRules_eq, allHold_append, Side.boundRule?, Side.exclusiveRule?, Side.inclusive,
    Side.bound, Side.keyword, Side.rule, allHold_toList_map, holds_adjust_lower,
    holds_adjust_upper]
  simp only [and_assoc, Rule.holds, decide_eq_true_eq]

theorem allDistinct_iff {items : List Json} :
    allDistinct items = true ↔ items.Pairwise fun x y => Json.sameValue x y = false := by
  induction items with
  | nil => simp [allDistinct]
  | cons x rest ih => simp [allDistinct, ih]

theorem allHold_arrayTable {node : Members} {items : List Json} :
    AllHold (tableRules arrayTable node) items ↔
      (∀ n, countAt? node "minItems" = some n → n ≤ items.length) ∧
      (∀ n, countAt? node "maxItems" = some n → items.length ≤ n) ∧
      (node.lookup "uniqueItems" = some (.bool true) →
        items.Pairwise fun x y => Json.sameValue x y = false) := by
  have hu : AllHold (ruleAt? node "uniqueItems" readUnique).toList items ↔
      (node.lookup "uniqueItems" = some (.bool true) →
        items.Pairwise fun x y => Json.sameValue x y = false) := by
    simp only [allHold_toList, ruleAt?_eq_some]
    constructor
    · intro h hl
      exact allDistinct_iff.1 (h .uniqueItems ⟨_, hl, rfl⟩)
    · rintro h r ⟨x, hl, hr⟩
      unfold readUnique at hr
      split at hr <;> cases hr
      exact allDistinct_iff.2 (h hl)
  rw [allHold_tableRules]
  simp [arrayTable, hu, ruleAt?_counted, allHold_toList_map, Rule.holds]

theorem allHold_objectTable {node : Members} {count : Nat} :
    AllHold (tableRules objectTable node) count ↔
      (∀ n, countAt? node "minProperties" = some n → n ≤ count) ∧
      ∀ n, countAt? node "maxProperties" = some n → count ≤ n := by
  rw [allHold_tableRules]
  simp [objectTable, ruleAt?_counted, allHold_toList_map, Rule.holds]

theorem compileEnum_eq (values : List Json) : ∃ s, compileEnum values = .ofShape s ∧
    ∀ x, s.Accepts x ↔ ∃ y ∈ values, Json.sameValue y x = true := by
  unfold compileEnum
  split
  · exact ⟨_, rfl, fun x => by simp [Shape.accepts_literal]⟩
  · exact ⟨_, rfl, fun x => Shape.accepts_among⟩

end SchemaCheck.Schema
