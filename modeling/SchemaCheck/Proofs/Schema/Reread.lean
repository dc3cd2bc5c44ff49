import SchemaCheck.Proofs.Binary64.Exact
import SchemaCheck.Proofs.Schema.Rules
import SchemaCheck.Proofs.Validator.Export

namespace SchemaCheck.Schema

open Json (Members put int)
open Check (rules)
open Rule (AllHold)

/-- The table reads what the rule is written as, to a rule that holds of the same values. -/
def ReadsBack {ρ α : Type} [Rule ρ α] (table : RuleTable ρ) (entry : ρ → String × Json) (r : ρ) :
    Prop :=
  ∃ read s, ((entry r).1, read) ∈ table ∧ read (entry r).2 = .ok (some s) ∧
    ∀ a : α, Rule.holds s a = Rule.holds r a

theorem readCount_int (n : Nat) : readCount (int n) = .ok n := by
  simp [readCount, int, Json.Number.toCount?]

theorem counted_int {ρ : Type} (rule : Nat → ρ) (n : Nat) :
    counted rule (int n) = .ok (some (rule n)) := by
  rw [counted, readCount_int]
  rfl

theorem counted_readsBack {ρ α : Type} [Rule ρ α] {table : RuleTable ρ} {entry : ρ → String × Json}
    {rule : Nat → ρ} {keyword : String} {n : Nat} (hm : (keyword, counted rule) ∈ table)
    (he : entry (rule n) = (keyword, int n)) : ReadsBack table entry (rule n) := by
  refine ⟨counted rule, rule n, ?_, ?_, fun _ => rfl⟩
  · rw [he]
    exact hm
  · rw [he]
    exact counted_int rule n

theorem stringRule_readsBack (r : StringRule) : ReadsBack stringTable StringRule.entry r := by
  cases r with
  | minLength n => exact counted_readsBack (by simp [stringTable]) rfl
  | maxLength n => exact counted_readsBack (by simp [stringTable]) rfl
  | pattern p =>
      exact ⟨_, _, by simp [stringTable, StringRule.entry],
        readPattern_eq_some.2 ⟨_, p, rfl, p.ofSource?_source, rfl⟩, fun _ => rfl⟩
  | format f =>
      exact ⟨_, _, by simp [stringTable, StringRule.entry],
        readFormat_eq_some.2 ⟨_, f, rfl, f.ofKeyword?_keyword, rfl⟩, fun _ => rfl⟩

theorem arrayRule_readsBack (r : ArrayRule) : ReadsBack arrayTable ArrayRule.entry r := by
  cases r with
  | minItems n => exact counted_readsBack (by simp [arrayTable]) rfl
  | maxItems n => exact counted_readsBack (by simp [arrayTable]) rfl
  | uniqueItems =>
      exact ⟨readUnique, _, by simp [arrayTable, ArrayRule.entry], rfl, fun _ => rfl⟩

theorem objectRule_readsBack (r : ObjectRule) : ReadsBack objectTable ObjectRule.entry r := by
  cases r with
  | minProperties n => exact counted_readsBack (by simp [objectTable]) rfl
  | maxProperties n => exact counted_readsBack (by simp [objectTable]) rfl

theorem readNumber_boundValue (b : Binary64) :
    ∃ n c, boundValue b = .number n ∧ readNumber (boundValue b) = .ok c ∧
      c.units = b.units ∧ c.signedUnits = b.signedUnits := by
  rw [boundValue]
  split
  next h =>
    have hw : b.isWhole = true := (Bool.and_eq_true_iff.1 h).1
    exact ⟨_, _, rfl, rfl, Binary64.units_ofInt_truncate hw, Binary64.signedUnits_ofInt_truncate hw⟩
  next => exact ⟨_, _, rfl, rfl, rfl, rfl⟩

def numberTable : RuleTable NumberRule :=
  [("minimum", bounded .minimum), ("maximum", bounded .maximum),
    ("exclusiveMinimum", bounded .exclusiveMinimum),
    ("exclusiveMaximum", bounded .exclusiveMaximum), ("multipleOf", readStep)]

theorem bounded_readsBack {rule : Binary64 → NumberRule} {keyword : String} {b : Binary64}
    (hm : (keyword, bounded rule) ∈ numberTable) (he : (rule b).entry = (keyword, boundValue b))
    (ha : ∀ c a : Binary64, c.signedUnits = b.signedUnits →
      Rule.holds (rule c) a = Rule.holds (rule b) a) :
    ReadsBack numberTable NumberRule.entry (rule b) := by
  obtain ⟨n, c, -, hc, -, hs⟩ := readNumber_boundValue b
  refine ⟨bounded rule, rule c, ?_, ?_, fun a => ha c a hs⟩
  · rw [he]
    exact hm
  · rw [he, bounded, hc]
    rfl

theorem numberRule_readsBack {r : NumberRule} (hp : ∀ step, r = .multipleOf step →
    0 < step.signedUnits) : ReadsBack numberTable NumberRule.entry r := by
  cases r with
  | minimum b =>
      apply bounded_readsBack (by simp [numberTable]) rfl
      intro c a hs
      change decide (c.signedUnits ≤ a.signedUnits) = decide (b.signedUnits ≤ a.signedUnits)
      rw [hs]
  | maximum b =>
      apply bounded_readsBack (by simp [numberTable]) rfl
      intro c a hs
      change decide (a.signedUnits ≤ c.signedUnits) = decide (a.signedUnits ≤ b.signedUnits)
      rw [hs]
  | exclusiveMinimum b =>
      apply bounded_readsBack (by simp [numberTable]) rfl
      intro c a hs
      change decide (c.signedUnits < a.signedUnits) = decide (b.signedUnits < a.signedUnits)
      rw [hs]
  | exclusiveMaximum b =>
      apply bounded_readsBack (by simp [numberTable]) rfl
      intro c a hs
      change decide (a.signedUnits < c.signedUnits) = decide (a.signedUnits < b.signedUnits)
      rw [hs]
  | multipleOf step =>
      obtain ⟨n, c, -, hc, hu, hs⟩ := readNumber_boundValue step
      have hpos : 0 < c.signedUnits := hs ▸ hp step rfl
      refine ⟨readStep, .multipleOf c, by simp [numberTable, NumberRule.entry], ?_, fun a => ?_⟩
      · simp only [readStep, NumberRule.entry, hc]
        exact if_pos hpos
      · exact Binary64.isMultipleOf_congr hu

theorem constraint_ok_of_read {ρ : Type} {node : Members} {path keyword : String}
    {read : Json → Except Mistake (Option ρ)}
    (h : ∀ x, node.lookup keyword = some x → ∃ r, read x = .ok r) :
    ∃ cs, constraint node path keyword read = .ok cs := by
  rw [constraint]
  cases hx : node.lookup keyword with
  | none => exact ⟨_, rfl⟩
  | some x =>
      obtain ⟨r, hr⟩ := h x hx
      simp only [hr]
      cases r <;> exact ⟨_, rfl⟩

section Table

variable {ρ α : Type} [Rule ρ α] {table : RuleTable ρ} {entry : ρ → String × Json}
  {checks : List (Check ρ)} {node : Members}

/-- The node says under each keyword of the table what the rules are written as. -/
structure WrittenIn (table : RuleTable ρ) (entry : ρ → String × Json) (checks : List (Check ρ))
    (node : Members) : Prop where
  distinct : DistinctRules entry checks
  readsBack : ∀ r ∈ rules checks, ReadsBack table entry r
  lookup : ∀ e ∈ table, node.lookup e.1 = ((rules checks).map entry).lookup e.1

namespace WrittenIn

theorem lookup_rule (h : WrittenIn table entry checks node) {r : ρ} (hr : r ∈ rules checks)
    {read : Json → Except Mistake (Option ρ)} (he : ((entry r).1, read) ∈ table) :
    node.lookup (entry r).1 = some (entry r).2 := by
  rw [h.lookup _ he]
  refine Json.lookup_of_mem ?_ (List.mem_map_of_mem hr)
  rw [List.map_map]
  exact h.distinct

theorem rule_of_lookup (h : WrittenIn table entry checks node) (ht : (table.map (·.1)).Nodup)
    {e : String × (Json → Except Mistake (Option ρ))} (he : e ∈ table) {x : Json}
    (hx : node.lookup e.1 = some x) :
    ∃ r ∈ rules checks, ∃ s, e.2 x = .ok (some s) ∧ ∀ a : α, Rule.holds s a = Rule.holds r a := by
  rw [h.lookup e he] at hx
  obtain ⟨r, hr, hre⟩ := List.mem_map.1 (Json.mem_of_lookup hx)
  obtain ⟨read, s, hm, hs, ha⟩ := h.readsBack r hr
  rw [hre] at hm hs
  have hread : e.2 = read := Option.some.inj <|
    (Json.lookup_of_mem ht he).symm.trans (Json.lookup_of_mem ht hm)
  exact ⟨r, hr, s, hread ▸ hs, ha⟩

theorem allHold_iff (h : WrittenIn table entry checks node) (ht : (table.map (·.1)).Nodup) (a : α) :
    AllHold (tableRules table node) a ↔ AllHold (rules checks) a := by
  rw [allHold_tableRules]
  constructor
  · intro hall r hr
    obtain ⟨read, s, hm, hs, ha⟩ := h.readsBack r hr
    have hrule := hall _ hm s (Option.mem_toList.2
      (ruleAt?_eq_some.2 ⟨_, h.lookup_rule hr hm, hs⟩))
    rwa [ha] at hrule
  · intro hall e he s hs
    obtain ⟨x, hx, hs⟩ := ruleAt?_eq_some.1 (Option.mem_toList.1 hs)
    obtain ⟨r, hr, t, ht, ha⟩ := h.rule_of_lookup ht he hx
    cases hs.symm.trans ht
    rw [ha]
    exact hall r hr

theorem constraint_ok (h : WrittenIn table entry checks node) (ht : (table.map (·.1)).Nodup)
    (path : String) {e : String × (Json → Except Mistake (Option ρ))} (he : e ∈ table) :
    ∃ cs, constraint node path e.1 e.2 = .ok cs := by
  refine constraint_ok_of_read fun x hx => ?_
  obtain ⟨r, -, s, hs, -⟩ := h.rule_of_lookup ht he hx
  exact ⟨_, hs⟩

end WrittenIn

end Table

section Success

variable {node : Members} {path : String}

def Readable {ρ : Type} (table : RuleTable ρ) (node : Members) (path : String) : Prop :=
  ∀ e ∈ table, ∃ cs, constraint node path e.1 e.2 = .ok cs

theorem WrittenIn.readable {ρ α : Type} [Rule ρ α] {table : RuleTable ρ}
    {entry : ρ → String × Json} {checks : List (Check ρ)} (h : WrittenIn table entry checks node)
    (ht : (table.map (·.1)).Nodup) (path : String) : Readable table node path :=
  fun _ he => h.constraint_ok ht path he

theorem stringChecks_ok (h : Readable stringTable node path) :
    ∃ cs, stringChecks node path = .ok cs := by
  obtain ⟨min, hmin⟩ := h ("minLength", counted .minLength) (by simp [stringTable])
  obtain ⟨max, hmax⟩ := h ("maxLength", counted .maxLength) (by simp [stringTable])
  obtain ⟨pattern, hpattern⟩ := h ("pattern", readPattern) (by simp [stringTable])
  obtain ⟨format, hformat⟩ := h ("format", readFormat) (by simp [stringTable])
  refine ⟨min ++ max ++ pattern ++ format, ?_⟩
  rw [stringChecks, hmin, hmax, hpattern, hformat]
  rfl

theorem arrayChecks_ok (h : Readable arrayTable node path) :
    ∃ cs, arrayChecks node path = .ok cs := by
  obtain ⟨min, hmin⟩ := h ("minItems", counted .minItems) (by simp [arrayTable])
  obtain ⟨max, hmax⟩ := h ("maxItems", counted .maxItems) (by simp [arrayTable])
  obtain ⟨unique, hunique⟩ := h ("uniqueItems", readUnique) (by simp [arrayTable])
  refine ⟨min ++ max ++ unique, ?_⟩
  rw [arrayChecks, hmin, hmax, hunique]
  rfl

theorem objectChecks_ok (h : Readable objectTable node path) :
    ∃ cs, objectChecks node path = .ok cs := by
  obtain ⟨min, hmin⟩ := h ("minProperties", counted .minProperties) (by simp [objectTable])
  obtain ⟨max, hmax⟩ := h ("maxProperties", counted .maxProperties) (by simp [objectTable])
  refine ⟨min ++ max, ?_⟩
  rw [objectChecks, hmin, hmax]
  rfl

theorem exclude_ok (side : Side) {added : List (Check NumberRule)}
    (h : constraint node path side.keyword (bounded side.rule) = .ok added)
    (checks : List (Check NumberRule)) : ∃ cs, side.exclude node path checks = .ok cs := by
  rw [Side.exclude]
  split
  · exact ⟨_, rfl⟩
  · exact ⟨_, rfl⟩
  · exact ⟨_, rfl⟩
  · rw [h]
    exact ⟨_, rfl⟩

theorem numberChecks_ok_of_exclude
    (hmin : ∃ cs, constraint node path "minimum" (bounded .minimum) = .ok cs)
    (hmax : ∃ cs, constraint node path "maximum" (bounded .maximum) = .ok cs)
    (hex : ∀ (side : Side) checks, ∃ cs, side.exclude node path checks = .ok cs)
    (hstep : ∃ cs, constraint node path "multipleOf" readStep = .ok cs) :
    ∃ cs, numberChecks node path = .ok cs := by
  obtain ⟨min, hmin⟩ := hmin
  obtain ⟨max, hmax⟩ := hmax
  obtain ⟨lower, hlower⟩ := hex .lower (min ++ max)
  obtain ⟨upper, hupper⟩ := hex .upper lower
  obtain ⟨step, hstep⟩ := hstep
  refine ⟨upper ++ step, ?_⟩
  rw [numberChecks, hmin]
  simp only [hmax, hlower, hupper, hstep, bind, Except.bind]

theorem numberChecks_ok (h : Readable numberTable node path) :
    ∃ cs, numberChecks node path = .ok cs := by
  refine numberChecks_ok_of_exclude (h ("minimum", bounded .minimum) (by simp [numberTable]))
    (h ("maximum", bounded .maximum) (by simp [numberTable])) (fun side checks => ?_)
    (h ("multipleOf", readStep) (by simp [numberTable]))
  obtain ⟨added, ha⟩ := h (side.keyword, bounded side.rule)
    (by cases side <;> simp [numberTable, Side.keyword, Side.rule])
  exact exclude_ok side ha checks

theorem numberRules_eq_tableRules (h : ∀ side : Side, side.isStrict node = false) :
    numberRules node = tableRules numberTable node := by
  rw [numberRules_eq, Side.boundRule?, Side.boundRule?, h, h]
  simp [tableRules, numberTable, ruleAt?_bounded, Side.adjust, Side.exclusiveRule?,
    Side.inclusive, Side.bound, Side.keyword, Side.rule]

end Success

theorem stringChecks_of_written {node : Members} {checks : List (Check StringRule)}
    (h : WrittenIn stringTable StringRule.entry checks node) (path : String) :
    ∃ cs, stringChecks node path = .ok cs ∧
      ∀ s, AllHold (rules cs) s ↔ AllHold (rules checks) s := by
  have ht : (stringTable.map (·.1)).Nodup := by decide
  obtain ⟨cs, hcs⟩ := stringChecks_ok (h.readable ht path)
  refine ⟨cs, hcs, fun s => ?_⟩
  rw [rules_stringChecks hcs, h.allHold_iff ht]

theorem arrayChecks_of_written {node : Members} {checks : List (Check ArrayRule)}
    (h : WrittenIn arrayTable ArrayRule.entry checks node) (path : String) :
    ∃ cs, arrayChecks node path = .ok cs ∧
      ∀ items, AllHold (rules cs) items ↔ AllHold (rules checks) items := by
  have ht : (arrayTable.map (·.1)).Nodup := by decide
  obtain ⟨cs, hcs⟩ := arrayChecks_ok (h.readable ht path)
  refine ⟨cs, hcs, fun items => ?_⟩
  rw [rules_arrayChecks hcs, h.allHold_iff ht]

theorem objectChecks_of_written {node : Members} {checks : List (Check ObjectRule)}
    (h : WrittenIn objectTable ObjectRule.entry checks node) (path : String) :
    ∃ cs, objectChecks node path = .ok cs ∧
      ∀ count, AllHold (rules cs) count ↔ AllHold (rules checks) count := by
  have ht : (objectTable.map (·.1)).Nodup := by decide
  obtain ⟨cs, hcs⟩ := objectChecks_ok (h.readable ht path)
  refine ⟨cs, hcs, fun count => ?_⟩
  rw [rules_objectChecks hcs, h.allHold_iff ht]

theorem isStrict_of_written {node : Members} {checks : List (Check NumberRule)}
    (h : WrittenIn numberTable NumberRule.entry checks node) (side : Side) :
    side.isStrict node = false := by
  have ht : (numberTable.map (·.1)).Nodup := by decide
  rw [← Bool.not_eq_true, Side.isStrict_iff]
  intro hl
  obtain ⟨r, -, s, hs, -⟩ := h.rule_of_lookup ht (e := (side.keyword, bounded side.rule))
    (by cases side <;> simp [numberTable, Side.keyword, Side.rule]) hl
  cases hs

theorem numberChecks_of_written {node : Members} {checks : List (Check NumberRule)}
    (h : WrittenIn numberTable NumberRule.entry checks node) (path : String) :
    ∃ cs, numberChecks node path = .ok cs ∧
      ∀ a, AllHold (rules cs) a ↔ AllHold (rules checks) a := by
  have ht : (numberTable.map (·.1)).Nodup := by decide
  obtain ⟨cs, hcs⟩ := numberChecks_ok (h.readable ht path)
  refine ⟨cs, hcs, fun a => ?_⟩
  rw [rules_numberChecks hcs, numberRules_eq_tableRules (isStrict_of_written h), h.allHold_iff ht]

end SchemaCheck.Schema
