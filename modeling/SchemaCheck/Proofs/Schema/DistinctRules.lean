import SchemaCheck.Proofs.Schema.Rules
import SchemaCheck.Proofs.Validator.WellFormed

namespace SchemaCheck.Schema

open Json (Members)
open Check (rules)

theorem nodup_tableRules {ρ : Type} {table : RuleTable ρ} {entry : ρ → String × Json}
    (ht : (table.map (·.1)).Nodup)
    (hr : ∀ e ∈ table, ∀ x r, e.2 x = .ok (some r) → (entry r).1 = e.1) (node : Members) :
    ((tableRules table node).map fun r => (entry r).1).Nodup := by
  suffices hs : ((tableRules table node).map fun r => (entry r).1).Sublist (table.map (·.1)) from
    hs.nodup ht
  clear ht
  induction table with
  | nil => exact List.Sublist.refl _
  | cons e rest ih =>
      rw [List.forall_mem_cons] at hr
      rw [tableRules, List.flatMap_cons, List.map_append, List.map_cons]
      cases ho : ruleAt? node e.1 e.2 with
      | none => exact (ih hr.2).cons _
      | some r =>
          obtain ⟨x, -, hx⟩ := ruleAt?_eq_some.1 ho
          rw [← hr.1 x r hx]
          exact (ih hr.2).cons_cons _

theorem counted_eq_some {ρ : Type} {rule : Nat → ρ} {x : Json} {r : ρ}
    (h : counted rule x = .ok (some r)) : ∃ n, r = rule n := by
  obtain ⟨n, -, h⟩ := map_eq_ok h
  exact ⟨n, (Option.some.inj h).symm⟩

theorem distinctRules_string (node : Members) (path : String) :
    Produces (DistinctRules StringRule.entry) (stringChecks node path) := by
  intro checks h
  rw [DistinctRules, rules_stringChecks h]
  refine nodup_tableRules (by decide) (fun e he x r hr => ?_) node
  simp only [stringTable, List.mem_cons, List.not_mem_nil, or_false] at he
  rcases he with rfl | rfl | rfl | rfl
  · obtain ⟨n, rfl⟩ := counted_eq_some hr
    rfl
  · obtain ⟨n, rfl⟩ := counted_eq_some hr
    rfl
  · obtain ⟨source, p, -, -, rfl⟩ := readPattern_eq_some.1 hr
    rfl
  · obtain ⟨keyword, f, -, -, rfl⟩ := readFormat_eq_some.1 hr
    rfl

theorem distinctRules_array (node : Members) (path : String) :
    Produces (DistinctRules ArrayRule.entry) (arrayChecks node path) := by
  intro checks h
  rw [DistinctRules, rules_arrayChecks h]
  refine nodup_tableRules (by decide) (fun e he x r hr => ?_) node
  simp only [arrayTable, List.mem_cons, List.not_mem_nil, or_false] at he
  rcases he with rfl | rfl | rfl
  · obtain ⟨n, rfl⟩ := counted_eq_some hr
    rfl
  · obtain ⟨n, rfl⟩ := counted_eq_some hr
    rfl
  · simp only [readUnique] at hr
    split at hr <;> cases hr
    rfl

theorem distinctRules_object (node : Members) (path : String) :
    Produces (DistinctRules ObjectRule.entry) (objectChecks node path) := by
  intro checks h
  rw [DistinctRules, rules_objectChecks h]
  refine nodup_tableRules (by decide) (fun e he x r hr => ?_) node
  simp only [objectTable, List.mem_cons, List.not_mem_nil, or_false] at he
  rcases he with rfl | rfl
  · obtain ⟨n, rfl⟩ := counted_eq_some hr
    rfl
  · obtain ⟨n, rfl⟩ := counted_eq_some hr
    rfl

theorem readStep_eq_some {x : Json} {r : NumberRule} (h : readStep x = .ok (some r)) :
    ∃ step, r = .multipleOf step ∧ 0 < step.signedUnits := by
  obtain ⟨step, -, h⟩ := bind_eq_ok h
  split at h
  · cases h
    exact ⟨step, rfl, by assumption⟩
  · cases h

theorem sublist_of_option {α : Type} {o : Option α} {key : α → String} {k : String}
    (h : ∀ a, o = some a → key a = k) : (o.toList.map key).Sublist [k] := by
  cases o with
  | none => exact List.nil_sublist _
  | some a => rw [Option.toList_some, List.map_singleton, h a rfl]

theorem sublist_bound (side : Side) (node : Members) :
    ((side.boundRule? node).toList.map fun r => r.entry.1).Sublist
      [if side.isStrict node then side.keyword else side.inclusive] := by
  apply sublist_of_option
  intro r hr
  obtain ⟨b, -, rfl⟩ := Option.map_eq_some_iff.1 hr
  cases side <;> cases Side.isStrict _ node <;> rfl

theorem sublist_exclusive (side : Side) (node : Members) :
    ((side.exclusiveRule? node).toList.map fun r => r.entry.1).Sublist
      (if side.isStrict node then [] else [side.keyword]) := by
  rw [Side.exclusiveRule?]
  split
  next h =>
    rw [numberAt?, Side.isStrict_iff.1 h]
    exact List.Sublist.refl _
  next =>
    apply sublist_of_option
    intro r hr
    obtain ⟨b, -, rfl⟩ := Option.map_eq_some_iff.1 hr
    cases side <;> rfl

theorem sublist_step (node : Members) :
    ((ruleAt? node "multipleOf" readStep).toList.map fun r => r.entry.1).Sublist
      ["multipleOf"] := by
  apply sublist_of_option
  intro r hr
  obtain ⟨x, -, hx⟩ := ruleAt?_eq_some.1 hr
  obtain ⟨step, rfl, -⟩ := readStep_eq_some hx
  rfl

theorem nodup_numberRules (node : Members) :
    ((numberRules node).map fun r => r.entry.1).Nodup := by
  have hs : ((numberRules node).map fun r => r.entry.1).Sublist
      ([if Side.lower.isStrict node then Side.lower.keyword else Side.lower.inclusive] ++
        [if Side.upper.isStrict node then Side.upper.keyword else Side.upper.inclusive] ++
        (if Side.lower.isStrict node then [] else [Side.lower.keyword]) ++
        (if Side.upper.isStrict node then [] else [Side.upper.keyword]) ++ ["multipleOf"]) := by
    rw [numberRules_eq]
    simp only [List.map_append]
    exact ((((sublist_bound .lower node).append (sublist_bound .upper node)).append
      (sublist_exclusive .lower node)).append (sublist_exclusive .upper node)).append
        (sublist_step node)
  refine hs.nodup ?_
  cases Side.lower.isStrict node <;> cases Side.upper.isStrict node <;> decide

theorem ne_multipleOf_of_bound {side : Side} {node : Members} {step : Binary64} :
    .multipleOf step ∉ (side.boundRule? node).toList := by
  intro h
  obtain ⟨b, -, hb⟩ := Option.map_eq_some_iff.1 (Option.mem_toList.1 h)
  cases side <;> cases hs : Side.isStrict _ node <;> rw [hs] at hb <;> cases hb

theorem ne_multipleOf_of_exclusive {side : Side} {node : Members} {step : Binary64} :
    .multipleOf step ∉ (side.exclusiveRule? node).toList := by
  intro h
  obtain ⟨b, -, hb⟩ := Option.map_eq_some_iff.1 (Option.mem_toList.1 h)
  cases side <;> cases hb

theorem step_pos_of_mem {node : Members} {step : Binary64}
    (h : .multipleOf step ∈ numberRules node) : 0 < step.signedUnits := by
  rw [numberRules_eq] at h
  simp only [List.mem_append, ne_multipleOf_of_bound, ne_multipleOf_of_exclusive, false_or] at h
  obtain ⟨x, -, hx⟩ := ruleAt?_eq_some.1 (Option.mem_toList.1 h)
  obtain ⟨_, hs, hpos⟩ := readStep_eq_some hx
  cases hs
  exact hpos

theorem distinctRules_number (node : Members) (path : String) :
    Produces (fun checks => DistinctRules NumberRule.entry checks ∧
      ∀ step, .multipleOf step ∈ rules checks → 0 < step.signedUnits) (numberChecks node path) := by
  intro checks h
  rw [DistinctRules, rules_numberChecks h]
  exact ⟨nodup_numberRules node, fun step => step_pos_of_mem⟩

end SchemaCheck.Schema
