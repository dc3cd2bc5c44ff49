import SchemaCheck.Proofs.Binary64.Multiples
import SchemaCheck.Proofs.Schema.NullSpellings
import SchemaCheck.Proofs.Schema.Reread
import SchemaCheck.Schema.Strict

namespace SchemaCheck.Schema

open Json (Members int)
open Binary64 (ofInt Indistinct)
open Rule (AllHold)

/-- The node says that the value is an integer, and nothing else but constraints of numbers. -/
structure IntegerNode (node : Members) : Prop where
  type : node.lookup "type" = some (.string "integer")
  only : ∀ key ∈ Json.keys node, key ∈ "type" :: NumberRule.keywords

namespace IntegerNode

variable {node : Members} (h : IntegerNode node)
include h

theorem absent (key : String) (hk : key ∉ "type" :: NumberRule.keywords) :
    node.lookup key = none := by
  by_contra hl
  exact hk (h.only key (Json.mem_keys.2 (Option.ne_none_iff_exists'.1 hl)))

theorem hasTypeOnly : HasTypeOnly .integer node where
  type := h.type
  absent := fun key hk => h.absent key (by revert key; decide)

theorem compileNode {c : Context} {checks : List (Check NumberRule)}
    (hc : numberChecks node c.path = .ok checks) :
    compileNode c (.object node) = .ok (.ofShape (.number true checks)) := by
  rw [h.hasTypeOnly.compileNode, compileTyped, hc]
  change finish c.path (childOf c) node (.ofShape (.number true checks)) = _
  rw [finish_of_absent fun key hk => h.absent key (by revert key; decide), withMetadata,
    h.absent "default" (by decide), h.absent "description" (by decide),
    h.absent "title" (by decide)]
  rfl

theorem prune_eq : prune (.object node) = .object node := by
  have ho : isObjectSchema node = false := by
    simp only [isObjectSchema, h.type]
    decide
  rw [prune, ho]
  rfl

theorem exists_compile (hc : ∃ checks, numberChecks node "#" = .ok checks) (options : Options)
    (definitions : Members) :
    ∃ v, compile (.object node) options definitions = .ok v ∧
      ∀ n : Int, v.isValid (int n) = true ↔ AllHold (numberRules node) (ofInt n) := by
  obtain ⟨checks, hc⟩ := hc
  refine ⟨.ofShape (.number true checks), ?_, fun n => ?_⟩
  · rw [compile, h.prune_eq, ite_self]
    exact h.compileNode hc
  · rw [Validator.isValid_iff, Validator.accepts_ofShape, Shape.accepts_number,
      rules_numberChecks hc]
    constructor
    · rintro ⟨_, ⟨⟩, -, ha⟩
      exact ha
    · intro ha
      exact ⟨.int n, rfl, fun _ => rfl, ha⟩

end IntegerNode

def stepNode (k : Int) : Members := [("multipleOf", int k), ("type", .string "integer")]

theorem integerNode_stepNode (k : Int) : IntegerNode (stepNode k) where
  type := rfl
  only := by
    change ∀ key ∈ ["multipleOf", "type"], _
    decide

section Step

variable {k : Int} (hk : 0 < k) (hmax : k ≤ 2 ^ 53) (options : Options) (definitions : Members)
include hk hmax

theorem readStep_int : readStep (int k) = .ok (some (.multipleOf (ofInt k))) := by
  have hpos : 0 < (ofInt k).signedUnits := by
    rw [Binary64.signedUnits_ofInt_of_le (by omega)]
    exact Int.mul_pos hk (Int.natCast_pos.2 Binary64.unit_pos)
  exact if_pos hpos

theorem numberRules_stepNode : numberRules (stepNode k) = [.multipleOf (ofInt k)] := by
  have hr : ruleAt? (stepNode k) "multipleOf" readStep = some (.multipleOf (ofInt k)) :=
    ruleAt?_eq_some.2 ⟨_, rfl, readStep_int hk hmax⟩
  rw [numberRules, hr]
  rfl

theorem exists_compile_stepNode :
    ∃ v, compile (.object (stepNode k)) options definitions = .ok v ∧
      ∀ n : Int, v.isValid (int n) = true ↔ (ofInt n).isMultipleOf (ofInt k) = true := by
  have hstep : ∃ cs, constraint (stepNode k) "#" "multipleOf" readStep = .ok cs := by
    refine constraint_ok_of_read fun x hx => ?_
    cases hx
    exact ⟨_, readStep_int hk hmax⟩
  have hc : ∃ cs, numberChecks (stepNode k) "#" = .ok cs :=
    numberChecks_ok_of_exclude ⟨_, rfl⟩ ⟨_, rfl⟩ (fun side _ => by cases side <;> exact ⟨_, rfl⟩)
      hstep
  obtain ⟨v, hv, ha⟩ := (integerNode_stepNode k).exists_compile hc options definitions
  refine ⟨v, hv, fun n => ?_⟩
  rw [ha, numberRules_stepNode hk hmax]
  simp [AllHold, Rule.holds]

/-- All multiples up to 2⁵³ are accepted, and otherwise only integers near one. No others are
accepted if and only if the step is below a third of 2³¹. -/
theorem isValid_stepNode :
    ∃ v, compile (.object (stepNode k)) options definitions = .ok v ∧
      (∀ n : Int, n.natAbs ≤ 2 ^ 53 → k ∣ n → v.isValid (int n) = true) ∧
      (∀ n : Int, n.natAbs ≤ 2 ^ 53 → v.isValid (int n) = true →
        ∃ m, k ∣ m ∧ 2 ^ 31 * (n - m).natAbs ≤ 3 * k.natAbs) ∧
      ((∀ n : Int, n.natAbs ≤ 2 ^ 53 → (v.isValid (int n) = true ↔ k ∣ n)) ↔ 3 * k < 2 ^ 31) := by
  obtain ⟨v, hv, ha⟩ := exists_compile_stepNode hk hmax options definitions
  refine ⟨v, hv, fun n hn hd => ?_, fun n hn hx => ?_, ?_⟩
  · exact (ha n).2 (Binary64.isMultipleOf_of_dvd hk hmax hn hd)
  · exact Binary64.exists_near_of_isMultipleOf hk hmax hn ((ha n).1 hx)
  · simp only [ha]
    exact Binary64.isMultipleOf_exact_iff hk hmax

end Step

theorem isValid_stepNode_three :
    ∃ v, compile (.object (stepNode 3)) {} [] = .ok v ∧
      v.isValid (int (-6)) = true ∧ v.isValid (int 7) = false := by
  obtain ⟨v, hv, hmultiples, -, hexact⟩ := isValid_stepNode (k := 3) (by decide) (by decide) {} []
  have hx : ∀ n : Int, n.natAbs ≤ 2 ^ 53 → (v.isValid (int n) = true ↔ 3 ∣ n) :=
    hexact.2 (by decide)
  refine ⟨v, hv, hmultiples (-6) (by decide) (by decide), ?_⟩
  rw [Bool.eq_false_iff, Ne, hx 7 (by decide)]
  decide

/-- 1 is no multiple of 10¹⁰, and its quotient is within the tolerance of 0. -/
theorem not_dvd_tenBillion :
    ∃ v, compile (.object (stepNode 10000000000)) {} [] = .ok v ∧
      v.isValid (int 1) = true ∧ ¬ (10000000000 : Int) ∣ 1 := by
  obtain ⟨v, hv, ha⟩ := exists_compile_stepNode (k := 10000000000) (by decide) (by decide) {} []
  exact ⟨v, hv, (ha 1).2 (by decide +kernel), by decide⟩

/-- How a bound is written: as a number that is included or one that is not, or with a flag that
tells which. -/
inductive BoundSpelling
  | inclusive
  | exclusive
  | flagged (strict : Bool)

namespace BoundSpelling

def isStrict : BoundSpelling → Bool
  | inclusive => false
  | exclusive => true
  | flagged strict => strict

def inclusive? (bound : Int) : BoundSpelling → Option Json
  | inclusive => some (int bound)
  | exclusive => none
  | flagged _ => some (int bound)

def exclusive? (bound : Int) : BoundSpelling → Option Json
  | inclusive => none
  | exclusive => some (int bound)
  | flagged strict => some (.bool strict)

def Orders (s : BoundSpelling) (i j : Int) : Prop := if s.isStrict then i < j else i ≤ j

/-- The order that the spelling asks for, with indistinct integers as equal ones. -/
def OrdersRounded (s : BoundSpelling) (i j : Int) : Prop :=
  if s.isStrict then i < j ∧ ¬Indistinct i j else i ≤ j ∨ Indistinct i j

instance (s : BoundSpelling) (i j : Int) : Decidable (s.Orders i j) :=
  inferInstanceAs (Decidable (if s.isStrict then i < j else i ≤ j))

theorem ordersRounded_iff {s : BoundSpelling} {i j : Int} (h : Indistinct i j → i = j) :
    s.OrdersRounded i j ↔ s.Orders i j := by
  rw [OrdersRounded, Orders]
  split
  · exact and_iff_left_of_imp fun hlt hi => absurd (h hi) (ne_of_lt hlt)
  · exact or_iff_left_of_imp fun hi => Int.le_of_eq (h hi)

end BoundSpelling

def entry (key : String) (value : Option Json) : Members := value.toList.map (key, ·)

def boundedNode (lower upper : BoundSpelling) (a b : Int) : Members :=
  entry "exclusiveMaximum" (upper.exclusive? b) ++ entry "exclusiveMinimum" (lower.exclusive? a) ++
    entry "maximum" (upper.inclusive? b) ++ entry "minimum" (lower.inclusive? a) ++
    [("type", .string "integer")]

structure SaysBound (side : Side) (s : BoundSpelling) (bound : Int) (node : Members) : Prop where
  inclusive : node.lookup side.inclusive = s.inclusive? bound
  exclusive : node.lookup side.keyword = s.exclusive? bound

def Side.Admits (s : BoundSpelling) (bound n : Int) : Side → Prop
  | .lower => s.OrdersRounded bound n
  | .upper => s.OrdersRounded n bound

theorem holds_adjust_iff {side : Side} {s : BoundSpelling} {bound n : Int} :
    Rule.holds (side.adjust s.isStrict (side.bound (ofInt bound))) (ofInt n) = true ↔
      side.Admits s bound n := by
  cases side with
  | lower | upper =>
      rw [Side.Admits, BoundSpelling.OrdersRounded, ← Binary64.ofInt_le_iff,
        ← Binary64.ofInt_lt_iff]
      cases s.isStrict <;> exact decide_eq_true_iff

section Says

variable {side : Side} {s : BoundSpelling} {bound : Int} {node : Members}
  (h : SaysBound side s bound node)
include h

theorem SaysBound.constraint_ok (path : String) :
    ∃ cs, constraint node path side.inclusive (bounded side.bound) = .ok cs := by
  refine constraint_ok_of_read fun x hx => ?_
  rw [h.inclusive] at hx
  cases s with
  | inclusive | flagged strict =>
      cases hx
      exact ⟨_, rfl⟩
  | exclusive => cases hx

theorem SaysBound.exclude_ok (path : String) (checks : List (Check NumberRule)) :
    ∃ cs, side.exclude node path checks = .ok cs := by
  have he := h.exclusive
  cases s with
  | inclusive =>
      rw [Side.exclude, he]
      exact ⟨_, rfl⟩
  | exclusive =>
      have hc : ∃ cs, constraint node path side.keyword (bounded side.rule) = .ok cs :=
        constraint_ok_of_read fun x hx => by
          cases he.symm.trans hx
          exact ⟨_, rfl⟩
      obtain ⟨added, ha⟩ := hc
      exact Schema.exclude_ok side ha checks
  | flagged strict =>
      rw [Side.exclude, he]
      cases strict <;> exact ⟨_, rfl⟩

theorem SaysBound.rules_eq :
    (side.boundRule? node).toList ++ (side.exclusiveRule? node).toList =
      [side.adjust s.isStrict (side.bound (ofInt bound))] := by
  have hi := h.inclusive
  have he := h.exclusive
  rw [Side.boundRule?, Side.exclusiveRule?, Side.isStrict, numberAt?, numberAt?, hi, he]
  cases s with
  | inclusive | flagged strict => rfl
  | exclusive => cases side <;> rfl

theorem SaysBound.allHold_iff {n : Int} :
    AllHold (side.boundRule? node).toList (ofInt n) ∧
      AllHold (side.exclusiveRule? node).toList (ofInt n) ↔ side.Admits s bound n := by
  rw [← allHold_append, h.rules_eq, ← holds_adjust_iff]
  exact List.forall_mem_singleton

end Says

section Bounds

variable (lower upper : BoundSpelling) (a b : Int) (options : Options) (definitions : Members)

theorem integerNode_boundedNode : IntegerNode (boundedNode lower upper a b) where
  type := by
    cases lower <;> cases upper <;> rfl
  only := by
    cases lower <;> cases upper <;> simp [boundedNode, entry, Json.keys, NumberRule.keywords,
      BoundSpelling.inclusive?, BoundSpelling.exclusive?]

theorem saysBound_lower : SaysBound .lower lower a (boundedNode lower upper a b) where
  inclusive := by
    cases lower <;> cases upper <;> rfl
  exclusive := by
    cases lower <;> cases upper <;> rfl

theorem saysBound_upper : SaysBound .upper upper b (boundedNode lower upper a b) where
  inclusive := by
    cases lower <;> cases upper <;> rfl
  exclusive := by
    cases lower <;> cases upper <;> rfl

theorem lookup_multipleOf_boundedNode :
    (boundedNode lower upper a b).lookup "multipleOf" = none := by
  cases lower <;> cases upper <;> rfl

theorem allHold_boundedNode {n : Int} :
    AllHold (numberRules (boundedNode lower upper a b)) (ofInt n) ↔
      lower.OrdersRounded a n ∧ upper.OrdersRounded n b := by
  have hm : ruleAt? (boundedNode lower upper a b) "multipleOf" readStep = none := by
    rw [ruleAt?, lookup_multipleOf_boundedNode]
    rfl
  have hlower : _ ↔ lower.OrdersRounded a n := (saysBound_lower lower upper a b).allHold_iff
  have hupper : _ ↔ upper.OrdersRounded n b := (saysBound_upper lower upper a b).allHold_iff
  rw [← hlower, ← hupper, numberRules_eq, hm]
  simp only [allHold_append]
  constructor
  · rintro ⟨⟨⟨⟨hl, hu⟩, hl'⟩, hu'⟩, -⟩
    exact ⟨⟨hl, hl'⟩, hu, hu'⟩
  · rintro ⟨⟨hl, hl'⟩, hu, hu'⟩
    exact ⟨⟨⟨⟨hl, hu⟩, hl'⟩, hu'⟩, fun _ hr => absurd hr List.not_mem_nil⟩

theorem numberChecks_boundedNode :
    ∃ checks, numberChecks (boundedNode lower upper a b) "#" = .ok checks := by
  have hlower := saysBound_lower lower upper a b
  have hupper := saysBound_upper lower upper a b
  refine numberChecks_ok_of_exclude (hlower.constraint_ok "#") (hupper.constraint_ok "#")
    (fun side checks => ?_) (constraint_ok_of_read fun x hx => ?_)
  · cases side with
    | lower => exact hlower.exclude_ok "#" checks
    | upper => exact hupper.exclude_ok "#" checks
  · rw [lookup_multipleOf_boundedNode] at hx
    cases hx

theorem exists_compile_boundedNode :
    ∃ v, compile (.object (boundedNode lower upper a b)) options definitions = .ok v ∧
      ∀ n : Int, v.isValid (int n) = true ↔
        lower.OrdersRounded a n ∧ upper.OrdersRounded n b := by
  obtain ⟨v, hv, hx⟩ := (integerNode_boundedNode lower upper a b).exists_compile
    (numberChecks_boundedNode lower upper a b) options definitions
  exact ⟨v, hv, fun n => (hx n).trans (allHold_boundedNode lower upper a b)⟩

/-- The integers between the bounds are accepted, where those that share the nearest double with a
bound are taken for it. Bounds below 2⁵³ share it with no other integer. -/
theorem isValid_boundedNode :
    ∃ v, compile (.object (boundedNode lower upper a b)) options definitions = .ok v ∧
      (∀ n : Int, v.isValid (int n) = true ↔
        lower.OrdersRounded a n ∧ upper.OrdersRounded n b) ∧
      (a.natAbs < 2 ^ 53 → b.natAbs < 2 ^ 53 → ∀ n : Int, v.isValid (int n) = true ↔
        lower.Orders a n ∧ upper.Orders n b) := by
  obtain ⟨v, hv, hx⟩ := exists_compile_boundedNode lower upper a b options definitions
  refine ⟨v, hv, hx, fun ha hb n => ?_⟩
  rw [hx, BoundSpelling.ordersRounded_iff fun h => Binary64.eq_of_indistinct ha h,
    BoundSpelling.ordersRounded_iff fun h => (Binary64.eq_of_indistinct hb h.symm).symm]

end Bounds

theorem isValid_boundedNode_oneToThree :
    ∃ v, compile (.object (boundedNode .inclusive (.flagged true) 1 3)) {} [] = .ok v ∧
      v.isValid (int 1) = true ∧ v.isValid (int 3) = false := by
  obtain ⟨v, hv, -, hexact⟩ := isValid_boundedNode .inclusive (.flagged true) 1 3 {} []
  have hx := hexact (by decide) (by decide)
  refine ⟨v, hv, (hx 1).2 (by decide), ?_⟩
  rw [Bool.eq_false_iff, Ne, hx 3]
  decide

/-- Bounds of 2⁵³ + 1 are rounded to 2⁵³, and let it through. -/
theorem not_between_pow_53 :
    ∃ v, compile (.object (boundedNode .inclusive .inclusive (2 ^ 53 + 1) (2 ^ 53 + 1))) {} [] =
        .ok v ∧
      v.isValid (int (2 ^ 53)) = true ∧ ¬ (2 ^ 53 + 1 : Int) ≤ 2 ^ 53 := by
  obtain ⟨v, hv, hx⟩ :=
    exists_compile_boundedNode .inclusive .inclusive (2 ^ 53 + 1) (2 ^ 53 + 1) {} []
  refine ⟨v, hv, (hx _).2 ⟨.inr Binary64.indistinct_pow_53.symm, .inl ?_⟩, ?_⟩
  · decide
  · decide

end SchemaCheck.Schema
