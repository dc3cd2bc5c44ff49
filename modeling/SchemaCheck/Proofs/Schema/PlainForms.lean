import SchemaCheck.Proofs.Schema.Plain
import SchemaCheck.Proofs.Schema.Rules

namespace SchemaCheck.Schema

open Json (Members)

theorem forall_countAt? {node : Members} {keyword : String} {P : Nat → Prop} :
    (∀ n, countAt? node keyword = some n → P n) ↔
      ∀ value, node.lookup keyword = some value → ∀ n, IsCount value n → P n := by
  simp only [countAt?_eq_some]
  constructor
  · rintro h value hl n ⟨m, rfl, hn⟩
    exact h n ⟨m, hl, hn⟩
  · rintro h n ⟨m, hl, hn⟩
    exact h _ hl n ⟨m, rfl, hn⟩

theorem forall_numberAt? {node : Members} {keyword : String} {P : Binary64 → Prop} :
    (∀ b, numberAt? node keyword = some b → P b) ↔
      ∀ value, node.lookup keyword = some value → ∀ n, value = .number n → P n.toBinary64 := by
  simp only [numberAt?_eq_some]
  constructor
  · rintro h value hl n rfl
    exact h _ ⟨n, hl, rfl⟩
  · rintro h b ⟨n, hl, rfl⟩
    exact h _ hl n rfl

theorem forall_valueAt {α : Type} {f : α → Json} {node : Members} {keyword : String}
    {P : α → Prop} : (∀ a, node.lookup keyword = some (f a) → P a) ↔
      ∀ value, node.lookup keyword = some value → ∀ a, value = f a → P a := by
  constructor
  · rintro h value hl a rfl
    exact h a hl
  · exact fun h a hl => h _ hl a rfl

theorem forall_of_lookup {node : Members} {keyword : String} {y : Json} {P : Json → Prop}
    (h : node.lookup keyword = some y) :
    (∀ value, node.lookup keyword = some value → P value) ↔ P y := by
  simp [h]

theorem asserted_single {node : Members} {k : Keyword} {y x : Json}
    (h : node.lookup k.name = some y) :
    (∀ l ∈ [k], ∀ value, node.lookup l.name = some value →
      l.Asserts Satisfies node value x) ↔ k.Asserts Satisfies node y x := by
  rw [List.forall_mem_singleton, forall_of_lookup h]

theorem faithfulForm_any {node : Members} (keys : SaysOnly [] node) :
    FaithfulForm node [] .any where
  read := ofNode_any (fun key hk => keys.absent key (by revert key; decide))
    fun key hk => keys.absent key (by revert key; decide)
  resolved := by simp
  listed := .inr (by decide)
  shape := by
    intro c u hu
    cases hu
    exact ⟨.any, rfl, fun x => iff_of_true Shape.accepts_any (by simp)⟩

theorem faithfulForm_const {node : Members} {value : Json} (keys : SaysOnly [.const] node)
    (lookup : node.lookup "const" = some value) : FaithfulForm node [.const] (.const value) where
  read := ofNode_const (fun key hk => keys.absent key (by revert key; decide))
    (keys.absent _ (by decide)) lookup
  resolved := by simp
  listed := .inr (by decide)
  shape := by
    intro c u hu
    cases hu
    refine ⟨.literal value, rfl, fun x => ?_⟩
    rw [Shape.accepts_literal, asserted_single (k := .const) lookup]
    rfl

theorem faithfulForm_enum {node : Members} {values : List Json} (keys : SaysOnly [.enum] node)
    (lookup : node.lookup "enum" = some (.array values)) :
    FaithfulForm node [.enum] (.enum values) where
  read := ofNode_enum (fun key hk => keys.absent key (by revert key; decide))
    (keys.absent _ (by decide)) lookup
  resolved := by simp
  listed := .inl rfl
  shape := by
    intro c u hu
    cases hu
    obtain ⟨shape, hs, ha⟩ := compileEnum_eq values
    refine ⟨shape, hs, fun x => ?_⟩
    rw [ha, asserted_single (k := .enum) lookup]
    rfl

def TypeName.Holds (x : Json) : TypeName → Prop
  | .object => ∃ members, x = .object members
  | .array => ∃ items, x = .array items
  | .string => ∃ s, x = .string s
  | .number => ∃ n, x = .number n
  | .integer => ∃ n, x = .number n ∧ n.isIntegral = true
  | .boolean => ∃ b, x = .bool b
  | .null => x = .null

theorem hasType_iff {t : TypeName} {x : Json} : HasType t.name x ↔ t.Holds x := by
  rw [HasType]
  cases x with
  | number n =>
      cases h : n.isIntegral <;> cases t <;>
        simp [Json.typeName, TypeName.name, TypeName.Holds, h]
  | null | bool b | string s | array items | object members =>
      cases t <;> simp [Json.typeName, TypeName.name, TypeName.Holds]

theorem asserted_type {node : Members} {ks : List Keyword} {t : TypeName} {x : Json}
    (type : node.lookup "type" = some (.string t.name)) :
    (∀ k ∈ .type :: ks, ∀ value, node.lookup k.name = some value →
      k.Asserts Satisfies node value x) ↔ t.Holds x ∧
        ∀ k ∈ ks, ∀ value, node.lookup k.name = some value → k.Asserts Satisfies node value x := by
  have ht : Keyword.type.Asserts Satisfies node (.string t.name) x ↔ t.Holds x := by
    rw [← hasType_iff]
    simp [Keyword.Asserts]
  rw [List.forall_mem_cons, Keyword.name, forall_of_lookup type, ht]

theorem faithfulForm_typed {node : Members} {ks : List Keyword} {t : TypeName}
    (keys : SaysOnly (.type :: ks) node)
    (type : node.lookup "type" = some (.string t.name))
    (others : ∀ key ∈ "const" :: leadingKeys,
      key ∉ (Keyword.type :: ks).map Keyword.name ++ "not" :: metadataKeys)
    (listed : Keyword.enum ∉ ks)
    (shape : ∀ (c : Context) u, compileTyped c.path (childOf c) node t = .ok u →
      ∃ shape, u = .ofShape shape ∧ ∀ x, shape.Accepts x ↔ t.Holds x ∧
        ∀ k ∈ ks, ∀ value, node.lookup k.name = some value → k.Asserts Satisfies node value x) :
    FaithfulForm node (.type :: ks) (.typed t) where
  read := ofNode_typed (fun key hk => keys.absent key (others key (List.mem_cons_of_mem _ hk)))
    (keys.absent _ (others _ (List.mem_cons_self ..))) type
  resolved := by simp
  listed := .inr (by simp [listed])
  shape := by
    intro c u hu
    obtain ⟨shape, hs, ha⟩ := shape c u hu
    refine ⟨shape, hs, fun x => ?_⟩
    rw [asserted_type type, ha]

theorem faithfulForm_string {node : Members}
    (keys : SaysOnly [.type, .minLength, .maxLength, .pattern, .format] node)
    (type : node.lookup "type" = some (.string "string")) :
    FaithfulForm node [.type, .minLength, .maxLength, .pattern, .format] (.typed .string) := by
  apply faithfulForm_typed (t := .string) keys type (by decide) (by decide)
  intro c u hu
  obtain ⟨checks, hchecks, hu⟩ := bind_eq_ok hu
  cases hu
  refine ⟨.string checks, rfl, fun x => ?_⟩
  rw [Shape.accepts_string, rules_stringChecks hchecks, TypeName.Holds, ← exists_and_right]
  refine exists_congr fun s => and_congr_right ?_
  rintro rfl
  rw [allHold_stringTable, forall_countAt?, forall_countAt?, forall_valueAt (f := .string),
    forall_valueAt (f := .string)]
  simp [Keyword.Asserts, Keyword.name]

theorem faithfulForm_number {node : Members} {t : TypeName} {integer : Bool}
    (keys : SaysOnly [.type, .minimum, .maximum, .exclusiveMinimum, .exclusiveMaximum] node)
    (type : node.lookup "type" = some (.string t.name))
    (holds : ∀ x, t.Holds x ↔ ∃ n, x = .number n ∧ (integer = true → n.isIntegral = true))
    (compiled : ∀ c : Context, compileTyped c.path (childOf c) node t = (do
      let checks ← numberChecks node c.path
      .ok (.ofShape (.number integer checks)))) :
    FaithfulForm node [.type, .minimum, .maximum, .exclusiveMinimum, .exclusiveMaximum]
      (.typed t) := by
  have hstep : ruleAt? node "multipleOf" readStep = none := by
    rw [ruleAt?, keys.absent _ (by decide)]
    rfl
  apply faithfulForm_typed keys type (by decide) (by decide)
  intro c u hu
  rw [compiled] at hu
  obtain ⟨checks, hchecks, hu⟩ := bind_eq_ok hu
  cases hu
  refine ⟨.number integer checks, rfl, fun x => ?_⟩
  rw [Shape.accepts_number, rules_numberChecks hchecks, holds, ← exists_and_right]
  refine exists_congr fun n => ?_
  rw [and_assoc]
  refine and_congr_right ?_
  rintro rfl
  refine and_congr_right fun _ => ?_
  rw [allHold_numberRules, hstep, forall_numberAt?, forall_numberAt?, forall_numberAt?,
    forall_numberAt?]
  simp [Keyword.Asserts, Keyword.name, Rule.AllHold]

theorem faithfulForm_boolean {node : Members} (keys : SaysOnly [.type] node)
    (type : node.lookup "type" = some (.string "boolean")) :
    FaithfulForm node [.type] (.typed .boolean) := by
  apply faithfulForm_typed (t := .boolean) keys type (by decide) (by decide)
  intro c u hu
  cases hu
  refine ⟨.boolean, rfl, fun x => ?_⟩
  rw [Shape.accepts_boolean, TypeName.Holds]
  simp

theorem faithfulForm_null {node : Members} (keys : SaysOnly [.type] node)
    (type : node.lookup "type" = some (.string "null")) :
    FaithfulForm node [.type] (.typed .null) := by
  apply faithfulForm_typed (t := .null) keys type (by decide) (by decide)
  intro c u hu
  cases hu
  refine ⟨.null, rfl, fun x => ?_⟩
  rw [Shape.accepts_null, TypeName.Holds]
  simp

theorem compileEach_enforces {c : Context} {keyword : String} {i : Nat} {schemas : List Json}
    {vs : List Validator} (hs : ∀ schema ∈ schemas, Faithful schema)
    (h : compileEach (childOf c) keyword i schemas = .ok vs) :
    List.Forall₂ Enforces vs schemas := by
  induction schemas generalizing i vs with
  | nil =>
      cases h
      exact .nil
  | cons schema rest ih =>
      rw [List.forall_mem_cons] at hs
      obtain ⟨v, hv, h⟩ := bind_eq_ok h
      obtain ⟨ws, hws, h⟩ := bind_eq_ok h
      cases h
      exact .cons (enforces_of_childOf hs.1 hv) (ih hs.2 hws)

theorem faithfulForm_combined {node : Members} {k : Keyword} {form : Form} {schemas : List Json}
    {shape : List Validator → Shape} (two : 2 ≤ schemas.length)
    (members : ∀ schema ∈ schemas, Faithful schema)
    (lookup : node.lookup k.name = some (.array schemas)) (read : Form.ofNode node = .ok form)
    (resolved : ∀ reference, form ≠ .ref reference) (listed : Keyword.enum ≠ k)
    (compiled : ∀ c : Context, compileForm c.path (childOf c) (targetOf c) node form =
      (compileEach (childOf c) k.name 0 schemas).map (combine shape))
    (accepts : ∀ vs x, List.Forall₂ (fun v schema => v.Accepts x ↔ Satisfies schema x) vs schemas →
      ((shape vs).Accepts x ↔ k.Asserts Satisfies node (.array schemas) x)) :
    FaithfulForm node [k] form where
  read := read
  resolved := resolved
  listed := .inr (by simpa using listed)
  shape := by
    intro c u hu
    rw [compiled] at hu
    obtain ⟨vs, hvs, rfl⟩ := map_eq_ok hu
    have hs := compileEach_enforces members hvs
    refine ⟨shape vs, combine_of_two (hs.length_eq ▸ two), fun x => ?_⟩
    rw [asserted_single lookup]
    exact accepts vs x (hs.imp fun _ _ he => he.accepts x)

theorem faithfulForm_oneOf {node : Members} {schemas : List Json} (keys : SaysOnly [.oneOf] node)
    (lookup : node.lookup "oneOf" = some (.array schemas)) (two : 2 ≤ schemas.length)
    (alternatives : ∀ schema ∈ schemas, Faithful schema) :
    FaithfulForm node [.oneOf] (.oneOf schemas) := by
  have hread : Form.ofNode node = .ok (.oneOf schemas) :=
    ofNode_oneOf (ne_nil_of_two two) (keys.absent _ (by decide)) lookup
  apply faithfulForm_combined (k := .oneOf) two alternatives lookup hread (by simp) (by decide)
    fun _ => rfl
  intro vs x h
  exact Shape.accepts_exclusiveUnion.trans (exactlyOne_iff h)

theorem faithfulForm_allOf {node : Members} {schemas : List Json} (keys : SaysOnly [.allOf] node)
    (lookup : node.lookup "allOf" = some (.array schemas)) (two : 2 ≤ schemas.length)
    (branches : ∀ schema ∈ schemas, Faithful schema) :
    FaithfulForm node [.allOf] (.allOf schemas) := by
  have hread : Form.ofNode node = .ok (.allOf schemas) :=
    ofNode_allOf (ne_nil_of_two two) (fun key hk => keys.absent key (by revert key; decide)) lookup
  apply faithfulForm_combined (k := .allOf) two branches lookup hread (by simp) (by decide)
    fun _ => rfl
  intro vs x h
  exact Shape.accepts_intersection.trans (forall_mem_iff h)

theorem faithfulForm_anyOf {node : Members} {schemas : List Json}
    (lookup : node.lookup "anyOf" = some (.array schemas)) (two : 2 ≤ schemas.length)
    (unmerged : mergeAlternatives? schemas = none)
    (alternatives : ∀ schema ∈ schemas, Faithful schema) :
    FaithfulForm node [.anyOf] (.anyOf schemas) := by
  have hread : Form.ofNode node = .ok (.anyOf schemas) := ofNode_anyOf (ne_nil_of_two two) lookup
  have hc : ∀ c : Context, compileForm c.path (childOf c) (targetOf c) node (.anyOf schemas) =
      (compileEach (childOf c) "anyOf" 0 schemas).map (combine .union) := by
    intro c
    rw [compileForm, compileAnyOf, unmerged]
  apply faithfulForm_combined (k := .anyOf) two alternatives lookup hread (by simp) (by decide) hc
  intro vs x h
  exact Shape.accepts_union.trans (exists_mem_iff h)

end SchemaCheck.Schema
