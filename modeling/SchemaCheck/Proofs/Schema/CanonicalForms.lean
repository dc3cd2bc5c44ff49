import Mathlib.Data.List.Sort
import SchemaCheck.Proofs.Schema.ArrayAlternatives
import SchemaCheck.Proofs.Schema.Canonical
import SchemaCheck.Proofs.Schema.DistinctRules
import SchemaCheck.Proofs.Validator.Defaults

namespace SchemaCheck.Schema

open Json (Members int)
open Check (rules)

/-- What the node says under the keywords of the table is read as rules that are written so. -/
def ReadsExactly {ρ : Type} (table : RuleTable ρ) (entry : ρ → String × Json) (node : Members) :
    Prop :=
  ∀ e ∈ table, ∀ x, node.lookup e.1 = some x → ∃ r, e.2 x = .ok (some r) ∧ entry r = (e.1, x)

section Table

variable {ρ : Type} {table : RuleTable ρ} {entry : ρ → String × Json} {node : Members}

theorem ReadsExactly.readable (h : ReadsExactly table entry node) (path : String) :
    Readable table node path := by
  intro e he
  rw [constraint]
  cases hl : node.lookup e.1 with
  | none => exact ⟨_, rfl⟩
  | some x =>
      obtain ⟨r, hr, -⟩ := h e he x hl
      simp only [hr]
      exact ⟨_, rfl⟩

theorem ReadsExactly.mem_iff (h : ReadsExactly table entry node) {key : String} {x : Json} :
    (key, x) ∈ (tableRules table node).map entry ↔
      key ∈ table.map (·.1) ∧ node.lookup key = some x := by
  simp only [List.mem_map, tableRules, List.mem_flatMap, Option.mem_toList, ruleAt?_eq_some]
  constructor
  · rintro ⟨r, ⟨e, he, y, hy, hr⟩, hx⟩
    obtain ⟨s, hs, hes⟩ := h e he y hy
    cases hr.symm.trans hs
    cases hes.symm.trans hx
    exact ⟨⟨e, he, rfl⟩, hy⟩
  · rintro ⟨⟨e, he, rfl⟩, hx⟩
    obtain ⟨r, hr, her⟩ := h e he x hx
    exact ⟨r, ⟨e, he, x, hx, hr⟩, her⟩

theorem ReadsExactly.lookup (h : ReadsExactly table entry node) {key : String}
    (hk : key ∈ table.map (·.1)) :
    ((tableRules table node).map entry).lookup key = node.lookup key := by
  cases hl : ((tableRules table node).map entry).lookup key with
  | some x => exact (h.mem_iff.1 (Json.mem_of_lookup hl)).2.symm
  | none =>
      symm
      refine Option.eq_none_iff_forall_ne_some.2 fun x hx => ?_
      have hm := List.lookup_eq_none_iff.1 hl _ (h.mem_iff.2 ⟨hk, hx⟩)
      simp at hm

theorem ReadsExactly.lookup_entries (h : ReadsExactly table entry node)
    {checks : List (Check ρ)} (hr : rules checks = tableRules table node)
    (hd : DistinctRules entry checks) {schema : Members} {key : String}
    (hk : key ∈ table.map (·.1)) (hs : schema.lookup key = none) :
    (addEntries schema (checks.map fun c => entry c.rule)).lookup key = node.lookup key := by
  rw [SchemaCheck.lookup_entries hd hs, hr, h.lookup hk]

end Table

theorem counted_exact {ρ : Type} {rule : Nat → ρ} {entry : ρ → String × Json} {keyword : String}
    {x : Json} (hx : SpellsCount x) (he : ∀ n, entry (rule n) = (keyword, int n)) :
    ∃ r, counted rule x = .ok (some r) ∧ entry r = (keyword, x) := by
  obtain ⟨n, -, rfl⟩ := hx
  exact ⟨rule n, counted_int rule n, he n⟩

/-- Integers of this size are doubles, and a fraction is never written as an integer. -/
theorem boundValue_of_spells {x : Json} (hx : SpellsBound x) :
    ∃ n, x = .number n ∧ boundValue n.toBinary64 = x := by
  rcases hx with ⟨i, rfl, hi⟩ | ⟨d, rfl, hd⟩
  · have hle : i.natAbs ≤ 1 <<< 53 := Nat.le_of_lt (Nat.lt_trans hi (by decide))
    refine ⟨_, rfl, ?_⟩
    rw [Json.Number.toBinary64, boundValue, Binary64.isWhole_ofInt hle,
      Binary64.units_ofInt_of_le hle, Binary64.truncate_ofInt hle, Bool.true_and, if_pos]
    exact decide_eq_true (Nat.mul_lt_mul_of_pos_right hi Binary64.unit_pos)
  · refine ⟨_, rfl, ?_⟩
    rw [Json.Number.toBinary64, boundValue, hd, Bool.false_and, if_neg (by decide)]

theorem bounded_exact {rule : Binary64 → NumberRule} {keyword : String} {x : Json}
    (hx : SpellsBound x) (he : ∀ b, (rule b).entry = (keyword, boundValue b)) :
    ∃ r, bounded rule x = .ok (some r) ∧ r.entry = (keyword, x) := by
  obtain ⟨n, rfl, hn⟩ := boundValue_of_spells hx
  exact ⟨rule n.toBinary64, rfl, (he _).trans (by rw [hn])⟩

theorem readStep_exact {x : Json} (hx : SpellsStep x) :
    ∃ r, readStep x = .ok (some r) ∧ r.entry = ("multipleOf", x) := by
  obtain ⟨hx, n, rfl, hpos⟩ := hx
  obtain ⟨m, hm, hn⟩ := boundValue_of_spells hx
  cases hm
  refine ⟨.multipleOf n.toBinary64, ?_, by rw [NumberRule.entry, hn]⟩
  simp only [readStep, readNumber, bind, Except.bind]
  exact if_pos hpos

structure ExactEntry {ρ : Type} (entry : ρ → String × Json)
    (e : String × (Json → Except Mistake (Option ρ))) (k : String × (Json → Prop)) : Prop where
  keyword : e.1 = k.1
  read : ∀ x, k.2 x → ∃ r, e.2 x = .ok (some r) ∧ entry r = (e.1, x)

abbrev ExactTable {ρ : Type} (table : RuleTable ρ) (entry : ρ → String × Json)
    (spelling : Spelling) : Prop :=
  List.Forall₂ (ExactEntry entry) table spelling

theorem ExactTable.readsExactly {ρ : Type} {table : RuleTable ρ} {entry : ρ → String × Json}
    {spelling : Spelling} (ht : ExactTable table entry spelling) {node : Members}
    (h : Spells spelling node) : ReadsExactly table entry node := by
  intro e he x hx
  obtain ⟨k, hk, hek⟩ := exists_of_forall₂_left ht he
  exact hek.read x (h k hk x (hek.keyword ▸ hx))

theorem exactTable_string : ExactTable stringTable StringRule.entry stringSpelling := by
  refine .cons ⟨rfl, fun x hx => ?_⟩ (.cons ⟨rfl, fun x hx => ?_⟩
    (.cons ⟨rfl, fun x hx => ?_⟩ (.cons ⟨rfl, fun x hx => ?_⟩ .nil)))
  · exact counted_exact hx fun _ => rfl
  · exact counted_exact hx fun _ => rfl
  · obtain ⟨p, rfl⟩ := hx
    exact ⟨.pattern p, readPattern_eq_some.2 ⟨_, p, rfl, p.ofSource?_source, rfl⟩, rfl⟩
  · obtain ⟨f, rfl⟩ := hx
    exact ⟨.format f, readFormat_eq_some.2 ⟨_, f, rfl, f.ofKeyword?_keyword, rfl⟩, rfl⟩

theorem exactTable_number : ExactTable numberTable NumberRule.entry numberSpelling := by
  refine .cons ⟨rfl, fun x hx => ?_⟩ (.cons ⟨rfl, fun x hx => ?_⟩
    (.cons ⟨rfl, fun x hx => ?_⟩ (.cons ⟨rfl, fun x hx => ?_⟩ (.cons ⟨rfl, fun x hx => ?_⟩ .nil))))
  · exact bounded_exact hx fun _ => rfl
  · exact bounded_exact hx fun _ => rfl
  · exact bounded_exact hx fun _ => rfl
  · exact bounded_exact hx fun _ => rfl
  · exact readStep_exact hx

theorem exactTable_array : ExactTable arrayTable ArrayRule.entry arraySpelling := by
  refine .cons ⟨rfl, fun x hx => ?_⟩ (.cons ⟨rfl, fun x hx => ?_⟩
    (.cons ⟨rfl, fun x hx => ?_⟩ .nil))
  · exact counted_exact hx fun _ => rfl
  · exact counted_exact hx fun _ => rfl
  · obtain rfl : x = .bool true := hx
    exact ⟨.uniqueItems, rfl, rfl⟩

theorem exactTable_object : ExactTable objectTable ObjectRule.entry objectSpelling := by
  refine .cons ⟨rfl, fun x hx => ?_⟩ (.cons ⟨rfl, fun x hx => ?_⟩ .nil)
  · exact counted_exact hx fun _ => rfl
  · exact counted_exact hx fun _ => rfl

/-- An exclusive bound is a number, so no inclusive one is made strict by it. -/
theorem isStrict_of_spells {node : Members} (h : Spells numberSpelling node) (side : Side) :
    side.isStrict node = false := by
  rw [← Bool.not_eq_true, Side.isStrict_iff]
  intro hl
  have hx : SpellsBound (.bool true) :=
    h (side.keyword, SpellsBound) (by cases side <;> simp [numberSpelling, Side.keyword]) _ hl
  rcases hx with ⟨i, hi, -⟩ | ⟨d, hd, -⟩
  · cases hi
  · cases hd

section Types

variable {path : String} {child : ChildCompiler} {follow : String → Result} {node : Members}

theorem ofType_orNull (t : TypeName) :
    Form.ofType (.array [.string t.name, .string "null"]) = .ok (.types [t, .null]) := by
  cases t <;> rfl

theorem KeysWithin.absent_of_typed {s : Shape} {t : TypeName} (ht : s.typeName? = some t)
    (keys : KeysWithin s.exportKeys node) {key : String}
    (hk : key ∉ Shape.typedKeys ++ annotationKeys) : node.lookup key = none := by
  refine keys.absent fun hm => hk ?_
  rcases List.mem_append.1 hm with hm | hm
  · exact List.mem_append_left _ (Shape.exportKeys_subset_typedKeys ht hm)
  · exact List.mem_append_right _ hm

theorem saysSame_of_typed {t : TypeName} {s : Shape} {nullable : Bool}
    (ht : s.typeName? = some t) (hnull : nullable = true → t ≠ .null)
    (keys : KeysWithin s.exportKeys node) (type : SaysType t nullable node)
    (hl : ∀ key ∈ s.exportKeys, key ≠ "type" → s.toMembers.lookup key = node.lookup key) :
    SaysSame ({ Validator.ofShape s with nullable } : Validator).base node := by
  have hd : ∀ key ∈ annotationKeys, key ∉ s.exportKeys := by
    have hall : ∀ key ∈ annotationKeys, key ∉ Shape.typedKeys := by decide
    exact fun key ha hm => hall key ha (Shape.exportKeys_subset_typedKeys ht hm)
  cases nullable with
  | false =>
      rw [Validator.base_of_not_nullable rfl]
      refine saysSame_of_keys hd keys (fun key hk => lookup_shape_of_notMem hk) fun key hk => ?_
      by_cases hne : key = "type"
      · subst hne
        exact (lookup_type_shape s).trans (by rw [ht, type]; rfl)
      · exact hl key hk hne
  | true =>
      rw [Validator.base_of_typed rfl ht (hnull rfl)]
      have htype : "type" ∈ s.exportKeys := by
        by_contra hm
        have hs := lookup_type_shape s
        rw [lookup_shape_of_notMem hm, ht] at hs
        cases hs
      refine saysSame_of_keys hd keys (fun key hk => ?_) fun key hk => ?_
      · have hne : key ≠ "type" := by
          rintro rfl
          exact hk htype
        rw [Json.lookup_put_of_ne hne]
        exact lookup_shape_of_notMem hk
      · rw [Json.lookup_put]
        split
        next he =>
          rw [he, type]
          rfl
        next hne => exact hl key hk hne

theorem nodeReproduced_typed {t : TypeName} {s : Shape} {nullable : Bool}
    (ht : s.typeName? = some t) (hnull : nullable = true → t ≠ .null)
    (keys : KeysWithin s.exportKeys node) (type : SaysType t nullable node)
    (hc : compileTyped path child node t = .ok (.ofShape s))
    (hl : ∀ key ∈ s.exportKeys, key ≠ "type" → s.toMembers.lookup key = node.lookup key) :
    NodeReproduced path child follow node := by
  have hlead : ∀ key ∈ leadingKeys, node.lookup key = none :=
    fun key hk => keys.absent_of_typed ht (by revert key; decide)
  have hconst : node.lookup "const" = none := keys.absent_of_typed ht (by decide)
  have henum : node.lookup "enum" = none := keys.absent_of_typed ht (by decide)
  have hsame := saysSame_of_typed ht hnull keys type hl
  cases nullable with
  | false =>
      exact ⟨.typed t, s, false, ofNode_typed hlead hconst type, nofun, .inr henum, hc, hsame⟩
  | true =>
      have hread : Form.ofNode node = .ok (.types [t, .null]) := by
        rw [ofNode_of_type hlead hconst type]
        exact ofType_orNull t
      have htypes : compileTypes path child node [t, .null] =
          .ok { Validator.ofShape s with nullable := true } := by
        rw [compileTypes_null (hnull rfl), hc]
        rfl
      exact ⟨.types [t, .null], s, true, hread, nofun, .inr henum, htypes, hsame⟩

theorem nodeReproduced_string {nullable : Bool}
    (keys : KeysWithin ("type" :: stringSpelling.keywords) node)
    (type : SaysType .string nullable node) (constraints : Spells stringSpelling node) :
    NodeReproduced path child follow node := by
  have h := exactTable_string.readsExactly constraints
  obtain ⟨checks, hc⟩ := stringChecks_ok (h.readable path)
  refine nodeReproduced_typed (s := .string checks) rfl (fun _ => by decide) keys type ?_
    fun key hk hne => ?_
  · rw [compileTyped, hc]
    rfl
  · exact h.lookup_entries (rules_stringChecks hc) (distinctRules_string node path checks hc)
      ((List.mem_cons.1 hk).resolve_left hne) (lookup_typed hne)

theorem nodeReproduced_number {nullable : Bool} (integer : Bool)
    (keys : KeysWithin ("type" :: numberSpelling.keywords) node)
    (type : SaysType (if integer then .integer else .number) nullable node)
    (constraints : Spells numberSpelling node) : NodeReproduced path child follow node := by
  have h := exactTable_number.readsExactly constraints
  obtain ⟨checks, hc⟩ := numberChecks_ok (h.readable path)
  have hr : rules checks = tableRules numberTable node := by
    rw [rules_numberChecks hc, numberRules_eq_tableRules (isStrict_of_spells constraints)]
  have he : compileTyped path child node (if integer then .integer else .number) =
      numberChecks node path >>= fun cs => .ok (.ofShape (.number integer cs)) := by
    cases integer <;> rfl
  refine nodeReproduced_typed (s := .number integer checks) rfl ?_ keys type ?_
    fun key hk hne => ?_
  · cases integer <;> nofun
  · rw [he, hc]
    rfl
  · exact h.lookup_entries hr (distinctRules_number node path checks hc).1
      ((List.mem_cons.1 hk).resolve_left hne) (lookup_typed hne)

theorem nodeReproduced_bare {t : TypeName} {s : Shape} {nullable : Bool}
    (ht : s.typeName? = some t) (hnull : nullable = true → t ≠ .null)
    (hs : s.exportKeys = ["type"]) (keys : KeysWithin ["type"] node)
    (type : SaysType t nullable node)
    (hc : compileTyped path child node t = .ok (.ofShape s)) :
    NodeReproduced path child follow node := by
  refine nodeReproduced_typed ht hnull (hs ▸ keys) type hc fun key hk hne => ?_
  rw [hs, List.mem_singleton] at hk
  exact absurd hk hne

theorem compileEach_reproduces {schemas : List Json} (h : ∀ x ∈ schemas, Reproduces child x)
    (keyword : String) (i : Nat) :
    ∃ vs, compileEach child keyword i schemas = .ok vs ∧ exportAll vs = schemas := by
  obtain ⟨vs, hvs, hall⟩ := compileEach_ok h keyword i
  rw [List.map_id'] at hvs
  refine ⟨vs, hvs, ?_⟩
  rwa [exportAll_eq_map, ← List.forall₂_eq_eq_eq, List.forall₂_map_left_iff]

theorem length_of_exportAll {vs : List Validator} {schemas : List Json}
    (h : exportAll vs = schemas) : vs.length = schemas.length := by
  rw [← h, exportAll_eq_map, List.length_map]

theorem nodeReproduced_array {nullable : Bool} {items : Json}
    (keys : KeysWithin ("type" :: "items" :: arraySpelling.keywords) node)
    (type : SaysType .array nullable node) (lookup : node.lookup "items" = some items)
    (single : ∀ positions, items ≠ .array positions) (element : Reproduces child items)
    (constraints : Spells arraySpelling node) : NodeReproduced path child follow node := by
  have h := exactTable_array.readsExactly constraints
  obtain ⟨checks, hc⟩ := arrayChecks_ok (h.readable path)
  obtain ⟨v, hv, hx⟩ := element ["items"]
  have hp : node.lookup "prefixItems" = none := keys.absent (by decide)
  have harray : compileArray path child node = compileList path child node := by
    cases items with
    | array positions => exact absurd rfl (single positions)
    | null | bool b | number n | string s | object members => rw [compileArray, lookup, hp]
  refine nodeReproduced_typed (s := .array v checks) rfl (fun _ => by decide) keys type ?_
    fun key hk hne => ?_
  · rw [compileTyped, harray, compileList, compileElement, lookup, hc]
    simp only [hv, bind, Except.bind]
  · rcases List.mem_cons.1 ((List.mem_cons.1 hk).resolve_left hne) with rfl | hk
    · rw [lookup_items_array, hx, lookup]
    · have hitems : key ≠ "items" := by
        rintro rfl
        exact absurd hk (by decide)
      refine h.lookup_entries (rules_arrayChecks hc) (distinctRules_array node path checks hc) hk ?_
      rw [Json.lookup_put_of_ne hitems, lookup_typed hne]

theorem nodeReproduced_tuple {nullable : Bool} {positions : List Json}
    (keys : KeysWithin ["type", "items", "minItems", "maxItems"] node)
    (type : SaysType .array nullable node)
    (lookup : node.lookup "items" = some (.array positions))
    (schemas : ∀ x ∈ positions, Reproduces child x)
    (min : node.lookup "minItems" = some (int positions.length))
    (max : node.lookup "maxItems" = some (int positions.length)) :
    NodeReproduced path child follow node := by
  obtain ⟨vs, hvs, hall⟩ := compileEach_reproduces schemas "items" 0
  refine nodeReproduced_typed (s := .tuple vs) rfl (fun _ => by decide) keys type ?_
    fun key hk hne => ?_
  · rw [compileTyped, compileArray, lookup]
    simp only [compileTuple, hvs, bind, Except.bind]
  · have hm : key ∈ ["items", "minItems", "maxItems"] := (List.mem_cons.1 hk).resolve_left hne
    rw [Shape.toMembers, lookup_addEntries (by simp) hm, hall, length_of_exportAll hall]
    simp only [List.mem_cons, List.not_mem_nil, or_false] at hm
    rcases hm with rfl | rfl | rfl
    · exact lookup.symm
    · exact min.symm
    · exact max.symm

theorem compileProperties_reproduces {properties : Members}
    (h : ∀ p ∈ properties, Reproduces child p.2) (required : List String) :
    ∃ fields, compileProperties child required properties = .ok fields ∧
      (fields.map fun f => (f.name, f.validator.toSchema)) = properties ∧
        ∀ f ∈ fields, f.required = required.contains f.name := by
  obtain ⟨fields, hfields, hall⟩ := compileProperties_ok h required
  refine ⟨fields, hfields, ?_, fun f hf => ?_⟩
  · rw [← List.forall₂_eq_eq_eq, List.forall₂_map_left_iff]
    exact hall.imp fun f p hp => Prod.ext hp.1 hp.2.2
  · obtain ⟨p, -, hname, hr, -⟩ := exists_of_forall₂_left hall hf
    rw [hr, hname]

theorem RequiresSome.exists_names {properties : Members} (h : RequiresSome properties node) :
    ∃ names : List String, requiredKeys node = .ok names ∧ names.Pairwise (· < ·) ∧
      (∀ name ∈ names, name ∈ Json.keys properties) ∧ node.lookup "required" =
        if names = [] then none else some (.array (names.map .string)) := by
  cases hl : node.lookup "required" with
  | none => exact ⟨[], by rw [requiredKeys, hl], List.Pairwise.nil, nofun, rfl⟩
  | some x =>
      obtain ⟨names, rfl, hne, hp, hd⟩ := h x hl
      refine ⟨names, ?_, hp, hd, (if_neg hne).symm⟩
      rw [requiredKeys, hl]
      exact strings_map _ names

theorem requiredNames_eq {fields : List Field} {names : List String}
    (hs : (fields.map (·.name)).Pairwise (· < ·)) (hn : names.Pairwise (· < ·))
    (hd : ∀ name ∈ names, name ∈ fields.map (·.name))
    (hr : ∀ f ∈ fields, f.required = names.contains f.name) :
    requiredNames fields = names.map .string := by
  have hnames : (fields.filter (·.required)).map (·.name) = names := by
    refine (hs.sublist ((List.filter_sublist).map _)).eq_of_mem_iff hn fun name => ?_
    simp only [List.mem_map, List.mem_filter]
    constructor
    · rintro ⟨f, ⟨hf, hreq⟩, rfl⟩
      rw [hr f hf] at hreq
      exact List.contains_iff_mem.1 hreq
    · intro hm
      obtain ⟨f, hf, rfl⟩ := List.mem_map.1 (hd name hm)
      exact ⟨f, ⟨hf, (hr f hf).trans (List.contains_iff_mem.2 hm)⟩, rfl⟩
  rw [← hnames, requiredNames, List.map_map]
  rfl

theorem nodeReproduced_object {nullable : Bool} {properties : Members}
    (keys : KeysWithin ("type" :: "properties" :: "required" :: objectSpelling.keywords) node)
    (type : SaysType .object nullable node)
    (lookup : node.lookup "properties" = some (.object properties))
    (sorted : Json.Sorted properties) (schemas : ∀ p ∈ properties, Reproduces child p.2)
    (required : RequiresSome properties node) (constraints : Spells objectSpelling node) :
    NodeReproduced path child follow node := by
  have h := exactTable_object.readsExactly constraints
  obtain ⟨checks, hc⟩ := objectChecks_ok (h.readable path)
  obtain ⟨names, hnames, hpair, hdeclared, hl⟩ := required.exists_names
  obtain ⟨fields, hfields, hprops, hreq⟩ := compileProperties_reproduces schemas names
  have hkeys : fields.map (·.name) = Json.keys properties := by
    rw [← hprops, Json.keys, List.map_map]
    rfl
  have hexport : exportFields [] fields = properties := by
    rw [exportFields_of_sorted (by rwa [List.nil_append, hprops]), List.nil_append, hprops]
  have hrequired : requiredNames fields = names.map .string :=
    requiredNames_eq (hkeys ▸ sorted) hpair (hkeys ▸ hdeclared) hreq
  have hadd : addRequired fields names = fields := by
    refine addRequired_of_named fun name hn => ?_
    obtain ⟨f, hf, rfl⟩ := List.mem_map.1 (hkeys ▸ hdeclared name hn)
    exact List.any_eq_true.2 ⟨f, hf, decide_eq_true rfl⟩
  have hunknown : compileUnknown path child node = .ok .accept := by
    rw [compileUnknown, keys.absent (by decide)]
  refine nodeReproduced_typed (s := .object fields .accept checks) rfl (fun _ => by decide) keys
    type ?_ fun key hk hne => ?_
  · rw [compileTyped, compileObject, hnames, malformedAt]
    simp only [compileFields, lookup, hfields, hunknown, hc, hadd, bind, Except.bind]
  · rcases List.mem_cons.1 ((List.mem_cons.1 hk).resolve_left hne) with rfl | hk
    · rw [lookup_object (by decide), lookup_properties, hexport, lookup]
    · rcases List.mem_cons.1 hk with rfl | hk
      · rw [lookup_object (by decide), lookup_required, hrequired, hl]
        simp only [List.map_eq_nil_iff]
      · have hfresh : ∀ k ∈ ObjectRule.keywords, k ∉ ["type", "properties", "required"] := by
          decide
        rw [toMembers_object]
        exact h.lookup_entries (rules_objectChecks hc) (distinctRules_object node path checks hc) hk
          (lookup_fieldMembers (hfresh key hk))

theorem nodeReproduced_untyped {form : Form} {s : Shape} (keys : KeysWithin s.exportKeys node)
    (hnot : "not" ∉ s.exportKeys) (read : Form.ofNode node = .ok form)
    (resolved : ∀ reference, form ≠ .ref reference)
    (listed : form.isEnum = true ∨ "enum" ∉ s.exportKeys)
    (hc : compileForm path child follow node form = .ok (.ofShape s))
    (hl : ∀ key ∈ s.exportKeys, s.toMembers.lookup key = node.lookup key) :
    NodeReproduced path child follow node := by
  have hd : ∀ key ∈ annotationKeys, key ∉ s.exportKeys := by
    have hall : ∀ key ∈ annotationKeys, key = "not" ∨ key ∉ Shape.allKeys := by decide
    intro key ha hm
    rcases hall key ha with rfl | hk
    · exact hnot hm
    · exact hk (s.exportKeys_subset hm)
  refine ⟨form, s, false, read, resolved, listed.imp id fun he => keys.absent ?_, hc, ?_⟩
  · rw [List.mem_append, not_or]
    exact ⟨he, by decide⟩
  · rw [Validator.base_of_not_nullable rfl]
    exact saysSame_of_keys hd keys (fun key hk => lookup_shape_of_notMem hk) hl

theorem nodeReproduced_any (keys : KeysWithin [] node) :
    NodeReproduced path child follow node := by
  have hread : Form.ofNode node = .ok .any :=
    ofNode_any (fun key hk => keys.absent (by revert key; decide))
      fun key hk => keys.absent (by revert key; decide)
  exact nodeReproduced_untyped (s := .any) keys nofun hread nofun (.inr nofun) rfl nofun

theorem nodeReproduced_const {value : Json} (keys : KeysWithin ["const"] node)
    (lookup : node.lookup "const" = some value) : NodeReproduced path child follow node := by
  have hread : Form.ofNode node = .ok (.const value) :=
    ofNode_const (fun key hk => keys.absent (by revert key; decide)) (keys.absent (by decide))
      lookup
  refine nodeReproduced_untyped (s := .literal value) keys (by simp [Shape.exportKeys]) hread nofun
    (.inr (by simp [Shape.exportKeys])) rfl (List.forall_mem_singleton.2 ?_)
  exact lookup.symm

theorem compileEnum_of_length {values : List Json} (h : values.length ≠ 1) :
    compileEnum values = .ofShape (.among values) := by
  match values, h with
  | [], _ => rfl
  | _ :: _ :: _, _ => rfl

theorem nodeReproduced_enum {values : List Json} (keys : KeysWithin ["enum"] node)
    (lookup : node.lookup "enum" = some (.array values)) (length : values.length ≠ 1) :
    NodeReproduced path child follow node := by
  have hread : Form.ofNode node = .ok (.enum values) :=
    ofNode_enum (fun key hk => keys.absent (by revert key; decide)) (keys.absent (by decide))
      lookup
  refine nodeReproduced_untyped (s := .among values) keys (by simp [Shape.exportKeys]) hread nofun
    (.inl rfl) (congrArg Except.ok (compileEnum_of_length length)) (List.forall_mem_singleton.2 ?_)
  exact lookup.symm

theorem nodeReproduced_combination {keyword : String} (shape : List Validator → Shape)
    {form : Form} {schemas : List Json} (hshape : ∀ vs, (shape vs).exportKeys = [keyword] ∧
      (shape vs).toMembers = [(keyword, .array (exportAll vs))])
    (hkey : keyword ∉ ["not", "enum"]) (keys : KeysWithin [keyword] node)
    (lookup : node.lookup keyword = some (.array schemas)) (two : 2 ≤ schemas.length)
    (parts : ∀ x ∈ schemas, Reproduces child x) (read : Form.ofNode node = .ok form)
    (resolved : ∀ reference, form ≠ .ref reference)
    (hc : compileForm path child follow node form =
      (compileEach child keyword 0 schemas).map (combine shape)) :
    NodeReproduced path child follow node := by
  obtain ⟨vs, hvs, hall⟩ := compileEach_reproduces parts keyword 0
  obtain ⟨hexport, hmembers⟩ := hshape vs
  simp only [List.mem_cons, List.not_mem_nil, or_false, not_or] at hkey
  refine nodeReproduced_untyped (s := shape vs) (hexport ▸ keys) ?_ read resolved (.inr ?_) ?_ ?_
  · rw [hexport, List.mem_singleton]
    exact Ne.symm hkey.1
  · rw [hexport, List.mem_singleton]
    exact Ne.symm hkey.2
  · rw [hc, hvs]
    exact congrArg Except.ok (combine_of_two (length_of_exportAll hall ▸ two))
  · rw [hexport, List.forall_mem_singleton, hmembers, hall, lookup, List.lookup_cons,
      beq_self_eq_true]

theorem nodeReproduced_oneOf {schemas : List Json} (keys : KeysWithin ["oneOf"] node)
    (lookup : node.lookup "oneOf" = some (.array schemas)) (two : 2 ≤ schemas.length)
    (parts : ∀ x ∈ schemas, Reproduces child x) : NodeReproduced path child follow node :=
  nodeReproduced_combination .exclusiveUnion (fun _ => ⟨rfl, rfl⟩) (by decide) keys
    lookup two parts (ofNode_oneOf (ne_nil_of_two two) (keys.absent (by decide)) lookup) nofun rfl

theorem nodeReproduced_allOf {schemas : List Json} (keys : KeysWithin ["allOf"] node)
    (lookup : node.lookup "allOf" = some (.array schemas)) (two : 2 ≤ schemas.length)
    (parts : ∀ x ∈ schemas, Reproduces child x) : NodeReproduced path child follow node :=
  nodeReproduced_combination .intersection (fun _ => ⟨rfl, rfl⟩) (by decide) keys
    lookup two parts (ofNode_allOf (ne_nil_of_two two)
      (fun key hk => keys.absent (by revert key; decide)) lookup) nofun rfl

theorem mentionsArray_of_listsType {m : Json} (h : ListsType m TypeName.array.name) :
    MentionsArray m := by
  obtain ⟨alternative, names, rfl, hn, hm⟩ := h
  rw [mergeableTypes?] at hn
  split at hn
  next =>
    split at hn
    next name ht =>
      cases hn
      obtain rfl := List.mem_singleton.1 hm
      exact .inl ht
    next items ht =>
      obtain ⟨x, hx, hs⟩ := exists_of_forall₂_left (forall₂_of_mapM hn).flip hm
      have he : x = .string "array" := by
        cases x <;> cases hs
        rfl
      exact .inr ⟨items, ht, he ▸ hx⟩
    next => cases hn
  next => cases hn

/-- Alternatives that mention no array are not merged. -/
theorem nodeReproduced_anyOf {schemas : List Json} (keys : KeysWithin ["anyOf"] node)
    (lookup : node.lookup "anyOf" = some (.array schemas)) (two : 2 ≤ schemas.length)
    (unmerged : ∀ x ∈ schemas, ¬ MentionsArray x) (parts : ∀ x ∈ schemas, Reproduces child x) :
    NodeReproduced path child follow node := by
  have hmerge : mergeAlternatives? schemas = none := by
    refine Option.eq_none_iff_forall_ne_some.2 fun merged hm => ?_
    obtain ⟨names, -, ha, hnames, -⟩ := mergeable_merged hm
    obtain ⟨m, hmem, hlists⟩ := (hnames _).1 ha
    exact unmerged m hmem (mentionsArray_of_listsType hlists)
  refine nodeReproduced_combination .union (fun _ => ⟨rfl, rfl⟩) (by decide) keys
    lookup two parts (ofNode_anyOf (ne_nil_of_two two) lookup) nofun ?_
  rw [compileForm, compileAnyOf, hmerge]

end Types

end SchemaCheck.Schema
