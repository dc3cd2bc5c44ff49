import SchemaCheck.Proofs.Json.SameValue
import SchemaCheck.Proofs.Schema.Reading

namespace SchemaCheck

namespace Json

namespace Number

/-- The exact value, counted in units of 2⁻¹⁰⁷⁴. -/
def exactUnits : Number → Int
  | int i => i * Binary64.unit
  | double x => x.signedUnits

/-- Doubles, and integers that are doubles as they stand. -/
def IsSmall : Number → Prop
  | int i => i.natAbs ≤ 1 <<< 53
  | double _ => True

variable {x y : Number}

theorem IsSmall.signedUnits_toBinary64 (h : x.IsSmall) :
    x.toBinary64.signedUnits = x.exactUnits := by
  cases x with
  | int i => exact Binary64.signedUnits_ofInt_of_le h
  | double x => rfl

theorem IsSmall.toBinary64_le_iff (hx : x.IsSmall) (hy : y.IsSmall) :
    x.toBinary64 ≤ y.toBinary64 ↔ x.exactUnits ≤ y.exactUnits := by
  rw [← hx.signedUnits_toBinary64, ← hy.signedUnits_toBinary64]
  exact Iff.rfl

theorem IsSmall.toBinary64_lt_iff (hx : x.IsSmall) (hy : y.IsSmall) :
    x.toBinary64 < y.toBinary64 ↔ x.exactUnits < y.exactUnits := by
  rw [← hx.signedUnits_toBinary64, ← hy.signedUnits_toBinary64]
  exact Iff.rfl

theorem IsSmall.sameValue_iff (hx : x.IsSmall) (hy : y.IsSmall) :
    x.sameValue y = true ↔ x.exactUnits = y.exactUnits := by
  rw [← hx.signedUnits_toBinary64, ← hy.signedUnits_toBinary64]
  refine ⟨signedUnits_eq, fun h => (sameValue_of_signedUnits_eq h).resolve_right ?_⟩
  rintro ⟨i, j, rfl, rfl, hne, -⟩
  rw [hx.signedUnits_toBinary64, hy.signedUnits_toBinary64] at h
  exact hne (Int.eq_of_mul_eq_mul_right (Int.natCast_ne_zero.2 Binary64.unit_pos.ne') h)

end Number

/-- A value with exact numbers, in which an integer and a double may be the same. -/
inductive Meaning
  | null
  | bool (value : Bool)
  | number (units : Int)
  | string (value : String)
  | array (items : List Meaning)
  | object (members : List (String × Meaning))

mutual

def meaning : Json → Meaning
  | .null => .null
  | .bool b => .bool b
  | .number n => .number n.exactUnits
  | .string s => .string s
  | .array items => .array (meaningOfItems items)
  | .object members => .object (meaningOfMembers members)

def meaningOfItems : List Json → List Meaning
  | [] => []
  | x :: rest => meaning x :: meaningOfItems rest

def meaningOfMembers : Members → List (String × Meaning)
  | [] => []
  | (key, x) :: rest => (key, meaning x) :: meaningOfMembers rest

end

def IsSmall (x : Json) : Prop := ∀ segments n, x.Leads segments (.number n) → n.IsSmall

theorem IsSmall.number {n : Number} (h : (Json.number n).IsSmall) : n.IsSmall := h [] n (.here _)

theorem IsSmall.part {x y : Json} (h : x.IsSmall) (hp : Part y x) : y.IsSmall := by
  obtain ⟨segment, hs⟩ := hp.exists_partAt
  exact fun segments n hl => h (segment :: segments) n (.step hs hl)

mutual

theorem sameValue_iff_meaning : ∀ {x y : Json}, x.IsSmall → y.IsSmall →
    (x.sameValue y = true ↔ x.meaning = y.meaning)
  | .null, y, _, _ => by cases y <;> simp [sameValue, meaning]
  | .bool b, y, _, _ => by cases y <;> simp [sameValue, meaning]
  | .string s, y, _, _ => by cases y <;> simp [sameValue, meaning]
  | .number m, y, hx, hy => by
      cases y with
      | number n =>
          rw [sameValue, hx.number.sameValue_iff hy.number, meaning, meaning]
          simp
      | null | bool b | string s | array items | object members => simp [sameValue, meaning]
  | .array xs, y, hx, hy => by
      cases y with
      | array ys =>
          rw [sameValue, sameItems_iff_meaning (fun _ h => hx.part (.item h))
            fun _ h => hy.part (.item h), meaning, meaning]
          simp
      | null | bool b | number n | string s | object members => simp [sameValue, meaning]
  | .object xs, y, hx, hy => by
      cases y with
      | object ys =>
          rw [sameValue, sameMembers_iff_meaning (fun _ h => hx.part (.member h))
            fun _ h => hy.part (.member h), meaning, meaning]
          simp
      | null | bool b | number n | string s | array items => simp [sameValue, meaning]

theorem sameItems_iff_meaning : ∀ {xs ys : List Json}, (∀ x ∈ xs, x.IsSmall) →
    (∀ y ∈ ys, y.IsSmall) → (sameItems xs ys = true ↔ meaningOfItems xs = meaningOfItems ys)
  | [], ys, _, _ => by cases ys <;> simp [sameItems, meaningOfItems]
  | x :: xs, [], _, _ => by simp [sameItems, meaningOfItems]
  | x :: xs, y :: ys, hx, hy => by
      rw [List.forall_mem_cons] at hx hy
      rw [sameItems, Bool.and_eq_true_iff, sameValue_iff_meaning hx.1 hy.1,
        sameItems_iff_meaning hx.2 hy.2, meaningOfItems, meaningOfItems, List.cons.injEq]

theorem sameMembers_iff_meaning : ∀ {xs ys : Members}, (∀ m ∈ xs, m.2.IsSmall) →
    (∀ m ∈ ys, m.2.IsSmall) → (sameMembers xs ys = true ↔ meaningOfMembers xs = meaningOfMembers ys)
  | [], ys, _, _ => by cases ys <;> simp [sameMembers, meaningOfMembers]
  | x :: xs, [], _, _ => by simp [sameMembers, meaningOfMembers]
  | (k, x) :: xs, (l, y) :: ys, hx, hy => by
      rw [List.forall_mem_cons] at hx hy
      rw [sameMembers, Bool.and_eq_true_iff, Bool.and_eq_true_iff, decide_eq_true_eq,
        sameValue_iff_meaning hx.1 hy.1, sameMembers_iff_meaning hx.2 hy.2, meaningOfMembers,
        meaningOfMembers, List.cons.injEq, Prod.mk.injEq]

end

end Json

namespace Schema

open Json (Members)

/-- What bounds and equality assert of exact values. The other keywords compare none. -/
def Keyword.AssertsExactly (satisfies : Json → Json → Prop) (node : Members) (value x : Json) :
    Keyword → Prop
  | .const => value.meaning = x.meaning
  | .enum => ∃ y ∈ entries value, y.meaning = x.meaning
  | .minimum => ∀ b n, value = .number b → x = .number n →
      b.exactUnits ≤ n.exactUnits ∧
        (node.lookup "exclusiveMinimum" = some (.bool true) → b.exactUnits < n.exactUnits)
  | .maximum => ∀ b n, value = .number b → x = .number n →
      n.exactUnits ≤ b.exactUnits ∧
        (node.lookup "exclusiveMaximum" = some (.bool true) → n.exactUnits < b.exactUnits)
  | .exclusiveMinimum => ∀ b n, value = .number b → x = .number n → b.exactUnits < n.exactUnits
  | .exclusiveMaximum => ∀ b n, value = .number b → x = .number n → n.exactUnits < b.exactUnits
  | .uniqueItems => ∀ xs, value = .bool true → x = .array xs →
      xs.Pairwise fun y z => y.meaning ≠ z.meaning
  | k => k.Asserts satisfies node value x

theorem Keyword.asserts_iff_exactly {k : Keyword} {satisfies : Json → Json → Prop}
    {node : Members} {value x : Json} (hv : value.IsSmall) (hx : x.IsSmall) :
    k.Asserts satisfies node value x ↔ k.AssertsExactly satisfies node value x := by
  have hle : ∀ {y z : Json} {m n : Json.Number}, y.IsSmall → z.IsSmall → y = .number m →
      z = .number n → (m.toBinary64 ≤ n.toBinary64 ↔ m.exactUnits ≤ n.exactUnits) := by
    rintro y z m n hy hz rfl rfl
    exact hy.number.toBinary64_le_iff hz.number
  have hlt : ∀ {y z : Json} {m n : Json.Number}, y.IsSmall → z.IsSmall → y = .number m →
      z = .number n → (m.toBinary64 < n.toBinary64 ↔ m.exactUnits < n.exactUnits) := by
    rintro y z m n hy hz rfl rfl
    exact hy.number.toBinary64_lt_iff hz.number
  cases k with
  | const => exact Json.sameValue_iff_meaning hv hx
  | enum =>
      refine exists_congr fun y => and_congr_right fun hy => ?_
      exact Json.sameValue_iff_meaning (hv.part (mem_of_mem_entries hy)) hx
  | minimum =>
      refine forall₄_congr fun b n hb hn => ?_
      rw [hle hv hx hb hn, hlt hv hx hb hn]
  | maximum =>
      refine forall₄_congr fun b n hb hn => ?_
      rw [hle hx hv hn hb, hlt hx hv hn hb]
  | exclusiveMinimum => exact forall₄_congr fun b n hb hn => hlt hv hx hb hn
  | exclusiveMaximum => exact forall₄_congr fun b n hb hn => hlt hx hv hn hb
  | uniqueItems =>
      refine forall₃_congr fun xs _ hxs => ?_
      have hsmall : ∀ y ∈ xs, y.IsSmall := fun y hy => hx.part (hxs ▸ .item hy)
      refine List.Pairwise.iff_of_mem fun {y z} hy hz => ?_
      rw [Ne, ← Json.sameValue_iff_meaning (hsmall y hy) (hsmall z hz), Bool.not_eq_true]
  | type | minLength | maxLength | pattern | format | items | prefixItems | minItems | maxItems
  | properties | required | additionalProperties | minProperties | maxProperties | anyOf | oneOf
  | allOf | not => exact Iff.rfl

def SatisfiesExactly : Json → Json → Prop
  | .bool b, _ => b = true
  | .object node, x => ∀ (k : Keyword) (value : Json), node.lookup k.name = some value →
      k.AssertsExactly (fun schema y => ∃ _h : sizeOf schema < sizeOf (Json.object node),
        SatisfiesExactly schema y) node value x
  | _, _ => False
termination_by schema => sizeOf schema
decreasing_by simpa only [Json.object.sizeOf_spec] using _h

/-- Between small numbers, a schema asserts of exact values what it asserts of doubles. -/
theorem satisfies_iff_exactly {schema x : Json} (hs : schema.IsSmall) (hx : x.IsSmall) :
    Satisfies schema x ↔ SatisfiesExactly schema x := by
  induction hn : sizeOf schema using Nat.strongRecOn generalizing schema x with
  | ind n ih =>
      cases schema with
      | bool b => rw [Satisfies, SatisfiesExactly]
      | object node =>
          rw [Satisfies, SatisfiesExactly]
          refine forall₃_congr fun k value hl => ?_
          have hv : value.IsSmall := hs.part (.member (Json.mem_of_lookup hl))
          rw [← Keyword.asserts_iff_exactly hv hx]
          refine Keyword.asserts_congr fun part y hp hy => exists_congr fun hlt => ?_
          refine ih _ (hn ▸ hlt) ?_ ?_ rfl
          · exact hp.elim (fun h => h ▸ hv) hv.part
          · exact hy.elim (fun h => h ▸ hx) hx.part
      | null | number n | string s | array items => simp [Satisfies, SatisfiesExactly]

end Schema

end SchemaCheck
