import Mathlib.Data.List.Perm.Subperm
import SchemaCheck.Proofs.Binary64.Nearest
import SchemaCheck.Proofs.Json.Location
import SchemaCheck.Proofs.Json.Order

namespace SchemaCheck.Json

theorem Number.sameValue_int (i j : Int) : (int i).sameValue (int j) = true ↔ i = j :=
  decide_eq_true_iff

theorem Number.signedUnits_eq {x y : Number} (h : x.sameValue y = true) :
    x.toBinary64.signedUnits = y.toBinary64.signedUnits := by
  cases x with
  | int i =>
      cases y with
      | int j => rw [(sameValue_int i j).1 h]
      | double y => exact of_decide_eq_true h
  | double x => cases y <;> exact of_decide_eq_true h

theorem Number.sameValue_of_signedUnits_eq {x y : Number}
    (h : x.toBinary64.signedUnits = y.toBinary64.signedUnits) :
    x.sameValue y = true ∨ ∃ i j, x = int i ∧ y = int j ∧ i ≠ j ∧ Binary64.Indistinct i j := by
  cases x with
  | int i =>
      cases y with
      | int j =>
          by_cases hij : i = j
          · exact .inl ((sameValue_int i j).2 hij)
          · exact .inr ⟨i, j, rfl, rfl, hij, Binary64.indistinct_iff.2 h⟩
      | double y => exact .inl (decide_eq_true h)
  | double x => cases y <;> exact .inl (decide_eq_true h)

theorem sameItems_iff {xs ys : List Json} :
    sameItems xs ys = true ↔ List.Forall₂ (fun x y => x.sameValue y = true) xs ys := by
  induction xs generalizing ys with
  | nil => cases ys <;> simp [sameItems]
  | cons x xs ih => cases ys <;> simp [sameItems, ih]

theorem sameMembers_iff {xs ys : Members} : sameMembers xs ys = true ↔
    List.Forall₂ (fun m n => m.1 = n.1 ∧ m.2.sameValue n.2 = true) xs ys := by
  induction xs generalizing ys with
  | nil => cases ys <;> simp [sameMembers]
  | cons m xs ih => cases ys <;> simp [sameMembers, ih]

theorem sameValue_number {x : Number} {y : Json} :
    (number x).sameValue y = true ↔ ∃ z, y = number z ∧ x.sameValue z = true := by
  cases y <;> simp [sameValue]

theorem sameValue_array {xs : List Json} {y : Json} : (array xs).sameValue y = true ↔
    ∃ ys, y = array ys ∧ List.Forall₂ (fun x y => x.sameValue y = true) xs ys := by
  cases y <;> simp [sameValue, sameItems_iff]

theorem sameValue_object {xs : Members} {y : Json} : (object xs).sameValue y = true ↔
    ∃ ys, y = object ys ∧
      List.Forall₂ (fun m n => m.1 = n.1 ∧ m.2.sameValue n.2 = true) xs ys := by
  cases y <;> simp [sameValue, sameMembers_iff]

theorem sameValue_scalar {x y : Json} (h : x.isScalar = true) (hn : ∀ n, x ≠ number n) :
    x.sameValue y = true ↔ x = y := by
  cases x with
  | null | bool b | string s => cases y <;> simp [sameValue]
  | number n => exact absurd rfl (hn n)
  | array items | object members => cases h

mutual

theorem sameValue_refl : ∀ x : Json, x.sameValue x = true
  | .null => rfl
  | .bool b => by simp [sameValue]
  | .number n => n.sameValue_refl
  | .string s => by simp [sameValue]
  | .array items => sameItems_refl items
  | .object members => sameMembers_refl members

theorem sameItems_refl : ∀ items : List Json, sameItems items items = true
  | [] => rfl
  | x :: rest => by rw [sameItems, sameValue_refl x, sameItems_refl rest]; rfl

theorem sameMembers_refl : ∀ members : Members, sameMembers members members = true
  | [] => rfl
  | (key, x) :: rest => by
      rw [sameMembers, sameValue_refl x, sameMembers_refl rest]
      simp

end

mutual

theorem sameValue_comm : ∀ x y : Json, x.sameValue y = y.sameValue x
  | .null, y => by cases y <;> rfl
  | .bool b, y => by cases y <;> simp [sameValue, eq_comm]
  | .number n, y => by
      cases y with
      | number m => exact n.sameValue_comm m
      | null | bool b | string s | array items | object members => rfl
  | .string s, y => by cases y <;> simp [sameValue, eq_comm]
  | .array xs, y => by
      cases y with
      | array ys => exact sameItems_comm xs ys
      | null | bool b | number n | string s | object members => rfl
  | .object xs, y => by
      cases y with
      | object ys => exact sameMembers_comm xs ys
      | null | bool b | number n | string s | array items => rfl

theorem sameItems_comm : ∀ xs ys : List Json, sameItems xs ys = sameItems ys xs
  | [], ys => by cases ys <;> rfl
  | x :: xs, [] => rfl
  | x :: xs, y :: ys => by rw [sameItems, sameItems, sameValue_comm x y, sameItems_comm xs ys]

theorem sameMembers_comm : ∀ xs ys : Members, sameMembers xs ys = sameMembers ys xs
  | [], ys => by cases ys <;> rfl
  | (k, x) :: xs, [] => rfl
  | (k, x) :: xs, (l, y) :: ys => by
      rw [sameMembers, sameMembers, sameValue_comm x y, sameMembers_comm xs ys]
      simp only [eq_comm]

end

/-- At some place the values hold integers that differ but become the same double. -/
inductive Blurred : Json → Json → Prop
  | number {i j : Int} (different : i ≠ j) (indistinct : Binary64.Indistinct i j) :
    Blurred (.number (.int i)) (.number (.int j))
  | item {xs ys : List Json} {x y : Json} (place : (x, y) ∈ xs.zip ys) (h : Blurred x y) :
    Blurred (.array xs) (.array ys)
  | member {xs ys : Members} {key : String} {x y : Json}
    (place : ((key, x), (key, y)) ∈ xs.zip ys) (h : Blurred x y) :
    Blurred (.object xs) (.object ys)

theorem Blurred.not_sameValue {x y : Json} (h : Blurred x y) : ¬x.sameValue y = true := by
  induction h with
  | number different _ => exact fun hs => different ((Number.sameValue_int _ _).1 hs)
  | item place _ ih => exact fun hs => ih ((List.forall₂_iff_zip.1 (sameItems_iff.1 hs)).2 place)
  | member place _ ih =>
      exact fun hs => ih ((List.forall₂_iff_zip.1 (sameMembers_iff.1 hs)).2 place).2

mutual

/-- The value in the middle is one of doubles where the outer ones hold different integers. -/
theorem sameValue_or_blurred : ∀ {x y z : Json}, x.sameValue y = true → y.sameValue z = true →
    x.sameValue z = true ∨ Blurred x z
  | .null, y, z, hxy, hyz => by
      cases (sameValue_scalar rfl (by simp)).1 hxy
      exact .inl hyz
  | .bool b, y, z, hxy, hyz => by
      cases (sameValue_scalar rfl (by simp)).1 hxy
      exact .inl hyz
  | .string s, y, z, hxy, hyz => by
      cases (sameValue_scalar rfl (by simp)).1 hxy
      exact .inl hyz
  | .number x, y, z, hxy, hyz => by
      obtain ⟨y, rfl, hxy⟩ := sameValue_number.1 hxy
      obtain ⟨z, rfl, hyz⟩ := sameValue_number.1 hyz
      have hunits := (Number.signedUnits_eq hxy).trans (Number.signedUnits_eq hyz)
      rcases Number.sameValue_of_signedUnits_eq hunits with hs | ⟨i, j, rfl, rfl, hd, hi⟩
      · exact .inl hs
      · exact .inr (.number hd hi)
  | .array xs, y, z, hxy, hyz => by
      obtain ⟨ys, rfl, -⟩ := sameValue_array.1 hxy
      obtain ⟨zs, rfl, -⟩ := sameValue_array.1 hyz
      rcases sameItems_or_blurred hxy hyz with hs | ⟨x, z, hp, hb⟩
      · exact .inl hs
      · exact .inr (.item hp hb)
  | .object xs, y, z, hxy, hyz => by
      obtain ⟨ys, rfl, -⟩ := sameValue_object.1 hxy
      obtain ⟨zs, rfl, -⟩ := sameValue_object.1 hyz
      rcases sameMembers_or_blurred hxy hyz with hs | ⟨key, x, z, hp, hb⟩
      · exact .inl hs
      · exact .inr (.member hp hb)

theorem sameItems_or_blurred : ∀ {xs ys zs : List Json}, sameItems xs ys = true →
    sameItems ys zs = true → sameItems xs zs = true ∨ ∃ x z, (x, z) ∈ xs.zip zs ∧ Blurred x z
  | [], [], zs, _, hyz => .inl hyz
  | x :: xs, y :: ys, [], _, hyz => nomatch hyz
  | x :: xs, y :: ys, z :: zs, hxy, hyz => by
      rw [sameItems, Bool.and_eq_true_iff] at hxy hyz
      rcases sameValue_or_blurred hxy.1 hyz.1 with hs | hb
      · rcases sameItems_or_blurred hxy.2 hyz.2 with hr | ⟨u, w, hp, hb⟩
        · exact .inl (by rw [sameItems, hs, hr]; rfl)
        · exact .inr ⟨u, w, List.mem_cons_of_mem _ hp, hb⟩
      · exact .inr ⟨x, z, List.mem_cons_self .., hb⟩

theorem sameMembers_or_blurred : ∀ {xs ys zs : Members}, sameMembers xs ys = true →
    sameMembers ys zs = true → sameMembers xs zs = true ∨
      ∃ key x z, ((key, x), (key, z)) ∈ xs.zip zs ∧ Blurred x z
  | [], [], zs, _, hyz => .inl hyz
  | (k, x) :: xs, (l, y) :: ys, [], _, hyz => nomatch hyz
  | (k, x) :: xs, (l, y) :: ys, (m, z) :: zs, hxy, hyz => by
      simp only [sameMembers, Bool.and_eq_true_iff, decide_eq_true_eq] at hxy hyz
      obtain ⟨⟨rfl, hxy⟩, hxys⟩ := hxy
      obtain ⟨⟨rfl, hyz⟩, hyzs⟩ := hyz
      rcases sameValue_or_blurred hxy hyz with hs | hb
      · rcases sameMembers_or_blurred hxys hyzs with hr | ⟨key, u, w, hp, hb⟩
        · exact .inl (by simp [sameMembers, hs, hr])
        · exact .inr ⟨key, u, w, List.mem_cons_of_mem _ hp, hb⟩
      · exact .inr ⟨k, x, z, List.mem_cons_self .., hb⟩

end

theorem Blurred.exists_leads {x y : Json} (h : Blurred x y) :
    ∃ segments i, x.Leads segments (int i) ∧ 1 <<< 53 ≤ i.natAbs := by
  induction h with
  | @number i j different indistinct =>
      refine ⟨[], i, .here _, Nat.le_of_not_lt fun hi => different ?_⟩
      exact Binary64.eq_of_indistinct hi indistinct
  | @item xs ys x y place _ ih =>
      obtain ⟨segments, i, hl, hi⟩ := ih
      obtain ⟨segment, hs⟩ := (Part.item (List.of_mem_zip place).1).exists_partAt
      exact ⟨segment :: segments, i, .step hs hl, hi⟩
  | @member xs ys key x y place _ ih =>
      obtain ⟨segments, i, hl, hi⟩ := ih
      exact ⟨key :: segments, i, .step (.member (List.of_mem_zip place).1) hl, hi⟩

/-- Equality of values is reflexive and symmetric. Values that both equal a third one are equal if
and only if they do not differ in integers that become the same double, of which those below 2⁵³ are
none. -/
theorem sameValue_equivalence (x y z : Json) :
    x.sameValue x = true ∧ (x.sameValue y = true → y.sameValue x = true) ∧
      (x.sameValue y = true → y.sameValue z = true → (x.sameValue z = true ↔ ¬Blurred x z)) ∧
      ((∀ segments i, x.Leads segments (int i) → i.natAbs < 1 <<< 53) → ¬Blurred x z) := by
  refine ⟨sameValue_refl x, fun hxy => ?_, fun hxy hyz => ⟨fun hs hb => ?_, fun hb => ?_⟩,
    fun hsmall hb => ?_⟩
  · rwa [sameValue_comm]
  · exact hb.not_sameValue hs
  · exact (sameValue_or_blurred hxy hyz).resolve_right hb
  · obtain ⟨segments, i, hl, hi⟩ := hb.exists_leads
    exact Nat.not_lt.2 hi (hsmall segments i hl)

/-- The double 2⁵³ equals the integer of that value and the one after it. -/
theorem not_transitive_at_pow_53 :
    (int (2 ^ 53)).sameValue (number (.double (.ofInt (2 ^ 53)))) = true ∧
    (number (.double (.ofInt (2 ^ 53)))).sameValue (int (2 ^ 53 + 1)) = true ∧
    ¬(int (2 ^ 53)).sameValue (int (2 ^ 53 + 1)) = true := by
  decide +kernel

theorem sameValue_equivalence_counts :
    (array [int 1, int 2]).sameValue (array [int 1, int 2]) = true ∧
      ¬Blurred (array [int 1, int 2]) (array [int 1, int 2]) := by
  have hxy : (array [int 1, int 2]).sameValue
      (array [number (.double (.ofInt 1)), int 2]) = true := by decide +kernel
  obtain ⟨-, hsymm, htrans, -⟩ := sameValue_equivalence (array [int 1, int 2])
    (array [number (.double (.ofInt 1)), int 2]) (array [int 1, int 2])
  have hs : (array [int 1, int 2]).sameValue (array [int 1, int 2]) = true := by decide
  exact ⟨hs, (htrans hxy (hsymm hxy)).1 hs⟩

theorem Sorted.first_eq {m n : String × Json} {xs ys : Members} (hx : Sorted (m :: xs))
    (hy : Sorted (n :: ys)) (hl : xs.length = ys.length)
    (hk : ∀ key ∈ keys (m :: xs), key ∈ keys (n :: ys)) : m.1 = n.1 := by
  have hle : n.1 ≤ m.1 := hy.first_le (hk m.1 (List.mem_cons_self ..))
  rcases lt_or_eq_of_le hle with hlt | heq
  · -- Otherwise the keys of the first would all stand after the first key of the second.
    have hsub : keys (m :: xs) ⊆ keys ys := by
      intro key hkey
      have hne : key ≠ n.1 := (lt_of_lt_of_le hlt (hx.first_le hkey)).ne'
      exact (List.mem_cons.1 (hk key hkey)).resolve_left hne
    have hlength := (hx.nodup.subperm hsub).length_le
    simp only [keys, List.length_map, List.length_cons] at hlength
    omega
  · exact heq.symm

/-- Objects are equal if they have as many members and each key of the first has an equal value in
the second. -/
theorem sameValue_object_iff {xs ys : Members} (hx : Sorted xs) (hy : Sorted ys) :
    (object xs).sameValue (object ys) = true ↔ xs.length = ys.length ∧
      ∀ key x, xs.lookup key = some x → ∃ y, ys.lookup key = some y ∧ x.sameValue y = true := by
  change sameMembers xs ys = true ↔ _
  induction xs generalizing ys with
  | nil => cases ys <;> simp [sameMembers]
  | cons m xs ih =>
      cases ys with
      | nil => simp [sameMembers]
      | cons n ys =>
          obtain ⟨k, x⟩ := m
          obtain ⟨l, y⟩ := n
          have hrest := ih (sorted_cons.1 hx).2 (sorted_cons.1 hy).2
          simp only [sameMembers, Bool.and_eq_true_iff, decide_eq_true_eq, hrest, List.length_cons,
            Nat.succ_inj]
          constructor
          · rintro ⟨⟨rfl, hv⟩, hl, hs⟩
            refine ⟨hl, fun key u hu => ?_⟩
            by_cases he : key = k
            · subst he
              rw [List.lookup_cons, beq_self_eq_true, Option.some.injEq] at hu
              exact ⟨y, by rw [List.lookup_cons, beq_self_eq_true], hu ▸ hv⟩
            · rw [List.lookup_cons, beq_eq_false_iff_ne.2 he] at hu ⊢
              exact hs key u hu
          · rintro ⟨hl, hs⟩
            have hfirst : k = l := hx.first_eq hy hl fun key hkey => by
              obtain ⟨u, hu⟩ := mem_keys.1 hkey
              obtain ⟨w, hw, -⟩ := hs key u hu
              exact mem_keys.2 ⟨w, hw⟩
            subst hfirst
            have hself : ∀ (v : Json) (rest : Members), ((k, v) :: rest).lookup k = some v := by
              intro v rest
              rw [List.lookup_cons, beq_self_eq_true]
            obtain ⟨w, hw, hv⟩ := hs k x (hself x xs)
            cases (hself y ys).symm.trans hw
            refine ⟨⟨rfl, hv⟩, hl, fun key u hu => ?_⟩
            rw [hx.lookup_rest] at hu
            rw [hy.lookup_rest]
            split at hu
            next => cases hu
            next he =>
              rw [if_neg he]
              exact hs key u hu

end SchemaCheck.Json
