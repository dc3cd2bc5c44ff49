import Mathlib.Data.List.Forall2
import Mathlib.Data.String.Basic
import SchemaCheck.Proofs.Json.Members

namespace SchemaCheck.Json

def Sorted (members : Members) : Prop := (keys members).Pairwise (· < ·)

instance (members : Members) : Decidable (Sorted members) :=
  inferInstanceAs (Decidable ((keys members).Pairwise (· < ·)))

theorem sorted_cons {m : String × Json} {rest : Members} :
    Sorted (m :: rest) ↔ (∀ key ∈ keys rest, m.1 < key) ∧ Sorted rest :=
  List.pairwise_cons

theorem Sorted.nodup {members : Members} (h : Sorted members) : (keys members).Nodup :=
  h.imp fun hlt => ne_of_lt hlt

theorem mem_keys {key : String} {members : Members} :
    key ∈ keys members ↔ ∃ x, members.lookup key = some x := by
  induction members with
  | nil => simp [keys]
  | cons m rest ih =>
      obtain ⟨k, v⟩ := m
      rw [keys, List.map_cons, List.mem_cons, ← keys, ih, List.lookup_cons]
      by_cases hk : key = k
      · simp [hk]
      · simp [hk, beq_eq_false_iff_ne.2 hk]

theorem mem_keys_put {other key : String} {value : Json} {members : Members}
    (h : other ∈ keys (put key value members)) : other = key ∨ other ∈ keys members := by
  obtain ⟨x, hx⟩ := mem_keys.1 h
  rw [lookup_put] at hx
  split at hx
  next he => exact .inl he
  next => exact .inr (mem_keys.2 ⟨x, hx⟩)

theorem Sorted.put {members : Members} (h : Sorted members) (key : String) (value : Json) :
    Sorted (put key value members) := by
  induction members with
  | nil => exact List.pairwise_singleton _ _
  | cons m rest ih =>
      obtain ⟨k, v⟩ := m
      obtain ⟨hfirst, hrest⟩ := sorted_cons.1 h
      rw [Json.put]
      split
      next he =>
        subst he
        exact sorted_cons.2 ⟨hfirst, hrest⟩
      next he =>
        split
        next hlt =>
          refine sorted_cons.2 ⟨fun other ho => ?_, h⟩
          rcases List.mem_cons.1 ho with rfl | ho
          · exact hlt
          · exact lt_trans hlt (hfirst other ho)
        next hlt =>
          refine sorted_cons.2 ⟨fun other ho => ?_, ih hrest⟩
          rcases mem_keys_put ho with rfl | ho
          · exact lt_of_le_of_ne (not_lt.1 hlt) (Ne.symm he)
          · exact hfirst other ho

theorem put_of_lt {members : Members} {key : String} (h : ∀ other ∈ keys members, other < key)
    (value : Json) : put key value members = members ++ [(key, value)] := by
  induction members with
  | nil => rfl
  | cons m rest ih =>
      obtain ⟨k, v⟩ := m
      have hk : k < key := h k (List.mem_cons_self ..)
      rw [Json.put, if_neg (ne_of_gt hk), if_neg (lt_asymm hk),
        ih fun other ho => h other (List.mem_cons_of_mem _ ho), List.cons_append]

theorem Sorted.first_le {m : String × Json} {rest : Members} (h : Sorted (m :: rest)) {key : String}
    (hk : key ∈ keys (m :: rest)) : m.1 ≤ key := by
  rcases List.mem_cons.1 hk with rfl | hk
  · exact le_refl _
  · exact le_of_lt ((sorted_cons.1 h).1 key hk)

theorem Sorted.lookup_rest {m : String × Json} {rest : Members} (h : Sorted (m :: rest))
    (key : String) : rest.lookup key = if key = m.1 then none else (m :: rest).lookup key := by
  obtain ⟨k, v⟩ := m
  split
  next he =>
    subst he
    refine Option.eq_none_iff_forall_ne_some.2 fun x hx => ?_
    exact lt_irrefl _ ((sorted_cons.1 h).1 _ (mem_keys.2 ⟨x, hx⟩))
  next he => rw [List.lookup_cons, beq_eq_false_iff_ne.2 he]

theorem eq_of_lookup_eq {xs ys : Members} (hx : Sorted xs) (hy : Sorted ys)
    (h : ∀ key, xs.lookup key = ys.lookup key) : xs = ys := by
  have hk : ∀ key, key ∈ keys xs ↔ key ∈ keys ys := by
    intro key
    rw [mem_keys, mem_keys, h]
  induction xs generalizing ys with
  | nil =>
      cases ys with
      | nil => rfl
      | cons m rest => exact absurd ((hk m.1).2 (List.mem_cons_self ..)) List.not_mem_nil
  | cons m xs ih =>
      cases ys with
      | nil => exact absurd ((hk m.1).1 (List.mem_cons_self ..)) List.not_mem_nil
      | cons n ys =>
          have hfirst : m.1 = n.1 :=
            le_antisymm (hx.first_le ((hk n.1).2 (List.mem_cons_self ..)))
              (hy.first_le ((hk m.1).1 (List.mem_cons_self ..)))
          have hrest : ∀ key, xs.lookup key = ys.lookup key := by
            intro key
            rw [hx.lookup_rest, hy.lookup_rest, hfirst, h]
          have hm : m = n := by
            obtain ⟨k, v⟩ := m
            obtain ⟨l, w⟩ := n
            cases hfirst
            have hv := h k
            simp only [List.lookup_cons, beq_self_eq_true, Option.some.injEq] at hv
            rw [hv]
          rw [hm, ih (sorted_cons.1 hx).2 (sorted_cons.1 hy).2 hrest]
          intro key
          rw [mem_keys, mem_keys, hrest]

mutual

/-- Every object in the value has its members in order. -/
def isOrdered : Json → Bool
  | .array items => orderedItems items
  | .object members => decide (Sorted members) && orderedMembers members
  | _ => true

def orderedItems : List Json → Bool
  | [] => true
  | x :: rest => x.isOrdered && orderedItems rest

def orderedMembers : Members → Bool
  | [] => true
  | (_, x) :: rest => x.isOrdered && orderedMembers rest

end

theorem isOrdered_array {items : List Json} :
    (Json.array items).isOrdered = true ↔ ∀ x ∈ items, x.isOrdered = true := by
  rw [isOrdered]
  induction items with
  | nil => simp [orderedItems]
  | cons x rest ih => simp [orderedItems, ih]

theorem orderedMembers_iff {members : Members} :
    orderedMembers members = true ↔ ∀ m ∈ members, m.2.isOrdered = true := by
  induction members with
  | nil => simp [orderedMembers]
  | cons m rest ih =>
      obtain ⟨key, x⟩ := m
      rw [orderedMembers, Bool.and_eq_true_iff, ih, List.forall_mem_cons]

theorem isOrdered_object {members : Members} :
    (Json.object members).isOrdered = true ↔
      Sorted members ∧ ∀ m ∈ members, m.2.isOrdered = true := by
  rw [isOrdered, Bool.and_eq_true_iff, decide_eq_true_iff, orderedMembers_iff]

theorem Part.isOrdered {x y : Json} (h : Part x y) (hy : y.isOrdered = true) :
    x.isOrdered = true := by
  cases h with
  | item h => exact isOrdered_array.1 hy x h
  | member h => exact (isOrdered_object.1 hy).2 _ h

def isScalar : Json → Bool
  | .array _ => false
  | .object _ => false
  | _ => true

/-- The second value is the first with members added to its objects, at any depth. For each of them
`Added` holds of its key and value; what stands inside of it belongs to that value. -/
inductive Extends (Added : String → Json → Prop) : Json → Json → Prop
  | scalar {x : Json} (h : x.isScalar = true) : Extends Added x x
  | array {xs ys : List Json} (length : xs.length = ys.length)
      (items : ∀ x y, (x, y) ∈ xs.zip ys → Extends Added x y) :
      Extends Added (.array xs) (.array ys)
  | object {xs ys : Members} (sorted : Sorted ys)
      (kept : ∀ key x, xs.lookup key = some x → ∃ y, ys.lookup key = some y)
      (related : ∀ key x y, xs.lookup key = some x → ys.lookup key = some y → Extends Added x y)
      (added : ∀ key y, xs.lookup key = none → ys.lookup key = some y → Added key y) :
      Extends Added (.object xs) (.object ys)

namespace Extends

variable {Added Added' : String → Json → Prop} {x y : Json}

theorem refl (h : x.isOrdered = true) : Extends Added x x := by
  induction hn : sizeOf x using Nat.strongRecOn generalizing x with
  | ind n ih =>
      subst hn
      have hpart : ∀ {y}, Part y x → Extends Added y y := fun hp =>
        ih _ hp.sizeOf_lt (hp.isOrdered h) rfl
      cases x with
      | array items =>
          refine .array rfl fun y z hyz => ?_
          obtain ⟨i, hi, he⟩ := List.mem_iff_getElem.1 hyz
          rw [List.getElem_zip] at he
          cases he
          exact hpart (.item (List.getElem_mem _))
      | object members =>
          refine .object (isOrdered_object.1 h).1 (fun key y hy => ⟨y, hy⟩) ?_ ?_
          · intro key y z hy hz
            cases hy.symm.trans hz
            exact hpart (.member (mem_of_lookup hy))
          · intro key y hn hy
            cases hn.symm.trans hy
      | null | bool b | number n | string s => exact .scalar rfl

theorem mono (h : ∀ key d, Added key d → Added' key d) (hx : Extends Added x y) :
    Extends Added' x y := by
  induction hx with
  | scalar hs => exact .scalar hs
  | array length _ ih => exact .array length ih
  | object sorted kept _ added ih =>
      exact .object sorted kept ih fun key y hn hy => h key y (added key y hn hy)

theorem eq_of_none (h : ∀ key d, ¬ Added key d) (hx : Extends Added x y)
    (ho : x.isOrdered = true) : y = x := by
  induction hx with
  | scalar _ => rfl
  | @array xs ys length items ih =>
      have hitems : List.Forall₂ (fun x y => y = x) xs ys := by
        refine List.forall₂_iff_zip.2 ⟨length, fun {x y} hxy => ih x y hxy ?_⟩
        exact Part.isOrdered (.item (List.of_mem_zip hxy).1) ho
      rw [show ys = xs by simpa [eq_comm, List.forall₂_eq_eq_eq] using hitems]
  | @object xs ys sorted kept related added ih =>
      have hl : ∀ key, ys.lookup key = xs.lookup key := by
        intro key
        cases hk : xs.lookup key with
        | some x =>
            obtain ⟨y, hy⟩ := kept key x hk
            rw [hy, ih key x y hk hy (Part.isOrdered (.member (mem_of_lookup hk)) ho)]
        | none =>
            refine Option.eq_none_iff_forall_ne_some.2 fun y hy => ?_
            exact h key y (added key y hk hy)
      rw [eq_of_lookup_eq sorted (isOrdered_object.1 ho).1 hl]

end Extends

end SchemaCheck.Json
