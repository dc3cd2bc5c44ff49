import SchemaCheck.Pointer
import SchemaCheck.Proofs.Json.Members

namespace SchemaCheck.Json

mutual

/-- Scalars and empty containers have height 0, and a container is one higher than its parts. -/
def height : Json → Nat
  | .array items => heightOfItems items
  | .object members => heightOfMembers members
  | _ => 0

def heightOfItems : List Json → Nat
  | [] => 0
  | x :: rest => max (x.height + 1) (heightOfItems rest)

def heightOfMembers : Members → Nat
  | [] => 0
  | (_, x) :: rest => max (x.height + 1) (heightOfMembers rest)

end

mutual

def references : Json → List String
  | .array items => referencesOfItems items
  | .object members => referencesOfMembers members
  | _ => []

def referencesOfItems : List Json → List String
  | [] => []
  | x :: rest => x.references ++ referencesOfItems rest

def referencesOfMembers : Members → List String
  | [] => []
  | (key, x) :: rest =>
    (if key = "$ref" then x.string?.toList else []) ++ x.references ++ referencesOfMembers rest

end

theorem heightOfItems_le_iff {items : List Json} {n : Nat} :
    heightOfItems items ≤ n ↔ ∀ x ∈ items, x.height + 1 ≤ n := by
  induction items with
  | nil => simp [heightOfItems]
  | cons x rest ih => simp only [heightOfItems, Nat.max_le, ih, List.forall_mem_cons]

theorem heightOfMembers_le_iff {members : Members} {n : Nat} :
    heightOfMembers members ≤ n ↔ ∀ m ∈ members, m.2.height + 1 ≤ n := by
  induction members with
  | nil => simp [heightOfMembers]
  | cons m rest ih =>
      obtain ⟨key, x⟩ := m
      simp only [heightOfMembers, Nat.max_le, ih, List.forall_mem_cons]

theorem referencesOfItems_subset_iff {items : List Json} {rs : List String} :
    referencesOfItems items ⊆ rs ↔ ∀ x ∈ items, x.references ⊆ rs := by
  induction items with
  | nil => simp [referencesOfItems]
  | cons x rest ih => simp [referencesOfItems, ih]

theorem referencesOfMembers_subset_iff {members : Members} {rs : List String} :
    referencesOfMembers members ⊆ rs ↔
      ∀ m ∈ members, (m.1 = "$ref" → m.2.string?.toList ⊆ rs) ∧ m.2.references ⊆ rs := by
  induction members with
  | nil => simp [referencesOfMembers]
  | cons m rest ih =>
      obtain ⟨key, x⟩ := m
      by_cases hk : key = "$ref" <;> simp [referencesOfMembers, ih, hk, and_assoc]

theorem Part.height_lt {x y : Json} (h : Part x y) : x.height < y.height := by
  cases h with
  | item h => exact heightOfItems_le_iff.1 (Nat.le_refl _) x h
  | member h => exact heightOfMembers_le_iff.1 (Nat.le_refl _) _ h

theorem Part.references_subset {x y : Json} (h : Part x y) : x.references ⊆ y.references := by
  cases h with
  | item h => exact referencesOfItems_subset_iff.1 (List.Subset.refl _) x h
  | member h => exact (referencesOfMembers_subset_iff.1 (List.Subset.refl _) _ h).2

theorem mem_references {node : Members} {reference : String}
    (h : node.lookup "$ref" = some (.string reference)) :
    reference ∈ (Json.object node).references := by
  have hs := (referencesOfMembers_subset_iff.1 (List.Subset.refl _) _ (mem_of_lookup h)).1 rfl
  exact hs (by simp [string?])

structure Bounded (rs : List String) (n : Nat) (x : Json) : Prop where
  height_le : x.height ≤ n
  references_subset : x.references ⊆ rs

theorem Bounded.part {rs : List String} {n : Nat} {x y : Json} (h : Part x y)
    (hy : y.Bounded rs n) : x.Bounded rs n where
  height_le := Nat.le_trans (Nat.le_of_lt h.height_lt) hy.height_le
  references_subset := List.Subset.trans h.references_subset hy.references_subset

theorem bounded_object {rs : List String} {n : Nat} {members : Members} :
    (Json.object members).Bounded rs n ↔ ∀ m ∈ members,
      m.2.height + 1 ≤ n ∧ (m.1 = "$ref" → m.2.string?.toList ⊆ rs) ∧ m.2.references ⊆ rs := by
  constructor
  · intro h m hm
    exact ⟨heightOfMembers_le_iff.1 h.height_le m hm,
      referencesOfMembers_subset_iff.1 h.references_subset m hm⟩
  · intro h
    exact ⟨heightOfMembers_le_iff.2 fun m hm => (h m hm).1,
      referencesOfMembers_subset_iff.2 fun m hm => (h m hm).2⟩

theorem Bounded.put {rs : List String} {n : Nat} {key : String} {x : Json} {members : Members}
    (hm : (Json.object members).Bounded rs (n + 1)) (hk : key ≠ "$ref") (hx : x.Bounded rs n) :
    (Json.object (put key x members)).Bounded rs (n + 1) := by
  refine bounded_object.2 fun m h => ?_
  rcases mem_put h with rfl | h
  · exact ⟨Nat.succ_le_succ hx.height_le, fun he => absurd he hk, hx.references_subset⟩
  · exact bounded_object.1 hm m h

theorem Bounded.filter {rs : List String} {n : Nat} {members : Members}
    (hm : (Json.object members).Bounded rs n) (keep : String × Json → Bool) :
    (Json.object (members.filter keep)).Bounded rs n :=
  bounded_object.2 fun m h => bounded_object.1 hm m (List.mem_filter.1 h).1

/-- What passes from a value to its parts passes to the targets of pointers. -/
theorem of_resolve? {Good : Json → Prop} (hp : ∀ {x y : Json}, Part x y → Good y → Good x)
    {root target : Json} {reference : String} (h : Pointer.resolve? root reference = some target)
    (hr : Good root) : Good target := by
  have hs : ∀ {x y : Json} {segment : String}, Pointer.step? y segment = some x → Part x y := by
    intro x y segment h
    cases y with
    | object members => exact .member (mem_of_lookup h)
    | array items =>
        obtain ⟨i, -, hi⟩ := Option.bind_eq_some_iff.1 h
        exact .item (List.mem_of_getElem? hi)
    | null | bool b | number n | string s => cases h
  rw [Pointer.resolve?] at h
  split at h
  · exact of_foldlM (fun _ _ _ _ h hy => hp (hs h) hy) h hr
  · cases h

end SchemaCheck.Json
