import SchemaCheck.Proofs.Json.Members

namespace SchemaCheck

namespace Json

mutual

def hasDistinctKeys : Json → Bool
  | .array items => distinctInItems items
  | .object members => decide (keys members).Nodup && distinctInMembers members
  | _ => true

def distinctInItems : List Json → Bool
  | [] => true
  | x :: rest => x.hasDistinctKeys && distinctInItems rest

def distinctInMembers : Members → Bool
  | [] => true
  | (_, x) :: rest => x.hasDistinctKeys && distinctInMembers rest

end

theorem distinctInItems_iff {items : List Json} :
    distinctInItems items = true ↔ ∀ x ∈ items, x.hasDistinctKeys = true := by
  induction items with
  | nil => simp [distinctInItems]
  | cons x rest ih => simp [distinctInItems, ih]

theorem distinctInMembers_iff {members : Members} :
    distinctInMembers members = true ↔ ∀ m ∈ members, m.2.hasDistinctKeys = true := by
  induction members with
  | nil => simp [distinctInMembers]
  | cons m rest ih =>
      obtain ⟨key, x⟩ := m
      rw [distinctInMembers, Bool.and_eq_true_iff, ih, List.forall_mem_cons]

theorem hasDistinctKeys_object {members : Members} :
    (Json.object members).hasDistinctKeys = true ↔
      (keys members).Nodup ∧ ∀ m ∈ members, m.2.hasDistinctKeys = true := by
  rw [hasDistinctKeys, Bool.and_eq_true_iff, decide_eq_true_iff, distinctInMembers_iff]

theorem Part.hasDistinctKeys {x y : Json} (h : Part x y) (hy : y.hasDistinctKeys = true) :
    x.hasDistinctKeys = true := by
  cases h with
  | item h => exact distinctInItems_iff.1 hy x h
  | member h => exact (hasDistinctKeys_object.1 hy).2 _ h

end Json

end SchemaCheck
