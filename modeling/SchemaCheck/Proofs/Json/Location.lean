import SchemaCheck.Proofs.Json.DistinctKeys
import SchemaCheck.Proofs.Pointer

namespace SchemaCheck.Json

/-- A segment is the key of a member or the index of an item. -/
inductive PartAt : Json → String → Json → Prop
  | item {items : List Json} {i : Nat} {x : Json} (h : items[i]? = some x) :
    PartAt (.array items) (toString i) x
  | member {members : Members} {key : String} {x : Json} (h : (key, x) ∈ members) :
    PartAt (.object members) key x

theorem PartAt.part {x y : Json} {segment : String} (h : PartAt x segment y) : Part y x := by
  cases h with
  | item h => exact .item (List.mem_of_getElem? h)
  | member h => exact .member h

theorem Part.exists_partAt {x y : Json} (h : Part y x) : ∃ segment, PartAt x segment y := by
  cases h with
  | item h =>
      obtain ⟨i, hi⟩ := List.mem_iff_getElem?.1 h
      exact ⟨_, .item hi⟩
  | member h => exact ⟨_, .member h⟩

/-- The segments name one part after the other. -/
inductive Leads : Json → List String → Json → Prop
  | here (x : Json) : Leads x [] x
  | step {x y z : Json} {segment : String} {rest : List String} (h : PartAt x segment y)
    (hr : Leads y rest z) : Leads x (segment :: rest) z

theorem Leads.of_partAt {x y : Json} {segment : String} (h : PartAt x segment y) :
    Leads x [segment] y :=
  .step h (.here y)

mutual

def width : Json → Nat
  | .array items => max items.length (widthOfItems items)
  | .object members => widthOfMembers members
  | _ => 0

def widthOfItems : List Json → Nat
  | [] => 0
  | x :: rest => max x.width (widthOfItems rest)

def widthOfMembers : Members → Nat
  | [] => 0
  | (_, x) :: rest => max x.width (widthOfMembers rest)

end

theorem width_le_of_mem_items {items : List Json} {x : Json} (h : x ∈ items) :
    x.width ≤ widthOfItems items := by
  induction items with
  | nil => cases h
  | cons y rest ih =>
      rw [widthOfItems]
      rcases List.mem_cons.1 h with rfl | h
      · exact Nat.le_max_left ..
      · exact Nat.le_trans (ih h) (Nat.le_max_right ..)

theorem width_le_of_mem_members {members : Members} {m : String × Json} (h : m ∈ members) :
    m.2.width ≤ widthOfMembers members := by
  induction members with
  | nil => cases h
  | cons n rest ih =>
      rw [widthOfMembers]
      rcases List.mem_cons.1 h with rfl | h
      · exact Nat.le_max_left ..
      · exact Nat.le_trans (ih h) (Nat.le_max_right ..)

theorem Part.width_le {x y : Json} (h : Part x y) : x.width ≤ y.width := by
  cases h with
  | item h => exact Nat.le_trans (width_le_of_mem_items h) (Nat.le_max_right ..)
  | member h => exact width_le_of_mem_members h

/-- Each key is used once in an object, and each index in an array is a count. -/
structure Addressable (x : Json) : Prop where
  distinct : x.hasDistinctKeys = true
  width_le : x.width ≤ UInt64.size

theorem Part.addressable {x y : Json} (h : Part x y) (hy : y.Addressable) : x.Addressable where
  distinct := h.hasDistinctKeys hy.distinct
  width_le := Nat.le_trans h.width_le hy.width_le

theorem PartAt.step? {x y : Json} {segment : String} (h : PartAt x segment y)
    (hx : x.Addressable) : Pointer.step? x segment = some y := by
  cases h with
  | item h =>
      obtain ⟨hi, -⟩ := List.getElem?_eq_some_iff.1 h
      have hw := Nat.lt_of_lt_of_le hi (Nat.le_trans (Nat.le_max_left ..) hx.width_le)
      rw [Pointer.step?, Text.count?_toString hw, Option.bind_some, h]
  | member h => exact lookup_of_mem (hasDistinctKeys_object.1 hx.distinct).1 h

theorem Leads.walk {x y : Json} {segments : List String} (h : Leads x segments y)
    (hx : x.Addressable) : segments.foldlM Pointer.step? x = some y := by
  induction h with
  | here x => rfl
  | step h _ ih =>
      rw [List.foldlM_cons, h.step? hx]
      exact ih (h.part.addressable hx)

theorem Leads.resolve? {root x y : Json} {path : String} {segments : List String}
    (h : Leads x segments y) (hx : x.Addressable) (hr : Pointer.resolve? root path = some x) :
    Pointer.resolve? root (Pointer.build path segments) = some y := by
  rw [Pointer.resolve?] at hr ⊢
  split at hr
  next hl =>
    rw [if_pos (Pointer.isLocal_build segments hl), Pointer.split_build, List.foldlM_append, hr]
    exact h.walk hx
  next => cases hr

end SchemaCheck.Json
