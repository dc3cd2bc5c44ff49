import SchemaCheck.Proofs.Json.Members
import SchemaCheck.Proofs.Schema.Form

namespace SchemaCheck.Schema

open Json (Members put drop)

def unreadKeys : List String := "type" :: "examples" :: modifierKeys

/-- The nodes say the same to every type. -/
def Like (node other : Members) : Prop :=
  ∀ key, key ∉ unreadKeys → node.lookup key = other.lookup key

theorem Like.refl (node : Members) : Like node node := fun _ _ => rfl

theorem Like.symm {node other : Members} (h : Like node other) : Like other node :=
  fun key hk => (h key hk).symm

theorem Like.trans {a b c : Members} (hab : Like a b) (hbc : Like b c) : Like a c :=
  fun key hk => (hab key hk).trans (hbc key hk)

theorem like_put {key : String} (h : key ∈ unreadKeys) (x : Json) (node : Members) :
    Like node (put key x node) := by
  intro other ho
  have hne : other ≠ key := by
    rintro rfl
    exact ho h
  rw [Json.lookup_put_of_ne hne]

theorem like_drop {keys : List String} (h : keys ⊆ unreadKeys) (node : Members) :
    Like node (drop keys node) := by
  intro key hk
  rw [Json.lookup_drop, if_neg fun hm => hk (h hm)]

theorem like_narrow (node : Members) (t : TypeName) : Like node (narrow node t) :=
  (like_drop (by decide) node).trans (like_put (by decide) _ _)

theorem Like.narrow {node other : Members} (h : Like node other) (t : TypeName) :
    Like (narrow node t) (Schema.narrow other t) :=
  ((like_narrow node t).symm.trans h).trans (like_narrow other t)

def arrayChildren (node : Members) : List Json :=
  match node.lookup "items" with
  | some (.array positions) => positions
  | _ =>
    match node.lookup "prefixItems" with
    | some (.array positions) => positions
    | some _ => []
    | none => (node.lookup "items").toList

theorem mem_arrayChildren_of_items {node : Members} {x : Json}
    (hi : node.lookup "items" = some x) (hx : ∀ positions, x ≠ .array positions)
    (hp : node.lookup "prefixItems" = none) : x ∈ arrayChildren node := by
  cases x with
  | array positions => exact absurd rfl (hx positions)
  | null | bool b | number n | string s | object members => simp [arrayChildren, hi, hp]

def propertyChildren (node : Members) : List Json :=
  match node.lookup "properties" with
  | some (.object properties) => properties.map (·.2)
  | _ => []

/-- Additional properties are compiled if they are an object, and read as a flag if not. -/
def additionalChildren (node : Members) : List Json :=
  match node.lookup "additionalProperties" with
  | some (.object x) => [.object x]
  | _ => []

def typedChildren (node : Members) : TypeName → List Json
  | .object => propertyChildren node ++ additionalChildren node
  | .array => arrayChildren node
  | _ => []

theorem Like.typedChildren {node other : Members} (h : Like node other) (t : TypeName) :
    typedChildren node t = typedChildren other t := by
  have hitems := h "items" (by decide)
  have hpositions := h "prefixItems" (by decide)
  have hproperties := h "properties" (by decide)
  have hunknown := h "additionalProperties" (by decide)
  cases t with
  | object =>
      simp only [Schema.typedChildren, propertyChildren, additionalChildren, hproperties, hunknown]
  | array => simp only [Schema.typedChildren, arrayChildren, hitems, hpositions]
  | string | number | integer | boolean | null => rfl

def typeChildren (node : Members) : Form → List Json
  | .typed t => typedChildren node t
  | .types ts => (branchTypes ts).flatMap (typedChildren node)
  | _ => []

def mergedChildren (node : Members) : List Json :=
  match Form.ofTypeOrConst node with
  | .ok form => typeChildren node form
  | .error _ => []

def formChildren (node : Members) : Form → List Json
  | .anyOf xs =>
    match mergeAlternatives? xs with
    | some merged => mergedChildren merged
    | none => xs
  | .oneOf xs => xs
  | .allOf xs => xs
  | form => typeChildren node form

/-- The values that are compiled one level deeper for a value. A reference has no children. -/
def children : Json → List Json
  | .object node =>
    match Form.ofNode node with
    | .ok (.ref _) => []
    | .ok form => formChildren node form ++ (node.lookup "not").toList
    | .error _ => []
  | _ => []

/-- The value is a node that is a reference. A node with a combination beside it is none, because
what stands beside the combination is ignored. -/
def RefersTo (x : Json) (reference : String) : Prop :=
  ∃ node, x = .object node ∧ Form.ofNode node = .ok (.ref reference)

theorem children_of_form {node : Members} {form : Form} (h : Form.ofNode node = .ok form)
    (hr : ∀ reference, form ≠ .ref reference) :
    children (.object node) = formChildren node form ++ (node.lookup "not").toList := by
  rw [children, h]
  cases form with
  | ref reference => exact absurd rfl (hr reference)
  | anyOf | oneOf | allOf | enum | const | typed | types | any => rfl

end SchemaCheck.Schema
