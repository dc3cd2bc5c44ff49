import SchemaCheck.Json.Number

namespace SchemaCheck

inductive Json
  | null
  | bool (value : Bool)
  | number (value : Json.Number)
  | string (value : String)
  | array (items : List Json)
  | object (members : List (String × Json))
deriving Inhabited

namespace Json

abbrev Members := List (String × Json)

/-- Members are kept in the order of their keys. -/
def put (key : String) (value : Json) : Members → Members
  | [] => [(key, value)]
  | (k, v) :: rest =>
    if key = k then (key, value) :: rest
    else if key < k then (key, value) :: (k, v) :: rest
    else (k, v) :: put key value rest

/-- Members from a list in any order. A key given twice keeps its last value. -/
def collect (pairs : Members) : Members := pairs.foldl (fun ms m => put m.1 m.2 ms) []

def drop (keys : List String) (members : Members) : Members :=
  members.filter fun m => !keys.contains m.1

def hasKey (key : String) (members : Members) : Bool := (members.lookup key).isSome

def keys (members : Members) : List String := members.map (·.1)

def ofPairs (pairs : Members) : Json := .object (collect pairs)

def int (i : Int) : Json := .number (.int i)

def isNull : Json → Bool
  | .null => true
  | _ => false

def string? : Json → Option String
  | .string s => some s
  | _ => none

def array? : Json → Option (List Json)
  | .array items => some items
  | _ => none

def object? : Json → Option Members
  | .object members => some members
  | _ => none

/-- A bare name: a string, or an object whose only member has that key and is null. -/
def tag? : Json → Option String
  | .string s => some s
  | .object [(key, .null)] => some key
  | _ => none

/-- The name of the type, as a schema's type keyword spells it. Whole numbers are integers. -/
def typeName : Json → String
  | .null => "null"
  | .bool _ => "boolean"
  | .number n => if n.isIntegral then "integer" else "number"
  | .string _ => "string"
  | .array _ => "array"
  | .object _ => "object"

mutual

/-- Equality of values, with numbers compared by value. -/
def sameValue : Json → Json → Bool
  | .null, .null => true
  | .bool a, .bool b => a = b
  | .number x, .number y => x.sameValue y
  | .string s, .string t => s = t
  | .array xs, .array ys => sameItems xs ys
  | .object xs, .object ys => sameMembers xs ys
  | _, _ => false

def sameItems : List Json → List Json → Bool
  | [], [] => true
  | x :: xs, y :: ys => sameValue x y && sameItems xs ys
  | _, _ => false

def sameMembers : Members → Members → Bool
  | [], [] => true
  | (k, x) :: xs, (l, y) :: ys => k = l && sameValue x y && sameMembers xs ys
  | _, _ => false

end

def amongValues (x : Json) (entries : List Json) : Bool := entries.any fun e => sameValue e x

theorem lookup_put_self (key : String) (value : Json) (members : Members) :
    (put key value members).lookup key = some value := by
  induction members with
  | nil => simp [put]
  | cons m rest ih =>
    obtain ⟨k, v⟩ := m
    unfold put
    split
    · simp
    · split
      · simp
      · rename_i hk _
        have : (key == k) = false := by simp [hk]
        simp [List.lookup_cons, this, ih]

theorem lookup_put_of_ne {key other : String} (h : other ≠ key) (value : Json) (members : Members) :
    (put key value members).lookup other = members.lookup other := by
  have ho : (other == key) = false := by simp [h]
  induction members with
  | nil => simp [put, List.lookup_cons, ho]
  | cons m rest ih =>
    obtain ⟨k, v⟩ := m
    unfold put
    split
    · rename_i hk
      subst hk
      simp [List.lookup_cons, ho]
    · split
      · simp [List.lookup_cons, ho]
      · simp [List.lookup_cons, ih]

end Json

end SchemaCheck
