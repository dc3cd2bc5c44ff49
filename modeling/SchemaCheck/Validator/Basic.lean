import SchemaCheck.Check

namespace SchemaCheck

mutual

structure Validator where
  shape : Shape
  nullable : Bool := false
  defaultValue : Option Json := none
  description : Option String := none
  title : Option String := none
  /-- The only values that are accepted, if there is such a list. -/
  allowed : Option (List Json) := none
  /-- What must not be accepted. -/
  excluded : Option Validator := none

inductive Shape
  | any
  | never
  | boolean
  | null
  | literal (value : Json)
  | among (values : List Json)
  | string (checks : List (Check StringRule))
  | number (integer : Bool) (checks : List (Check NumberRule))
  | array (element : Validator) (checks : List (Check ArrayRule))
  | tuple (positions : List Validator)
  | object (fields : List Field) (unknown : UnknownKeys) (checks : List (Check ObjectRule))
  | union (alternatives : List Validator)
  | exclusiveUnion (alternatives : List Validator)
  | intersection (branches : List Validator)

structure Field where
  name : String
  required : Bool
  validator : Validator

/-- What becomes of the members that are no fields. -/
inductive UnknownKeys
  | reject
  | accept
  | validate (validator : Validator)

end

namespace Validator

def ofShape (shape : Shape) : Validator := { shape }

def any : Validator := ofShape .any

instance : Inhabited Validator := ⟨any⟩

def withNullable (v : Validator) : Validator := { v with nullable := true }

def withDefault (v : Validator) (x : Json) : Validator := { v with defaultValue := some x }

def describe (v : Validator) (text : String) : Validator := { v with description := some text }

def titled (v : Validator) (text : String) : Validator := { v with title := some text }

/-- The validator at an index among those directly below. The element of an array has index 0. -/
def child? (v : Validator) (i : Nat) : Option Validator :=
  match v.shape with
  | .array element _ => if i = 0 then some element else none
  | .tuple vs => vs[i]?
  | .object fields _ _ => fields[i]?.map (·.validator)
  | .union vs => vs[i]?
  | .exclusiveUnion vs => vs[i]?
  | .intersection vs => vs[i]?
  | _ => none

end Validator

def Field.hasName (fields : List Field) (key : String) : Bool := fields.any (·.name = key)

end SchemaCheck
