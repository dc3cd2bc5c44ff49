import SchemaCheck.Schema.Error

namespace SchemaCheck.Schema

open Json (Members hasKey)

inductive TypeName
  | object
  | array
  | string
  | number
  | integer
  | boolean
  | null
deriving DecidableEq

namespace TypeName

def name : TypeName → String
  | object => "object"
  | array => "array"
  | string => "string"
  | number => "number"
  | integer => "integer"
  | boolean => "boolean"
  | null => "null"

def ofName? : String → Option TypeName
  | "object" => some object
  | "array" => some array
  | "string" => some string
  | "number" => some number
  | "integer" => some integer
  | "boolean" => some boolean
  | "null" => some null
  | _ => none

theorem ofName?_name (t : TypeName) : ofName? t.name = some t := by cases t <;> rfl

def read (name : String) : Except Complaint TypeName :=
  match ofName? name with
  | some t => .ok t
  | none => .error (.unknownType name)

end TypeName

/-- A node may have keywords of several forms at once; the first that applies wins, in the order of
the constructors. -/
inductive Form
  | anyOf (alternatives : List Json)
  | oneOf (alternatives : List Json)
  | allOf (branches : List Json)
  | ref (reference : String)
  | enum (values : List Json)
  | const (value : Json)
  | typed (type : TypeName)
  /-- Two or more types. -/
  | types (types : List TypeName)
  | any

def nonEmptyArray (keyword : String) : Json → Except Complaint (List Json)
  | .array [] => .error (.emptyArray keyword)
  | .array items => .ok items
  | _ => .error (.notArray keyword)

def strings (complaint : Complaint) : List Json → Except Complaint (List String)
  | [] => .ok []
  | .string s :: rest => (strings complaint rest).map (s :: ·)
  | _ :: _ => .error complaint

namespace Form

def ofTypes : List TypeName → Except Complaint Form
  | [] => .error .emptyTypes
  | [t] => .ok (.typed t)
  | ts => .ok (.types ts)

def ofType : Json → Except Complaint Form
  | .string name => (TypeName.read name).map .typed
  | .array items => do
    let names ← strings .typeEntryNotString items
    ofTypes (← names.mapM TypeName.read)
  | x => .error (.badType x)

/-- Without a type, an object or array is recognised by what it says of its parts. -/
def implicit (node : Members) : Form :=
  if hasKey "properties" node then .typed .object
  else if hasKey "items" node || hasKey "prefixItems" node then .typed .array
  else .any

def ofTypeOrConst (node : Members) : Except Complaint Form :=
  match node.lookup "const" with
  | some x => .ok (.const x)
  | none =>
    match node.lookup "type" with
    | some x => ofType x
    | none => .ok (implicit node)

def ofReference : Json → Except Complaint Form
  | .string reference => .ok (.ref reference)
  | _ => .error .refNotString

/-- An enumeration without a type, which is a form of its own. -/
def untypedEnum? (node : Members) : Option Json :=
  if hasKey "type" node then none else node.lookup "enum"

def ofEnum : Json → Except Complaint Form
  | .array values => .ok (.enum values)
  | _ => .error (.notArray "enum")

def ofNode (node : Members) : Except Complaint Form :=
  match node.lookup "anyOf" with
  | some x => (nonEmptyArray "anyOf" x).map .anyOf
  | none =>
    match node.lookup "oneOf" with
    | some x => (nonEmptyArray "oneOf" x).map .oneOf
    | none =>
      match node.lookup "allOf" with
      | some x => (nonEmptyArray "allOf" x).map .allOf
      | none =>
        match node.lookup "$ref" with
        | some x => ofReference x
        | none =>
          match untypedEnum? node with
          | some x => ofEnum x
          | none => ofTypeOrConst node

def isEnum : Form → Bool
  | .enum _ => true
  | _ => false

end Form

end SchemaCheck.Schema
