import SchemaCheck.Schema.Form
import SchemaCheck.Schema.Context
import SchemaCheck.Schema.Constraint
import SchemaCheck.Schema.Merge
import SchemaCheck.Validator.Run

namespace SchemaCheck.Schema

open Json (Members)

abbrev Result := Except Error Validator

/-- How a child at a path below the node is compiled. -/
abbrev ChildCompiler := List String → Json → Result

def modifierKeys : List String := ["nullable", "enum", "not", "default", "description", "title"]

def compileEach (child : ChildCompiler) (keyword : String) :
    Nat → List Json → Except Error (List Validator)
  | _, [] => .ok []
  | i, x :: rest => do
    let v ← child [keyword, toString i] x
    let vs ← compileEach child keyword (i + 1) rest
    .ok (v :: vs)

/-- A combination of one validator is that validator. -/
def combine (shape : List Validator → Shape) : List Validator → Validator
  | [v] => v
  | vs => .ofShape (shape vs)

def compileTuple (child : ChildCompiler) (keyword : String) (positions : List Json) : Result := do
  let vs ← compileEach child keyword 0 positions
  .ok (.ofShape (.tuple vs))

def compileElement (child : ChildCompiler) (node : Members) : Result :=
  match node.lookup "items" with
  | some x => child ["items"] x
  | none => .ok .any

def compileList (path : String) (child : ChildCompiler) (node : Members) : Result := do
  let element ← compileElement child node
  let checks ← arrayChecks node path
  .ok (.ofShape (.array element checks))

/-- An array of items, or of a list of positions, makes a tuple. -/
def compileArray (path : String) (child : ChildCompiler) (node : Members) : Result :=
  match node.lookup "items" with
  | some (.array positions) => compileTuple child "items" positions
  | _ =>
    match node.lookup "prefixItems" with
    | some (.array positions) => compileTuple child "prefixItems" positions
    | some _ => .error (.malformed path (.notArray "prefixItems"))
    | none => compileList path child node

def requiredKeys (node : Members) : Except Complaint (List String) :=
  match node.lookup "required" with
  | none => .ok []
  | some (.array names) => strings .requiredEntryNotString names
  | some x => .error (.badRequired x)

def compileProperties (child : ChildCompiler) (required : List String) :
    Members → Except Error (List Field)
  | [] => .ok []
  | (name, x) :: rest => do
    let v ← child ["properties", name] x
    let fields ← compileProperties child required rest
    .ok (⟨name, required.contains name, v⟩ :: fields)

def compileFields (path : String) (child : ChildCompiler) (required : List String)
    (node : Members) : Except Error (List Field) :=
  match node.lookup "properties" with
  | none => .ok []
  | some (.object properties) => compileProperties child required properties
  | some x => .error (.malformed path (.badProperties x))

/-- Required keys that are not declared become fields of any value. -/
def addRequired (fields : List Field) : List String → List Field
  | [] => fields
  | name :: rest =>
    if Field.hasName fields name then addRequired fields rest
    else addRequired (fields ++ [⟨name, true, .any⟩]) rest

def compileUnknown (path : String) (child : ChildCompiler) (node : Members) :
    Except Error UnknownKeys :=
  match node.lookup "additionalProperties" with
  | none => .ok .accept
  | some (.bool true) => .ok .accept
  | some (.bool false) => .ok .reject
  | some (.object x) => do
    let v ← child ["additionalProperties"] (.object x)
    .ok (.validate v)
  | some x => .error (.malformed path (.badAdditional x))

def malformedAt {α : Type} (path : String) : Except Complaint α → Except Error α
  | .ok a => .ok a
  | .error complaint => .error (.malformed path complaint)

def compileObject (path : String) (child : ChildCompiler) (node : Members) : Result := do
  let required ← malformedAt path (requiredKeys node)
  let fields ← compileFields path child required node
  let unknown ← compileUnknown path child node
  let checks ← objectChecks node path
  .ok (.ofShape (.object (addRequired fields required) unknown checks))

def compileTyped (path : String) (child : ChildCompiler) (node : Members) : TypeName → Result
  | .object => compileObject path child node
  | .array => compileArray path child node
  | .string => do
    let checks ← stringChecks node path
    .ok (.ofShape (.string checks))
  | .number => do
    let checks ← numberChecks node path
    .ok (.ofShape (.number false checks))
  | .integer => do
    let checks ← numberChecks node path
    .ok (.ofShape (.number true checks))
  | .boolean => .ok (.ofShape .boolean)
  | .null => .ok (.ofShape .null)

/-- The node with one type in place of its list, and without modifiers. -/
def narrow (node : Members) (t : TypeName) : Members :=
  Json.put "type" (.string t.name) (Json.drop modifierKeys node)

def compileBranches (path : String) (child : ChildCompiler) (node : Members) :
    List TypeName → Except Error (List Validator)
  | [] => .ok []
  | t :: rest => do
    let v ← compileTyped path child (narrow node t) t
    let vs ← compileBranches path child node rest
    .ok (v :: vs)

/-- The types other than null, each once. -/
def branchTypes (types : List TypeName) : List TypeName :=
  types.foldl (fun ts t => if t = .null ∨ t ∈ ts then ts else ts ++ [t]) []

/-- A list of types is a union of its types, and null among them makes the union nullable. -/
def compileTypes (path : String) (child : ChildCompiler) (node : Members) (types : List TypeName) :
    Result := do
  let vs ← compileBranches path child node (branchTypes types)
  if vs.isEmpty then .ok (.ofShape .null)
  else if types.contains .null then .ok (combine .union vs).withNullable
  else .ok (combine .union vs)

def compileMerged (path : String) (child : ChildCompiler) (node : Members) : Result := do
  let form ← malformedAt path (Form.ofTypeOrConst node)
  match form with
  | .typed t => compileTyped path child node t
  | .types ts => compileTypes path child node ts
  | _ => .ok .any

def compileAnyOf (path : String) (child : ChildCompiler) (alternatives : List Json) : Result :=
  match mergeAlternatives? alternatives with
  | some merged => compileMerged path child merged
  | none => (compileEach child "anyOf" 0 alternatives).map (combine .union)

def setNullable (path : String) (node : Members) (v : Validator) : Result :=
  match node.lookup "nullable" with
  | none => .ok v
  | some (.bool false) => .ok v
  | some (.bool true) => .ok v.withNullable
  | some x => .error (.malformed path (.badNullable x))

/-- An enumeration beside another form keeps only its values, which all have to be accepted. -/
def refineEnum (path : String) (node : Members) (v : Validator) : Result :=
  match node.lookup "enum" with
  | none => .ok v
  | some (.array values) =>
    match values.find? fun x => !v.isValid x with
    | some x => .error (.malformed path (.enumConflict x))
    | none => .ok { v with allowed := some values }
  | some _ => .error (.malformed path (.notArray "enum"))

def setExcluded (child : ChildCompiler) (node : Members) (v : Validator) : Result :=
  match node.lookup "not" with
  | none => .ok v
  | some x => do
    let excluded ← child ["not"] x
    .ok { v with excluded := some excluded }

def modify (path : String) (child : ChildCompiler) (node : Members) (form : Form) (v : Validator) :
    Result := do
  let v ← setNullable path node v
  let v ← if form.isEnum then .ok v else refineEnum path node v
  setExcluded child node v

def withMetadata (node : Members) (v : Validator) : Validator :=
  { v with
    defaultValue := (node.lookup "default").or v.defaultValue
    description := ((node.lookup "description").bind Json.string?).or v.description
    title := ((node.lookup "title").bind Json.string?).or v.title }

def compileEnum : List Json → Validator
  | [x] => .ofShape (.literal x)
  | xs => .ofShape (.among xs)

def compileForm (path : String) (child : ChildCompiler) (follow : String → Result)
    (node : Members) : Form → Result
  | .anyOf xs => compileAnyOf path child xs
  | .oneOf xs => (compileEach child "oneOf" 0 xs).map (combine .exclusiveUnion)
  | .allOf xs => (compileEach child "allOf" 0 xs).map (combine .intersection)
  | .ref reference => follow reference
  | .enum xs => .ok (compileEnum xs)
  | .const x => .ok (.ofShape (.literal x))
  | .typed t => compileTyped path child node t
  | .types ts => compileTypes path child node ts
  | .any => .ok .any

/-- An object node. What stands beside a reference is ignored. -/
def compileMembers (path : String) (child : ChildCompiler) (follow : String → Result)
    (node : Members) : Result := do
  match ← malformedAt path (Form.ofNode node) with
  | .ref reference => follow reference
  | form =>
    let v ← compileForm path child follow node form
    let v ← modify path child node form v
    .ok (withMetadata node v)

def compileStep (path : String) (child : ChildCompiler) (follow : String → Result) : Json → Result
  | .bool true => .ok .any
  | .bool false => .ok (.ofShape .never)
  | .object node => compileMembers path child follow node
  | x => .error (.malformed path (.notSchema x))

/-- Every step deeper leaves one level less, so compilation ends. -/
def compileNode (c : Context) (node : Json) : Result :=
  compileStep c.path
    (fun segments x =>
      match _h : c.descend segments with
      | .ok d => compileNode d x
      | .error e => .error e)
    (fun reference =>
      match _h : c.follow reference with
      | .ok (d, target) => compileNode d target
      | .error e => .error e)
    node
termination_by c.levelsLeft
decreasing_by
  · exact Context.levelsLeft_descend _h
  · exact Context.levelsLeft_follow _h

def childOf (c : Context) : ChildCompiler := fun segments x => do
  let d ← c.descend segments
  compileNode d x

def targetOf (c : Context) : String → Result := fun reference => do
  let (d, target) ← c.follow reference
  compileNode d target

theorem compileNode_eq (c : Context) (node : Json) :
    compileNode c node = compileStep c.path (childOf c) (targetOf c) node := by
  rw [compileNode]
  congr 1
  · funext segments x
    unfold childOf
    split <;> simp_all [bind, Except.bind]
  · funext reference
    unfold targetOf
    split <;> simp_all [bind, Except.bind]

end SchemaCheck.Schema
