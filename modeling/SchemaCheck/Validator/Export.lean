import SchemaCheck.Validator.Basic

namespace SchemaCheck

open Json (Members put int)

def StringRule.entry : StringRule → String × Json
  | .minLength n => ("minLength", int n)
  | .maxLength n => ("maxLength", int n)
  | .pattern p => ("pattern", .string p.source)
  | .format f => ("format", .string f.keyword)

/-- The magnitude from which a whole number is written as a double. -/
def wholeLimit : Nat := 9 * Nat.pow 10 15

/-- A bound that is a whole number of moderate size is an integer. -/
def boundValue (x : Binary64) : Json :=
  if x.isWhole && x.units < wholeLimit * Binary64.unit then int x.truncate else .number (.double x)

def NumberRule.entry : NumberRule → String × Json
  | .minimum bound => ("minimum", boundValue bound)
  | .maximum bound => ("maximum", boundValue bound)
  | .exclusiveMinimum bound => ("exclusiveMinimum", boundValue bound)
  | .exclusiveMaximum bound => ("exclusiveMaximum", boundValue bound)
  | .multipleOf step => ("multipleOf", boundValue step)

def ArrayRule.entry : ArrayRule → String × Json
  | .minItems n => ("minItems", int n)
  | .maxItems n => ("maxItems", int n)
  | .uniqueItems => ("uniqueItems", .bool true)

def ObjectRule.entry : ObjectRule → String × Json
  | .minProperties n => ("minProperties", int n)
  | .maxProperties n => ("maxProperties", int n)

/-- Adds entries in order. A later entry replaces an earlier one of its key. -/
def addEntries (schema : Members) (entries : List (String × Json)) : Members :=
  entries.foldl (fun s e => put e.1 e.2 s) schema

def typed (name : String) : Members := [("type", .string name)]

def putSome (key : String) (x : Option Json) (schema : Members) : Members :=
  match x with
  | some x => put key x schema
  | none => schema

/-- A schema with one type gets null as a second; any other becomes an alternative to null. -/
def orNull (schema : Members) : Members :=
  match schema.lookup "type" with
  | some (.string name) =>
    if name = "null" then schema
    else put "type" (.array [.string name, .string "null"]) schema
  | _ => [("anyOf", .array [.object schema, .object (typed "null")])]

def requiredNames (fields : List Field) : List Json :=
  (fields.filter (·.required)).map fun f => .string f.name

mutual

def Validator.toMembers : Validator → Members
  | ⟨shape, nullable, defaultValue, description, title, allowed, excluded⟩ =>
    let schema := if nullable then orNull shape.toMembers else shape.toMembers
    putSome "title" (title.map .string)
      (putSome "description" (description.map .string)
        (putSome "default" defaultValue
          (putSome "not" (exportOption excluded)
            (putSome "enum" (allowed.map .array) schema))))

def exportOption : Option Validator → Option Json
  | none => none
  | some v => some (.object v.toMembers)

def Shape.toMembers : Shape → Members
  | .any => []
  | .never => [("not", .object [])]
  | .boolean => typed "boolean"
  | .null => typed "null"
  | .literal value => [("const", value)]
  | .among values => [("enum", .array values)]
  | .string checks => addEntries (typed "string") (checks.map (·.rule.entry))
  | .number integer checks =>
    addEntries (typed (if integer then "integer" else "number")) (checks.map (·.rule.entry))
  | .array element checks =>
    addEntries (put "items" (.object element.toMembers) (typed "array")) (checks.map (·.rule.entry))
  | .tuple positions =>
    addEntries (typed "array")
      [("items", .array (exportAll positions)), ("minItems", int positions.length),
        ("maxItems", int positions.length)]
  | .object fields _ checks =>
    let schema := put "properties" (.object (exportFields [] fields)) (typed "object")
    let names := requiredNames fields
    addEntries (if names.isEmpty then schema else put "required" (.array names) schema)
      (checks.map (·.rule.entry))
  | .union alternatives => [("anyOf", .array (exportAll alternatives))]
  | .exclusiveUnion alternatives => [("oneOf", .array (exportAll alternatives))]
  | .intersection branches => [("allOf", .array (exportAll branches))]

def exportAll : List Validator → List Json
  | [] => []
  | v :: rest => .object v.toMembers :: exportAll rest

def exportFields : Members → List Field → Members
  | properties, [] => properties
  | properties, ⟨name, _, v⟩ :: rest =>
    exportFields (put name (.object v.toMembers) properties) rest

end

def Validator.toSchema (v : Validator) : Json := .object v.toMembers

end SchemaCheck
