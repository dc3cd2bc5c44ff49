import SchemaCheck.Schema.Compile

namespace SchemaCheck.Schema

open Json (Members hasKey put)

/-- Keywords that keep a root from being an object schema. -/
def combinatorKeys : List String := ["anyOf", "oneOf", "allOf", "$ref"]

def isObjectType : Json → Bool
  | .string name => name = "object"
  | .array names => names.any fun n => n.string? = some "object"
  | _ => false

def isObjectSchema (node : Members) : Bool :=
  match node.lookup "type" with
  | some x => isObjectType x
  | none => hasKey "properties" node

def listedRequired (node : Members) : List String :=
  match node.lookup "required" with
  | some (.array names) => names.filterMap Json.string?
  | _ => []

/-- The node without its optional properties. If nothing is required, all are kept. -/
def dropOptional (node : Members) : Members :=
  let required := listedRequired node
  match node.lookup "properties" with
  | some (.object properties) =>
    if required.isEmpty then node
    else put "properties" (.object (properties.filter fun m => required.contains m.1)) node
  | _ => node

def closeKeys (node : Members) : Members :=
  if hasKey "additionalProperties" node then node
  else put "additionalProperties" (.bool false) node

/-- The root of a strict compilation. References still see the whole document. -/
def prune : Json → Json
  | .object node =>
    if isObjectSchema node && !combinatorKeys.any fun k => hasKey k node then
      .object (closeKeys (dropOptional node))
    else .object node
  | x => x

/-- Compiles a schema, with definitions for the references that it does not resolve itself. -/
def compile (schema : Json) (options : Options) (definitions : Members) : Result :=
  compileNode (.start schema definitions options) (if options.strict then prune schema else schema)

end SchemaCheck.Schema
