import SchemaCheck.Json.Basic

namespace SchemaCheck.Schema

open Json (Members)

/-- What an alternative may say and still be merged. -/
def mergeableKeys : List String := ["type", "items", "description", "title", "default", "examples"]

def mergeableTypes? (alternative : Members) : Option (List String) :=
  if alternative.all fun m => mergeableKeys.contains m.1 then
    match alternative.lookup "type" with
    | some (.string name) => some [name]
    | some (.array names) => names.mapM Json.string?
    | _ => none
  else none

/-- The types of all alternatives, each once, and the first items. -/
def mergeParts? : List Json → List String → Option Json → Option (List String × Option Json)
  | [], types, items => some (types, items)
  | .object alternative :: rest, types, items =>
    (mergeableTypes? alternative).bind fun names =>
      let types := names.foldl (fun ts n => if ts.contains n then ts else ts ++ [n]) types
      mergeParts? rest types (items.or (alternative.lookup "items"))
  | _ :: _, _, _ => none

def typeValue : List String → Json
  | [name] => .string name
  | names => .array (names.map .string)

/-- The node that stands for all the alternatives, if they can be merged. -/
def mergeAlternatives? (alternatives : List Json) : Option Members :=
  (mergeParts? alternatives [] none).bind fun (types, items) =>
    if types.contains "array" then
      match items with
      | some x => some [("items", x), ("type", typeValue types)]
      | none => some [("type", typeValue types)]
    else none

end SchemaCheck.Schema
