import SchemaCheck.Json.Basic

namespace SchemaCheck.Schema

structure Options where
  /-- Compile only the mandatory part of a root object. -/
  strict : Bool := false
  /-- How deep the nodes of a schema may be nested. -/
  maxDepth : Nat := 50
deriving DecidableEq

namespace Options

def toJson (o : Options) : Json :=
  .object [("max-depth", .int o.maxDepth), ("strict", .bool o.strict)]

def depth? : Json → Option Nat
  | .number (.int i) => if 0 ≤ i then some i.toNat else none
  | _ => none

def bool? : Json → Option Bool
  | .bool b => some b
  | _ => none

def readOr {α : Type} (default : α) (read? : Json → Option α) : Option Json → Option α
  | none => some default
  | some x => read? x

/-- Options are an object, or an array of the strict flag and the depth. -/
def ofJson? : Json → Option Options
  | .object members => do
    let strict ← readOr false bool? (members.lookup "strict")
    let maxDepth ← readOr 50 depth? (members.lookup "max-depth")
    pure { strict, maxDepth }
  | .array items =>
    if items.length ≤ 2 then do
      let strict ← readOr false bool? items[0]?
      let maxDepth ← readOr 50 depth? items[1]?
      pure { strict, maxDepth }
    else none
  | _ => none

end Options

end SchemaCheck.Schema
