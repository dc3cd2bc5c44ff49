import SchemaCheck.Json.Token

namespace SchemaCheck.Json

/-- A container with an entry still to come. The items of an array are kept last first. -/
inductive Frame
  | array (items : List Json)
  | object (members : Members) (key : String)

inductive Reader
  | value (stack : List Frame)
  | firstItem (stack : List Frame)
  | afterItem (items : List Json) (stack : List Frame)
  | firstKey (stack : List Frame)
  | nextKey (members : Members) (stack : List Frame)
  | colon (members : Members) (key : String) (stack : List Frame)
  | afterMember (members : Members) (stack : List Frame)
  | done (value : Json)

namespace Reader

def deepestNesting : Nat := 127

def complete (x : Json) : List Frame → Reader
  | [] => .done x
  | .array items :: rest => .afterItem (x :: items) rest
  | .object members key :: rest => .afterMember (put key x members) rest

def startValue? (stack : List Frame) : Token → Option Reader
  | .scalar x => some (complete x stack)
  | .text s => some (complete (.string s) stack)
  | .openArray => if stack.length < deepestNesting then some (.firstItem stack) else none
  | .openObject => if stack.length < deepestNesting then some (.firstKey stack) else none
  | _ => none

def step? : Reader → Token → Option Reader
  | .value stack, t => startValue? stack t
  | .firstItem stack, .closeArray => some (complete (.array []) stack)
  | .firstItem stack, t => startValue? (.array [] :: stack) t
  | .afterItem items stack, .comma => some (.value (.array items :: stack))
  | .afterItem items stack, .closeArray => some (complete (.array items.reverse) stack)
  | .firstKey stack, .closeObject => some (complete (.object []) stack)
  | .firstKey stack, .text key => some (.colon [] key stack)
  | .nextKey members stack, .text key => some (.colon members key stack)
  | .colon members key stack, .colon => some (.value (.object members key :: stack))
  | .afterMember members stack, .comma => some (.nextKey members stack)
  | .afterMember members stack, .closeObject => some (complete (.object members) stack)
  | _, _ => none

end Reader

def ofTokens? (tokens : List Token) : Option Json :=
  match tokens.foldlM Reader.step? (.value []) with
  | some (.done x) => some x
  | _ => none

/-- The value that a text spells, or none if it is not JSON. -/
def parse? (text : String) : Option Json := (tokens? text.toList).bind ofTokens?

end SchemaCheck.Json
