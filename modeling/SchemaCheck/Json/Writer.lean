import SchemaCheck.Json.Basic
import SchemaCheck.Decimal.Layout

namespace SchemaCheck.Json

def hexDigits (n : Nat) : String := String.ofList (Nat.toDigits 16 n)

/-- Only the quote, the reverse solidus and the control characters are escaped. -/
def escapedChar (c : Char) : String :=
  match c with
  | '"' => "\\\""
  | '\\' => "\\\\"
  | '\x08' => "\\b"
  | '\x0c' => "\\f"
  | '\n' => "\\n"
  | '\r' => "\\r"
  | '\t' => "\\t"
  | c =>
    if c.toNat < 0x10 then "\\u000" ++ hexDigits c.toNat
    else if c.toNat < 0x20 then "\\u00" ++ hexDigits c.toNat
    else c.toString

def quoted (s : String) : String :=
  "\"" ++ String.join (s.toList.map escapedChar) ++ "\""

def Number.text : Number → String
  | .int i => toString i
  | .double x => Decimal.Layout.json.write x

def braced (open_ close : String) (entries : List String) : String :=
  open_ ++ String.intercalate "," entries ++ close

mutual

def compact : Json → String
  | .null => "null"
  | .bool b => if b then "true" else "false"
  | .number n => n.text
  | .string s => quoted s
  | .array items => braced "[" "]" (compactItems items)
  | .object members => braced "\x7b" "\x7d" (compactMembers members)

def compactItems : List Json → List String
  | [] => []
  | x :: rest => compact x :: compactItems rest

def compactMembers : Members → List String
  | [] => []
  | (k, x) :: rest => (quoted k ++ ":" ++ compact x) :: compactMembers rest

end

def indent (level : Nat) : String := "\n" ++ String.ofList (List.replicate (2 * level) ' ')

/-- Brackets around entries that each stand on a line of their own; no entries need no line. -/
def spread (level : Nat) (open_ close : String) (entries : List String) : String :=
  if entries.isEmpty then open_ ++ close
  else
    open_ ++ String.intercalate "," (entries.map (indent (level + 1) ++ ·)) ++ indent level ++ close

mutual

def prettyAt (level : Nat) : Json → String
  | .array items => spread level "[" "]" (prettyItems (level + 1) items)
  | .object members => spread level "\x7b" "\x7d" (prettyMembers (level + 1) members)
  | .null => "null"
  | .bool b => if b then "true" else "false"
  | .number n => n.text
  | .string s => quoted s

def prettyItems (level : Nat) : List Json → List String
  | [] => []
  | x :: rest => prettyAt level x :: prettyItems level rest

def prettyMembers (level : Nat) : Members → List String
  | [] => []
  | (k, x) :: rest => (quoted k ++ ": " ++ prettyAt level x) :: prettyMembers level rest

end

def pretty (x : Json) : String := prettyAt 0 x

end SchemaCheck.Json
