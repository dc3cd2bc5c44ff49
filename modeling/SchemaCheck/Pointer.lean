import SchemaCheck.Json.Basic
import SchemaCheck.Text.Digits
import SchemaCheck.Text.Fields

namespace SchemaCheck.Pointer

def escapeChars : List Char → List Char
  | [] => []
  | '~' :: rest => '~' :: '0' :: escapeChars rest
  | '/' :: rest => '~' :: '1' :: escapeChars rest
  | c :: rest => c :: escapeChars rest

/-- A tilde before any other character stands for itself. -/
def unescapeChars : List Char → List Char
  | [] => []
  | '~' :: '0' :: rest => '~' :: unescapeChars rest
  | '~' :: '1' :: rest => '/' :: unescapeChars rest
  | c :: rest => c :: unescapeChars rest

def escape (segment : String) : String := .ofList (escapeChars segment.toList)

def unescape (segment : String) : String := .ofList (unescapeChars segment.toList)

def child (parent segment : String) : String := parent ++ "/" ++ escape segment

def build (parent : String) (segments : List String) : String := segments.foldl child parent

def withoutHash : List Char → List Char
  | '#' :: rest => rest
  | cs => cs

/-- The pieces of a path. A leading solidus opens the first one, empty pieces are segments. -/
def rawSegments : List Char → List (List Char)
  | [] => []
  | '/' :: rest => Text.fields (· = '/') rest
  | cs => Text.fields (· = '/') cs

def split (path : String) : List String :=
  (rawSegments (withoutHash path.toList)).map fun p => .ofList (unescapeChars p)

/-- The whole document, or a path from its root. -/
def isLocal (reference : String) : Bool :=
  match reference.toList with
  | ['#'] => true
  | '#' :: '/' :: _ => true
  | _ => false

def step? (x : Json) (segment : String) : Option Json :=
  match x with
  | .object members => members.lookup segment
  | .array items => (Text.count? segment).bind fun i => items[i]?
  | _ => none

def resolve? (root : Json) (reference : String) : Option Json :=
  if isLocal reference then (split reference).foldlM step? root else none

end SchemaCheck.Pointer
