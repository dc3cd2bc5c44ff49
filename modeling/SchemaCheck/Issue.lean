import SchemaCheck.Json.Basic

namespace SchemaCheck

inductive IssueCode
  | invalidType
  | invalidLiteral
  | invalidEnumValue
  | invalidString
  | tooSmall
  | tooBig
  | notMultipleOf
  | notUnique
  | required
  | unrecognizedKeys
  | invalidUnion
  | forbidden
deriving DecidableEq

namespace IssueCode

def all : List IssueCode :=
  [invalidType, invalidLiteral, invalidEnumValue, invalidString, tooSmall, tooBig, notMultipleOf,
    notUnique, required, unrecognizedKeys, invalidUnion, forbidden]

def name : IssueCode → String
  | invalidType => "invalid_type"
  | invalidLiteral => "invalid_literal"
  | invalidEnumValue => "invalid_enum_value"
  | invalidString => "invalid_string"
  | tooSmall => "too_small"
  | tooBig => "too_big"
  | notMultipleOf => "not_multiple_of"
  | notUnique => "not_unique"
  | required => "required"
  | unrecognizedKeys => "unrecognized_keys"
  | invalidUnion => "invalid_union"
  | forbidden => "forbidden"

def ofName? (text : String) : Option IssueCode := all.find? fun c => c.name = text

def ofJson? (x : Json) : Option IssueCode := x.tag?.bind ofName?

theorem ofName?_name (c : IssueCode) : ofName? c.name = some c := by cases c <;> decide

end IssueCode

structure Issue where
  path : String
  code : IssueCode
  message : String
deriving DecidableEq

namespace Issue

/-- The root of a value has the empty path, which is shown as a solidus. -/
def at_ (path : String) (code : IssueCode) (message : String) : Issue :=
  ⟨if path.isEmpty then "/" else path, code, message⟩

/-- The members stand in the order in which a reader wants them: place, kind, words. -/
def toJson (i : Issue) : Json :=
  .object [("path", .string i.path), ("code", .string i.code.name), ("message", .string i.message)]

def ofParts? (path code message : Json) : Option Issue := do
  pure ⟨← path.string?, ← IssueCode.ofJson? code, ← message.string?⟩

/-- An issue is an object, or an array of its path, code and message. -/
def ofJson? : Json → Option Issue
  | .object members => do
    ofParts? (← members.lookup "path") (← members.lookup "code") (← members.lookup "message")
  | .array [path, code, message] => ofParts? path code message
  | _ => none

end Issue

structure ValidationError where
  issues : List Issue
deriving DecidableEq

namespace ValidationError

def ofListing? (x : Json) : Option ValidationError := do
  pure ⟨← (← x.array?).mapM Issue.ofJson?⟩

/-- An object with the listing of the issues, or an array that holds the listing alone. -/
def ofJson? : Json → Option ValidationError
  | .object members => (members.lookup "issues").bind ofListing?
  | .array [listing] => ofListing? listing
  | _ => none

def codes (e : ValidationError) : List IssueCode := e.issues.map (·.code)

def hasCode (e : ValidationError) (code : IssueCode) : Bool := e.issues.any (·.code = code)

def message (e : ValidationError) : String :=
  toString e.issues.length ++ " validation issue(s): " ++
    String.intercalate "; " (e.issues.map fun i => i.path ++ ": " ++ i.message)

end ValidationError

end SchemaCheck
