import SchemaCheck.Json.Writer

namespace SchemaCheck.Schema

inductive ErrorCode
  | malformedNode
  | unsupportedFeature
  | unresolvableRef
  | cycleDetected
  | recursionDepthExceeded
  | invalidPattern
deriving DecidableEq

namespace ErrorCode

def all : List ErrorCode :=
  [malformedNode, unsupportedFeature, unresolvableRef, cycleDetected, recursionDepthExceeded,
    invalidPattern]

def name : ErrorCode → String
  | malformedNode => "malformed_node"
  | unsupportedFeature => "unsupported_feature"
  | unresolvableRef => "unresolvable_ref"
  | cycleDetected => "cycle_detected"
  | recursionDepthExceeded => "recursion_depth_exceeded"
  | invalidPattern => "invalid_pattern"

def ofName? (text : String) : Option ErrorCode := all.find? fun c => c.name = text

def ofJson? (x : Json) : Option ErrorCode := x.tag?.bind ofName?

theorem ofName?_name (c : ErrorCode) : ofName? c.name = some c := by cases c <;> decide

end ErrorCode

inductive Mistake
  | notCount (found : Json)
  | notNumber (found : Json)
  | notBoolean (found : Json)
  | notString
  | notPositive
  | badPattern (source : String)

inductive Complaint
  | notSchema (found : Json)
  | notArray (keyword : String)
  | emptyArray (keyword : String)
  | refNotString
  | unknownType (name : String)
  | typeEntryNotString
  | emptyTypes
  | badType (found : Json)
  | enumConflict (value : Json)
  | badNullable (found : Json)
  | badProperties (found : Json)
  | badAdditional (found : Json)
  | badRequired (found : Json)
  | requiredEntryNotString
  | constraint (keyword : String) (mistake : Mistake)

/-- References that lead out of the document. -/
inductive Feature
  | remote (url : String)
  | relative (reference : String)
  | anchor (reference : String)

inductive Error
  | malformed (path : String) (complaint : Complaint)
  | unsupported (path : String) (feature : Feature)
  | unresolvable (path : String) (reference : String)
  | cycle (path : String) (reference : String)
  | tooDeep (path : String) (limit : Nat)
  | invalidPattern (path : String) (source : String)

def inTicks (text : String) : String := "`" ++ text ++ "`"

def Mistake.message : Mistake → String
  | notCount found => "expected a non-negative integer, found " ++ found.compact
  | notNumber found => "expected a number, found " ++ found.compact
  | notBoolean found => "expected a boolean, found " ++ found.compact
  | notString => "expected a string"
  | notPositive => "must be greater than 0"
  | badPattern source => "invalid pattern " ++ source

def Complaint.message : Complaint → String
  | notSchema found => "expected a schema object or boolean, found " ++ found.compact
  | notArray keyword => inTicks keyword ++ " must be an array"
  | emptyArray keyword => inTicks keyword ++ " must not be empty"
  | refNotString => "`$ref` must be a string"
  | unknownType name => "unknown type " ++ inTicks name
  | typeEntryNotString => "`type` array entries must be strings"
  | emptyTypes => "`type` array must not be empty"
  | badType found => "`type` must be a string or array of strings, found " ++ found.compact
  | enumConflict value => "`enum` value " ++ value.compact ++ " conflicts with the declared type"
  | badNullable found => "`nullable` must be a boolean, found " ++ found.compact
  | badProperties found => "`properties` must be an object, found " ++ found.compact
  | badAdditional found =>
    "`additionalProperties` must be a boolean or schema, found " ++ found.compact
  | badRequired found => "`required` must be an array, found " ++ found.compact
  | requiredEntryNotString => "`required` entries must be strings"
  | constraint keyword mistake => inTicks keyword ++ ": " ++ mistake.message

def Feature.message : Feature → String
  | remote url => "remote $ref " ++ inTicks url
  | relative reference => "relative $ref " ++ inTicks reference
  | anchor reference => "anchor $ref " ++ inTicks reference

namespace Error

def code : Error → ErrorCode
  | malformed .. => .malformedNode
  | unsupported .. => .unsupportedFeature
  | unresolvable .. => .unresolvableRef
  | cycle .. => .cycleDetected
  | tooDeep .. => .recursionDepthExceeded
  | invalidPattern .. => .invalidPattern

def path : Error → String
  | malformed p _ => p
  | unsupported p _ => p
  | unresolvable p _ => p
  | cycle p _ => p
  | tooDeep p _ => p
  | invalidPattern p _ => p

def message : Error → String
  | malformed p complaint => "Malformed schema node at " ++ p ++ ": " ++ complaint.message
  | unsupported p feature => "Unsupported schema feature at " ++ p ++ ": " ++ feature.message
  | unresolvable p reference => "Unresolvable $ref at " ++ p ++ ": " ++ reference
  | cycle p reference => "Cyclic $ref detected at " ++ p ++ ": " ++ reference
  | tooDeep p limit => s!"Recursion depth exceeded at {p} (max: {limit})"
  | invalidPattern p source => "Invalid pattern at " ++ p ++ ": " ++ source

def report (e : Error) : String := "Failed to compile JSON Schema: " ++ e.message

end Error

end SchemaCheck.Schema
