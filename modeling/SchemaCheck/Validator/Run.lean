import SchemaCheck.Validator.Basic
import SchemaCheck.Json.Writer
import SchemaCheck.Pointer

namespace SchemaCheck

abbrev Log := List Issue

def Log.report (log : Log) (path : String) (code : IssueCode) (message : String) : Log :=
  log ++ [.at_ path code message]

def typeMessage (expected : String) (x : Json) : String :=
  "Expected " ++ expected ++ ", received " ++ x.typeName

def listValues (values : List Json) : String := String.intercalate " | " (values.map Json.compact)

def enumMessage (values : List Json) : String :=
  "Invalid enum value. Expected one of " ++ listValues values

def unionMessage (count : Nat) : String :=
  "Value does not match any of " ++ toString count ++ " alternative(s)"

def exclusiveMessage (matched : Nat) : String :=
  "Value matches " ++ toString matched ++ " alternatives, expected exactly one"

def lengthMessage (expected found : Nat) : String :=
  "Array must contain exactly " ++ toString expected ++ " element(s), found " ++ toString found

def unrecognizedMessage (keys : List String) : String :=
  "Unrecognized key(s) in object: " ++ String.intercalate ", " keys

def integerName (integer : Bool) : String := if integer then "integer" else "number"

/-- What a run does to one value at a path. -/
abbrev Visit := String → Json → Log → Json × Log

def visitItems (visit : Visit) (path : String) : Nat → List Json → Log → List Json × Log
  | _, [], log => ([], log)
  | i, x :: rest, log =>
    let (y, log) := visit (Pointer.child path (toString i)) x log
    let (ys, log) := visitItems visit path (i + 1) rest log
    (y :: ys, log)

/-- Visits members in order and puts what comes of them into the output. -/
def visitMembers (visit : Visit) (path : String) : Json.Members → Json.Members → Log →
    Json.Members × Log
  | output, [], log => (output, log)
  | output, (key, x) :: rest, log =>
    let (y, log) := visit (Pointer.child path key) x log
    visitMembers visit path (Json.put key y output) rest log

def putAll (output : Json.Members) (members : Json.Members) : Json.Members :=
  members.foldl (fun out m => Json.put m.1 m.2 out) output

def putMissing (output : Json.Members) (members : Json.Members) : Json.Members :=
  members.foldl (fun out m => if Json.hasKey m.1 out then out else Json.put m.1 m.2 out) output

/-- The output of a branch joined to those before it: objects are merged, anything else yields. -/
def mergeOutput : Json → Json → Json
  | .object first, .object next => .object (putMissing first next)
  | first, _ => first

def mergeOutputs (x : Json) : List Json → Json
  | [] => x
  | y :: rest => rest.foldl mergeOutput y

mutual

/-- A run takes the log of issues found so far and returns it with those it finds. The value that it
returns means something only if it finds none. -/
def Validator.run : Validator → Visit
  | ⟨shape, nullable, _, _, _, allowed, excluded⟩, path, x, log =>
    if x.isNull && nullable then (.null, log)
    else
      let (y, found) := shape.run path x log
      if log.length < found.length then (y, found)
      else
        let found := match allowed with
          | some values =>
            if x.amongValues values then found
            else found.report path .invalidEnumValue (enumMessage values)
          | none => found
        if acceptedBy excluded x then
          (y, found.report path .forbidden "Value must not match the excluded schema")
        else (y, found)

def acceptedBy : Option Validator → Json → Bool
  | none, _ => false
  | some v, x => (v.run "" x []).2.isEmpty

def Shape.run : Shape → Visit
  | .any, _, x, log => (x, log)
  | .never, path, x, log => (x, log.report path .forbidden "No value is allowed here")
  | .boolean, path, x, log =>
    match x with
    | .bool _ => (x, log)
    | _ => (x, log.report path .invalidType (typeMessage "boolean" x))
  | .null, path, x, log =>
    if x.isNull then (x, log) else (x, log.report path .invalidType (typeMessage "null" x))
  | .literal value, path, x, log =>
    if Json.sameValue value x then (x, log)
    else (x, log.report path .invalidLiteral ("Invalid literal value, expected " ++ value.compact))
  | .among values, path, x, log =>
    if x.amongValues values then (x, log)
    else (x, log.report path .invalidEnumValue (enumMessage values))
  | .string checks, path, x, log =>
    match x with
    | .string s => (x, log ++ Check.issues checks path s)
    | _ => (x, log.report path .invalidType (typeMessage "string" x))
  | .number integer checks, path, x, log =>
    match x with
    | .number n =>
      if integer && !n.isIntegral then
        (x, log.report path .invalidType (typeMessage "integer" x))
      else (x, log ++ Check.issues checks path n.toBinary64)
    | _ => (x, log.report path .invalidType (typeMessage (integerName integer) x))
  | .array element checks, path, x, log =>
    match x with
    | .array items =>
      let (ys, log) := visitItems element.run path 0 items (log ++ Check.issues checks path items)
      (.array ys, log)
    | _ => (x, log.report path .invalidType (typeMessage "array" x))
  | .tuple positions, path, x, log =>
    match x with
    | .array items =>
      if items.length = positions.length then
        let (ys, log) := runPositions positions path 0 items log
        (.array ys, log)
      else
        let code := if items.length < positions.length then .tooSmall else .tooBig
        (x, log.report path code (lengthMessage positions.length items.length))
    | _ => (x, log.report path .invalidType (typeMessage "array" x))
  | .object fields unknown checks, path, x, log =>
    match x with
    | .object members =>
      let (output, log) := runFields fields path members [] log
      let others := members.filter fun m => !Field.hasName fields m.1
      let (output, log) := unknown.run path output others log
      (.object output, log ++ Check.issues checks path members.length)
    | _ => (x, log.report path .invalidType (typeMessage "object" x))
  | .union alternatives, path, x, log =>
    match firstOutput? alternatives path x with
    | some y => (y, log)
    | none => (x, log.report path .invalidUnion (unionMessage alternatives.length))
  | .exclusiveUnion alternatives, path, x, log =>
    match outputs alternatives path x with
    | [y] => (y, log)
    | [] => (x, log.report path .invalidUnion (unionMessage alternatives.length))
    | ys => (x, log.report path .invalidUnion (exclusiveMessage ys.length))
  | .intersection branches, path, x, log =>
    let (ys, log) := runBranches branches path x log
    (mergeOutputs x ys, log)

def runPositions : List Validator → String → Nat → List Json → Log → List Json × Log
  | v :: vs, path, i, x :: rest, log =>
    let (y, log) := v.run (Pointer.child path (toString i)) x log
    let (ys, log) := runPositions vs path (i + 1) rest log
    (y :: ys, log)
  | _, _, _, _, log => ([], log)

/-- A present member is run, an absent one takes its default, and one without is an issue if it is
required. -/
def runFields : List Field → String → Json.Members → Json.Members → Log → Json.Members × Log
  | [], _, _, output, log => (output, log)
  | ⟨name, required, v⟩ :: rest, path, members, output, log =>
    match members.lookup name with
    | some x =>
      let (y, log) := v.run (Pointer.child path name) x log
      runFields rest path members (Json.put name y output) log
    | none =>
      match v.defaultValue with
      | some d => runFields rest path members (Json.put name d output) log
      | none =>
        if required then
          runFields rest path members output
            (log.report (Pointer.child path name) .required "Required")
        else runFields rest path members output log

def UnknownKeys.run : UnknownKeys → String → Json.Members → Json.Members → Log →
    Json.Members × Log
  | .reject, path, output, others, log =>
    if others.isEmpty then (output, log)
    else (output, log.report path .unrecognizedKeys (unrecognizedMessage (Json.keys others)))
  | .accept, _, output, others, log => (putAll output others, log)
  | .validate v, path, output, others, log => visitMembers v.run path output others log

def firstOutput? : List Validator → String → Json → Option Json
  | [], _, _ => none
  | v :: rest, path, x =>
    let (y, found) := v.run path x []
    if found.isEmpty then some y else firstOutput? rest path x

def outputs : List Validator → String → Json → List Json
  | [], _, _ => []
  | v :: rest, path, x =>
    let (y, found) := v.run path x []
    if found.isEmpty then y :: outputs rest path x else outputs rest path x

def runBranches : List Validator → String → Json → Log → List Json × Log
  | [], _, _, log => ([], log)
  | v :: rest, path, x, log =>
    let (y, log) := v.run path x log
    let (ys, log) := runBranches rest path x log
    (y :: ys, log)

end

namespace Validator

/-- The value with its defaults filled in, or everything that is wrong with it. -/
def parse (v : Validator) (x : Json) : Except ValidationError Json :=
  let (y, log) := v.run "" x []
  if log.isEmpty then .ok y else .error ⟨log⟩

def isValid (v : Validator) (x : Json) : Bool := (v.parse x).toBool

end Validator

end SchemaCheck
