import SchemaCheck.Schema.Error
import SchemaCheck.Check

namespace SchemaCheck.Schema

open Json (Members)

/-- The message stands under the keyword that ends in Message, or among the error messages. -/
def customMessage (node : Members) (keyword : String) : Option String :=
  match (node.lookup (keyword ++ "Message")).bind Json.string? with
  | some text => some text
  | none => ((node.lookup "errorMessage").bind Json.object?).bind fun messages =>
      (messages.lookup keyword).bind Json.string?

def Mistake.toError (path keyword : String) : Mistake → Error
  | .badPattern source => .invalidPattern path source
  | m => .malformed path (.constraint keyword m)

/-- The check that a keyword makes. A keyword that is absent or reads as no rule makes none. -/
def constraint {ρ : Type} (node : Members) (path keyword : String)
    (read : Json → Except Mistake (Option ρ)) : Except Error (List (Check ρ)) :=
  match node.lookup keyword with
  | none => .ok []
  | some x =>
    match read x with
    | .error m => .error (m.toError path keyword)
    | .ok none => .ok []
    | .ok (some rule) => .ok [⟨rule, customMessage node keyword⟩]

def readCount : Json → Except Mistake Nat
  | .number n =>
    match n.toCount? with
    | some count => .ok count
    | none => .error (.notCount (.number n))
  | x => .error (.notCount x)

def readNumber : Json → Except Mistake Binary64
  | .number n => .ok n.toBinary64
  | x => .error (.notNumber x)

def readString : Json → Except Mistake String
  | .string s => .ok s
  | _ => .error .notString

def counted {ρ : Type} (rule : Nat → ρ) (x : Json) : Except Mistake (Option ρ) :=
  (readCount x).map fun n => some (rule n)

def bounded (rule : Binary64 → NumberRule) (x : Json) : Except Mistake (Option NumberRule) :=
  (readNumber x).map fun n => some (rule n)

def readPattern (x : Json) : Except Mistake (Option StringRule) := do
  let source ← readString x
  match Pattern.ofSource? source with
  | some p => .ok (some (.pattern p))
  | none => .error (.badPattern source)

/-- A format that is not checked makes no rule. -/
def readFormat (x : Json) : Except Mistake (Option StringRule) := do
  let keyword ← readString x
  .ok ((Format.ofKeyword? keyword).map .format)

def stringChecks (node : Members) (path : String) : Except Error (List (Check StringRule)) := do
  let min ← constraint node path "minLength" (counted .minLength)
  let max ← constraint node path "maxLength" (counted .maxLength)
  let pattern ← constraint node path "pattern" readPattern
  let format ← constraint node path "format" readFormat
  .ok (min ++ max ++ pattern ++ format)

/-- The two sides on which a number may be bounded. -/
inductive Side
  | lower
  | upper

namespace Side

def keyword : Side → String
  | lower => "exclusiveMinimum"
  | upper => "exclusiveMaximum"

def rule : Side → Binary64 → NumberRule
  | lower => .exclusiveMinimum
  | upper => .exclusiveMaximum

/-- The exclusive form of an inclusive bound on this side. -/
def sharpen? : Side → NumberRule → Option NumberRule
  | lower, .minimum bound => some (.exclusiveMinimum bound)
  | upper, .maximum bound => some (.exclusiveMaximum bound)
  | _, _ => none

def sharpen (side : Side) (message : Option String) (c : Check NumberRule) : Check NumberRule :=
  match side.sharpen? c.rule with
  | some rule => ⟨rule, message.or c.message⟩
  | none => c

/-- An exclusive bound is a number of its own, or true to make the inclusive one exclusive. -/
def exclude (side : Side) (node : Members) (path : String) (checks : List (Check NumberRule)) :
    Except Error (List (Check NumberRule)) :=
  match node.lookup side.keyword with
  | none => .ok checks
  | some (.bool false) => .ok checks
  | some (.bool true) => .ok (checks.map (side.sharpen (customMessage node side.keyword)))
  | some _ => do
    let added ← constraint node path side.keyword (bounded side.rule)
    .ok (checks ++ added)

end Side

def readStep (x : Json) : Except Mistake (Option NumberRule) := do
  let step ← readNumber x
  if 0 < step.signedUnits then .ok (some (.multipleOf step)) else .error .notPositive

def numberChecks (node : Members) (path : String) : Except Error (List (Check NumberRule)) := do
  let min ← constraint node path "minimum" (bounded .minimum)
  let max ← constraint node path "maximum" (bounded .maximum)
  let checks ← Side.lower.exclude node path (min ++ max)
  let checks ← Side.upper.exclude node path checks
  let step ← constraint node path "multipleOf" readStep
  .ok (checks ++ step)

def readUnique : Json → Except Mistake (Option ArrayRule)
  | .bool true => .ok (some .uniqueItems)
  | .bool false => .ok none
  | x => .error (.notBoolean x)

def arrayChecks (node : Members) (path : String) : Except Error (List (Check ArrayRule)) := do
  let min ← constraint node path "minItems" (counted .minItems)
  let max ← constraint node path "maxItems" (counted .maxItems)
  let unique ← constraint node path "uniqueItems" readUnique
  .ok (min ++ max ++ unique)

def objectChecks (node : Members) (path : String) : Except Error (List (Check ObjectRule)) := do
  let min ← constraint node path "minProperties" (counted .minProperties)
  let max ← constraint node path "maxProperties" (counted .maxProperties)
  .ok (min ++ max)

end SchemaCheck.Schema
