import SchemaCheck.Issue
import SchemaCheck.Format.Basic
import SchemaCheck.Pattern.Basic
import SchemaCheck.Decimal.Layout

namespace SchemaCheck

inductive StringRule
  | minLength (n : Nat)
  | maxLength (n : Nat)
  | pattern (p : Pattern)
  | format (f : Format)

inductive NumberRule
  | minimum (bound : Binary64)
  | maximum (bound : Binary64)
  | exclusiveMinimum (bound : Binary64)
  | exclusiveMaximum (bound : Binary64)
  | multipleOf (step : Binary64)
deriving DecidableEq

inductive ArrayRule
  | minItems (n : Nat)
  | maxItems (n : Nat)
  | uniqueItems
deriving DecidableEq

inductive ObjectRule
  | minProperties (n : Nat)
  | maxProperties (n : Nat)
deriving DecidableEq

/-- A type of rules about values of type `α`. -/
class Rule (ρ : Type) (α : outParam Type) where
  holds : ρ → α → Bool
  code : ρ → IssueCode
  message : ρ → String

/-- Lengths count characters. -/
instance : Rule StringRule String where
  holds
    | .minLength n, s => n ≤ s.length
    | .maxLength n, s => s.length ≤ n
    | .pattern p, s => p.isMatch s
    | .format f, s => f.isMatch s
  code
    | .minLength _ => .tooSmall
    | .maxLength _ => .tooBig
    | .pattern _ => .invalidString
    | .format _ => .invalidString
  message
    | .minLength n => s!"String must contain at least {n} character(s)"
    | .maxLength n => s!"String must contain at most {n} character(s)"
    | .pattern p => "String must match pattern " ++ p.source
    | .format f => "Invalid " ++ f.keyword

def boundText (x : Binary64) : String := Decimal.Layout.plain.write x

instance : Rule NumberRule Binary64 where
  holds
    | .minimum bound, x => bound ≤ x
    | .maximum bound, x => x ≤ bound
    | .exclusiveMinimum bound, x => bound < x
    | .exclusiveMaximum bound, x => x < bound
    | .multipleOf step, x => x.isMultipleOf step
  code
    | .minimum _ => .tooSmall
    | .maximum _ => .tooBig
    | .exclusiveMinimum _ => .tooSmall
    | .exclusiveMaximum _ => .tooBig
    | .multipleOf _ => .notMultipleOf
  message
    | .minimum bound => "Number must be greater than or equal to " ++ boundText bound
    | .maximum bound => "Number must be less than or equal to " ++ boundText bound
    | .exclusiveMinimum bound => "Number must be greater than " ++ boundText bound
    | .exclusiveMaximum bound => "Number must be less than " ++ boundText bound
    | .multipleOf step => "Number must be a multiple of " ++ boundText step

/-- No two items have the same value. -/
def allDistinct : List Json → Bool
  | [] => true
  | x :: rest => !rest.any (Json.sameValue x) && allDistinct rest

instance : Rule ArrayRule (List Json) where
  holds
    | .minItems n, items => n ≤ items.length
    | .maxItems n, items => items.length ≤ n
    | .uniqueItems, items => allDistinct items
  code
    | .minItems _ => .tooSmall
    | .maxItems _ => .tooBig
    | .uniqueItems => .notUnique
  message
    | .minItems n => s!"Array must contain at least {n} element(s)"
    | .maxItems n => s!"Array must contain at most {n} element(s)"
    | .uniqueItems => "Array items must be unique"

/-- An object is judged by the number of its members. -/
instance : Rule ObjectRule Nat where
  holds
    | .minProperties n, count => n ≤ count
    | .maxProperties n, count => count ≤ n
  code
    | .minProperties _ => .tooSmall
    | .maxProperties _ => .tooBig
  message
    | .minProperties n => s!"Object must contain at least {n} propert(ies)"
    | .maxProperties n => s!"Object must contain at most {n} propert(ies)"

/-- Without a message of its own a check uses that of its rule. -/
structure Check (ρ : Type) where
  rule : ρ
  message : Option String

namespace Check

variable {ρ α : Type} [Rule ρ α]

def holds (c : Check ρ) (x : α) : Bool := Rule.holds c.rule x

def issue? (c : Check ρ) (path : String) (x : α) : Option Issue :=
  if c.holds x then none
  else some (.at_ path (Rule.code c.rule) (c.message.getD (Rule.message c.rule)))

def issues (checks : List (Check ρ)) (path : String) (x : α) : List Issue :=
  checks.filterMap (·.issue? path x)

theorem issue?_eq_none_iff (c : Check ρ) (path : String) (x : α) :
    c.issue? path x = none ↔ c.holds x = true := by
  simp [issue?]

theorem issues_eq_nil_iff (checks : List (Check ρ)) (path : String) (x : α) :
    issues checks path x = [] ↔ ∀ c ∈ checks, c.holds x = true := by
  simp [issues, issue?_eq_none_iff]

end Check

end SchemaCheck
