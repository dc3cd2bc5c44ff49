import SchemaCheck.Binary64.Rounding

namespace SchemaCheck

/-- A double as an exact number: a sign and a whole number of units of 2⁻¹⁰⁷⁴ that has at most 53
significant bits. There is no largest one: `overflows` says which ones a reader has to refuse. -/
structure Binary64 where
  negative : Bool
  units : Nat
  fits : Binary64.Fits units
deriving DecidableEq

namespace Binary64

/-- The units in 1, which are 2¹⁰⁷⁴. -/
def unit : Nat := 1 <<< 1074

/-- The double nearest to the quotient of `n` units by `d`. -/
def ofQuotient (negative : Bool) (n d : Nat) : Binary64 :=
  ⟨negative, nearest n d, fits_nearest n d⟩

def zero (negative : Bool) : Binary64 := ⟨negative, 0, fits_zero⟩

instance : Inhabited Binary64 := ⟨zero false⟩

/-- The nearest double to an integer, a tie going to the even significand. -/
def ofInt (i : Int) : Binary64 := ofQuotient (i < 0) (i.natAbs * unit) 1

/-- The exact value, counted in units. The two zeros have the same. -/
def signedUnits (x : Binary64) : Int := if x.negative then -x.units else x.units

def neg (x : Binary64) : Binary64 := { x with negative := !x.negative }

def abs (x : Binary64) : Binary64 := { x with negative := false }

instance : LT Binary64 := ⟨fun x y => x.signedUnits < y.signedUnits⟩
instance : LE Binary64 := ⟨fun x y => x.signedUnits ≤ y.signedUnits⟩
instance (x y : Binary64) : Decidable (x < y) := Int.decLt x.signedUnits y.signedUnits
instance (x y : Binary64) : Decidable (x ≤ y) := Int.decLe x.signedUnits y.signedUnits

/-- Equality of values, under which the two zeros are one. -/
def sameValue (x y : Binary64) : Bool := x.signedUnits = y.signedUnits

def isWhole (x : Binary64) : Bool := x.units % unit = 0

def isZero (x : Binary64) : Bool := x.units = 0

/-- The integer part, rounded toward zero. -/
def truncate (x : Binary64) : Int :=
  if x.negative then -(x.units / unit : Nat) else (x.units / unit : Nat)

def overflows (x : Binary64) : Bool := unit <<< 1024 ≤ x.units

/-- Product, rounded. -/
def mul (x y : Binary64) : Binary64 :=
  ofQuotient (x.negative != y.negative) (x.units * y.units) unit

/-- Quotient, rounded. A zero divisor has none. -/
def div? (x y : Binary64) : Option Binary64 :=
  if y.isZero then none
  else some (ofQuotient (x.negative != y.negative) (x.units * unit) y.units)

/-- The units between `x` and the nearest whole number. -/
def unitsOffWhole (x : Binary64) : Nat := min (x.units % unit) (unit - x.units % unit)

/-- How far a quotient may lie from a whole number and still count as one: 10⁻⁹. -/
def tolerance : Binary64 := ofQuotient false unit 1000000000

/-- The rounded quotient is whole within the tolerance. Nothing is told apart by a zero step. -/
def isMultipleOf (x step : Binary64) : Bool :=
  match x.div? step with
  | none => true
  | some quotient => quotient.unitsOffWhole ≤ tolerance.units

theorem unit_pos : 0 < unit := by decide

theorem sameValue_refl (x : Binary64) : x.sameValue x = true := by simp [sameValue]

theorem sameValue_comm (x y : Binary64) : x.sameValue y = y.sameValue x := by
  simp only [sameValue, eq_comm]

theorem units_ofInt (i : Int) : (ofInt i).units = nearest (i.natAbs * unit) 1 := rfl

end Binary64

end SchemaCheck
