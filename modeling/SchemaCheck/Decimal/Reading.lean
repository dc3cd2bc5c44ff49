import SchemaCheck.Binary64.Basic

namespace SchemaCheck.Decimal

def powerOfTen (k : Nat) : Binary64 := .ofQuotient false (Nat.pow 10 k * Binary64.unit) 1

def largestPower : Nat := 308

/-- Divides by the largest power until what is left of `k` is below it, or nothing is left of
`x`. -/
def divideDown (x : Binary64) (k : Nat) : Binary64 :=
  if x.isZero then x
  else if k ≤ largestPower then (x.div? (powerOfTen k)).getD x
  else divideDown ((x.div? (powerOfTen largestPower)).getD x) (k - largestPower)
termination_by k
decreasing_by simp_all [largestPower]; omega

/-- The double read from `significand · 10 ^ exponent`, or none if it is too large. -/
def toBinary64? (negative : Bool) (significand : Nat) (exponent : Int) : Option Binary64 :=
  let x := Binary64.ofInt significand
  let scaled : Option Binary64 :=
    if exponent < 0 then some (divideDown x (-exponent).toNat)
    else if x.isZero then some x
    else if exponent ≤ largestPower then some (x.mul (powerOfTen exponent.toNat))
    else none
  scaled.bind fun y => if y.overflows then none else some { y with negative }

end SchemaCheck.Decimal
