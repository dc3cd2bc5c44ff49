import SchemaCheck.Decimal.Shortest

namespace SchemaCheck.Decimal

structure Layout where
  tie : Tie
  positional : Int → Bool
  pointZero : Bool

/-- JSON text: positional when the leading digit stands between 10⁻⁵ and 10¹⁵, always with a
fraction there. -/
def Layout.json : Layout where
  tie := .even
  positional e := -5 ≤ e && e ≤ 15
  pointZero := true

/-- Running text: always positional, whole numbers bare. -/
def Layout.plain : Layout where
  tie := .up
  positional _ := true
  pointZero := false

def zeros (n : Nat) : String := String.ofList (List.replicate n '0')

def withPoint (digits : List Char) (whole : Nat) : String :=
  String.ofList (digits.take whole) ++ "." ++ String.ofList (digits.drop whole)

def Layout.positionalText (l : Layout) (digits : List Char) (exponent : Int) : String :=
  if 0 ≤ exponent then
    String.ofList digits ++ zeros exponent.toNat ++ (if l.pointZero then ".0" else "")
  else
    let places := (-exponent).toNat
    if places < digits.length then withPoint digits (digits.length - places)
    else "0." ++ zeros (places - digits.length) ++ String.ofList digits

def scientificText (digits : List Char) (lead : Int) : String :=
  let mantissa := if digits.length ≤ 1 then String.ofList digits else withPoint digits 1
  mantissa ++ (if lead < 0 then "e-" else "e+") ++ toString lead.natAbs

def Layout.unsigned (l : Layout) (units : Nat) : String :=
  let s := shortest l.tie units
  let digits := Nat.toDigits 10 s.coefficient
  let lead := s.exponent + digits.length - 1
  if l.positional lead then l.positionalText digits s.exponent else scientificText digits lead

def Layout.write (l : Layout) (x : Binary64) : String :=
  (if x.negative then "-" else "") ++ l.unsigned x.units

end SchemaCheck.Decimal
