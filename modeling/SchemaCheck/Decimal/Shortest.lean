import SchemaCheck.Binary64.Basic

namespace SchemaCheck.Decimal

/-- Which of two equally near grid points is written. -/
inductive Tie
  | even
  | up
deriving DecidableEq

/-- The number `coefficient · 10 ^ exponent`. -/
structure Scientific where
  coefficient : Nat
  exponent : Int
deriving DecidableEq

/-- Where the exponent search starts: no power below 10⁻³²⁴ leads a double. -/
def lowestExponent : Nat := 324

/-- The exponent of the leading digit of `n` units: the largest `e` with `10 ^ e` not above it. -/
def leadingExponent (n : Nat) : Int :=
  let digits := Nat.toDigits 10 (n * Nat.pow 10 lowestExponent / Binary64.unit)
  (digits.length : Int) - 1 - lowestExponent

def dropTrailingZeros : Nat → Nat → Int → Scientific
  | 0, c, e => ⟨c, e⟩
  | fuel + 1, c, e => if c % 10 = 0 then dropTrailingZeros fuel (c / 10) (e + 1) else ⟨c, e⟩

/-- The reals that round to `n` units, in quarter units. The lower half gap of a power of two is
half as wide, since the doubles below it are twice as dense. -/
structure Interval where
  low : Nat
  high : Nat
  closed : Bool

def roundingInterval (n : Nat) : Interval :=
  let gap := 1 <<< Binary64.spareBits n
  let lower := if 1 < gap ∧ n = 1 <<< n.log2 then 1 else 2
  { low := 4 * n - lower * gap, high := 4 * n + 2 * gap, closed := n / gap % 2 = 0 }

def Interval.holds (i : Interval) (c d : Nat) : Bool :=
  if i.closed then i.low * d ≤ c && c ≤ i.high * d else i.low * d < c && c < i.high * d

/-- The point of the grid `10 ^ e` that reads back as `n` units, if there is one. -/
def onGrid? (tie : Tie) (n : Nat) (e : Int) : Option Scientific :=
  let num := n * Nat.pow 10 (-e).toNat
  let den := Binary64.unit * Nat.pow 10 e.toNat
  let floor := num / den
  let holds (c : Nat) : Bool :=
    (roundingInterval n).holds (4 * c * den) (Nat.pow 10 (-e).toNat)
  let nearer : Nat :=
    if 2 * (num % den) < den then floor
    else if den < 2 * (num % den) then floor + 1
    else match tie with
      | .up => floor + 1
      | .even => floor + floor % 2
  match holds floor, holds (floor + 1) with
  | true, true => some ⟨nearer, e⟩
  | true, false => some ⟨floor, e⟩
  | false, true => some ⟨floor + 1, e⟩
  | false, false => none

/-- The first grid with a hit, where `digits` counts up to 17 from the given start. -/
def firstGrid (tie : Tie) (n : Nat) (lead : Int) : Nat → Nat → Scientific
  | 0, digits =>
    ⟨n * Nat.pow 10 (digits - 1 - lead).toNat /
        (Binary64.unit * Nat.pow 10 (lead + 1 - digits).toNat),
      lead + 1 - digits⟩
  | fuel + 1, digits =>
    match onGrid? tie n (lead + 1 - digits) with
    | some s => s
    | none => firstGrid tie n lead fuel (digits + 1)

/-- The fewest digits that read back as `n` units, without trailing zeros. -/
def shortest (tie : Tie) (n : Nat) : Scientific :=
  if n = 0 then ⟨0, 0⟩
  else
    let s := firstGrid tie n (leadingExponent n) 17 1
    dropTrailingZeros 20 s.coefficient s.exponent

end SchemaCheck.Decimal
