import SchemaCheck.Json.Number
import SchemaCheck.Decimal.Reading
import SchemaCheck.Text.Digits

namespace SchemaCheck.Json

/-- Digits read so far: a 64-bit significand, its power of ten, and whether a digit was turned
away. -/
structure Gathered where
  significand : Nat
  exponent : Int
  full : Bool

namespace Gathered

def empty : Gathered := ⟨0, 0, false⟩

def takes (g : Gathered) (c : Char) : Bool :=
  g.significand * 10 + Text.digitValue c ≤ Number.largestCount

/-- A digit before the point. From the first that does not fit on, digits only scale. -/
def whole (g : Gathered) (c : Char) : Gathered :=
  if !g.full && g.takes c then { g with significand := g.significand * 10 + Text.digitValue c }
  else { g with exponent := g.exponent + 1, full := true }

/-- A digit after the point. From the first that does not fit on, digits are dropped. -/
def fraction (g : Gathered) (c : Char) : Gathered :=
  if !g.full && g.takes c then
    { g with significand := g.significand * 10 + Text.digitValue c, exponent := g.exponent - 1 }
  else { g with full := true }

def scale (g : Gathered) (by_ : Int) : Gathered := { g with exponent := g.exponent + by_ }

end Gathered

/-- The parts of a numeral, each a list of digits. -/
structure Numeral where
  negative : Bool
  whole : List Char
  fraction : Option (List Char)
  exponent : Option Int

namespace Numeral

def readExponent? : List Char → Option Int
  | '-' :: ds => if ds ≠ [] ∧ ds.all Char.isDigit then some (-(Text.decimal ds : Int)) else none
  | '+' :: ds => if ds ≠ [] ∧ ds.all Char.isDigit then some (Text.decimal ds) else none
  | ds => if ds ≠ [] ∧ ds.all Char.isDigit then some (Text.decimal ds) else none

def readTail? (negative : Bool) (whole : List Char) (fraction : Option (List Char)) :
    List Char → Option Numeral
  | [] => some ⟨negative, whole, fraction, none⟩
  | c :: rest =>
    if c = 'e' ∨ c = 'E' then
      (readExponent? rest).map fun e => ⟨negative, whole, fraction, some e⟩
    else none

def readUnsigned? (negative : Bool) (cs : List Char) : Option Numeral :=
  let whole := cs.takeWhile Char.isDigit
  if whole = [] ∨ (whole.head? = some '0' ∧ whole.length ≠ 1) then none
  else
    match cs.dropWhile Char.isDigit with
    | '.' :: rest =>
      let fraction := rest.takeWhile Char.isDigit
      if fraction = [] then none
      else readTail? negative whole (some fraction) (rest.dropWhile Char.isDigit)
    | rest => readTail? negative whole none rest

def read? : List Char → Option Numeral
  | '-' :: cs => readUnsigned? true cs
  | cs => readUnsigned? false cs

def gathered (n : Numeral) : Gathered :=
  let whole := n.whole.foldl Gathered.whole .empty
  let all := (n.fraction.getD []).foldl Gathered.fraction { whole with full := false }
  all.scale (n.exponent.getD 0)

/-- The integer that the numeral spells, if it is spelled as one and fits. -/
def integer? (n : Numeral) : Option Int :=
  if n.fraction.isSome || n.exponent.isSome then none
  else
    let magnitude := Text.decimal n.whole
    if n.negative then if 0 < magnitude ∧ magnitude ≤ 1 <<< 63 then some (-magnitude) else none
    else if magnitude ≤ Number.largestCount then some magnitude else none

def number? (n : Numeral) : Option Number :=
  match n.integer? with
  | some i => some (.int i)
  | none =>
    (Decimal.toBinary64? n.negative n.gathered.significand n.gathered.exponent).map .double

end Numeral

end SchemaCheck.Json
