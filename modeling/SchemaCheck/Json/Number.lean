import SchemaCheck.Binary64.Basic

namespace SchemaCheck.Json

/-- The two are told apart when they are written. -/
inductive Number
  | int (value : Int)
  | double (value : Binary64)
deriving DecidableEq

namespace Number

instance : Inhabited Number := ⟨.int 0⟩

def toBinary64 : Number → Binary64
  | int i => .ofInt i
  | double x => x

def isIntegral : Number → Bool
  | int _ => true
  | double x => x.isWhole

/-- Two integers are compared exactly, any other pair as doubles. -/
def sameValue : Number → Number → Bool
  | int i, int j => i = j
  | x, y => x.toBinary64.sameValue y.toBinary64

/-- The largest count, to which larger doubles are cut. -/
def largestCount : Nat := UInt64.size - 1

/-- The number as a count: a whole number that is not negative. -/
def toCount? : Number → Option Nat
  | int i => if 0 ≤ i then some i.toNat else none
  | double x =>
    if 0 ≤ x.signedUnits ∧ x.isWhole then some (min (x.units / Binary64.unit) largestCount)
    else none

theorem sameValue_refl (x : Number) : x.sameValue x = true := by
  cases x <;> simp [sameValue, Binary64.sameValue_refl]

theorem sameValue_comm (x y : Number) : x.sameValue y = y.sameValue x := by
  cases x <;> cases y <;> simp only [sameValue, Binary64.sameValue_comm, eq_comm]

end Number

end SchemaCheck.Json
