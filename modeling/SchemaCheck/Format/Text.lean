import SchemaCheck.Unicode.Query
import SchemaCheck.Text.Digits

namespace SchemaCheck.Format

/-- Some point of the text has characters before and after it. -/
def hasInnerPoint (cs : List Char) : Bool := ((cs.drop 1).dropLast).contains '.'

def isEmail (cs : List Char) : Bool :=
  let local_ := cs.takeWhile (· ≠ '@')
  let domain := (cs.dropWhile (· ≠ '@')).drop 1
  local_ ≠ [] && hasInnerPoint domain && !domain.contains '@' &&
    !cs.any Unicode.blankChars.has

def uuidHyphens : List Nat := [8, 13, 18, 23]

def isUuid (cs : List Char) : Bool :=
  cs.length = 36 && cs.zipIdx.all fun (c, i) =>
    if uuidHyphens.contains i then c = '-' else Text.isHexDigit c

end SchemaCheck.Format
