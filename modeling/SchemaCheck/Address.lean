import SchemaCheck.Text.Digits
import SchemaCheck.Text.Fields

namespace SchemaCheck.Address

open Text (decimal fields hexadecimal isHexDigit)

/-- A number from 0 to 255 without a leading zero. -/
def octet? (cs : List Char) : Option Nat :=
  if cs ≠ [] ∧ cs.length ≤ 3 ∧ cs.all Char.isDigit ∧ (cs.length = 1 ∨ cs.head? ≠ some '0') ∧
      decimal cs ≤ 255 then
    some (decimal cs)
  else none

def octets? (cs : List Char) : Option (List Nat) :=
  ((fields (· = '.') cs).mapM octet?).bind fun octets =>
    if octets.length = 4 then some octets else none

def group? (cs : List Char) : Option Nat :=
  if cs ≠ [] ∧ cs.length ≤ 4 ∧ cs.all isHexDigit then some (hexadecimal cs) else none

def embedded? (cs : List Char) : Option (List Nat) :=
  match octets? cs with
  | some [a, b, c, d] => some [a * 256 + b, c * 256 + d]
  | _ => none

/-- The groups in some fields, the last of which may be a version 4 address. -/
def groupsOf? : List (List Char) → Option (List Nat)
  | [] => none
  | [last] => ((group? last).map ([·])).or (embedded? last)
  | g :: rest => do pure ((← group? g) :: (← groupsOf? rest))

/-- The text before the first double colon, and the text after it. -/
def splitDoubleColon? : List Char → Option (List Char × List Char)
  | ':' :: ':' :: rest => some ([], rest)
  | c :: rest => (splitDoubleColon? rest).map fun (head, tail) => (c :: head, tail)
  | [] => none

def headGroups? (cs : List Char) : Option (List Nat) :=
  if cs = [] then some [] else (fields (· = ':') cs).mapM group?

def tailGroups? (cs : List Char) : Option (List Nat) :=
  if cs = [] then some [] else groupsOf? (fields (· = ':') cs)

def groups? (cs : List Char) : Option (List Nat) :=
  match splitDoubleColon? cs with
  | none =>
    (groupsOf? (fields (· = ':') cs)).bind fun groups =>
      if groups.length = 8 then some groups else none
  | some (head, tail) => do
    let head ← headGroups? head
    let tail ← tailGroups? tail
    let missing := 8 - (head.length + tail.length)
    if 0 < missing then some (head ++ List.replicate missing 0 ++ tail) else none

def octetsText (octets : List Nat) : String := String.intercalate "." (octets.map toString)

def groupText (n : Nat) : String := String.ofList (Nat.toDigits 16 n)

def groupTexts (groups : List Nat) : String := String.intercalate ":" (groups.map groupText)

def zeroRun (groups : List Nat) : Nat := (groups.takeWhile (· = 0)).length

/-- Where the longest run of zeros starts, and its length. Of two equal ones the first counts. -/
def longestRun : List Nat → Nat × Nat
  | [] => (0, 0)
  | g :: rest =>
    let (start, length) := longestRun rest
    if 0 < zeroRun (g :: rest) ∧ length ≤ zeroRun (g :: rest) then (0, zeroRun (g :: rest))
    else (start + 1, length)

/-- A double colon stands for the longest run of at least two zeros. -/
def groupsText (groups : List Nat) : String :=
  let (start, length) := longestRun groups
  if 2 ≤ length then
    groupTexts (groups.take start) ++ "::" ++ groupTexts (groups.drop (start + length))
  else groupTexts groups

end SchemaCheck.Address
