import SchemaCheck.Text.Digits
import SchemaCheck.Text.Fields

namespace SchemaCheck.Unicode

open Text (fields hexadecimal words)

structure Range where
  first : Nat
  last : Nat
deriving DecidableEq, Inhabited

/-- A set of characters as ascending, disjoint ranges of code points. -/
structure CharSet where
  ranges : List Range
deriving DecidableEq, Inhabited

namespace CharSet

def empty : CharSet := ⟨[]⟩

/-- Joins neighbours in a list of ranges that ascends by first element. -/
def joinFrom (current : Range) : List Range → List Range
  | [] => [current]
  | r :: rest =>
    if r.first ≤ current.last + 1 then joinFrom ⟨current.first, max current.last r.last⟩ rest
    else current :: joinFrom r rest

def join : List Range → List Range
  | [] => []
  | r :: rest => joinFrom r rest

def ofRanges (ranges : List Range) : CharSet :=
  ⟨join ((ranges.filter fun r => r.first ≤ r.last).mergeSort fun a b => a.first ≤ b.first)⟩

def range (first last : Char) : CharSet := ofRanges [⟨first.toNat, last.toNat⟩]

def single (c : Char) : CharSet := ⟨[⟨c.toNat, c.toNat⟩]⟩

def ofChars (cs : List Char) : CharSet := ofRanges (cs.map fun c => ⟨c.toNat, c.toNat⟩)

def hasCode (s : CharSet) (n : Nat) : Bool := s.ranges.any fun r => r.first ≤ n && n ≤ r.last

def has (s : CharSet) (c : Char) : Bool := s.hasCode c.toNat

def union (s t : CharSet) : CharSet := ofRanges (s.ranges ++ t.ranges)

def unions (sets : List CharSet) : CharSet := ofRanges (sets.flatMap (·.ranges))

/-- The gaps between ascending ranges, from `next` to the last code point. -/
def gaps (next : Nat) : List Range → List Range
  | [] => if next ≤ 0x10FFFF then [⟨next, 0x10FFFF⟩] else []
  | r :: rest =>
    if next < r.first then ⟨next, r.first - 1⟩ :: gaps (r.last + 1) rest
    else gaps (r.last + 1) rest

def surrogates : Range := ⟨0xD800, 0xDFFF⟩

/-- The characters outside the set. Surrogates are not characters. -/
def compl (s : CharSet) : CharSet := ⟨gaps 0 (ofRanges (surrogates :: s.ranges)).ranges⟩

def inter (s t : CharSet) : CharSet := (s.compl.union t.compl).compl

def diff (s t : CharSet) : CharSet := s.inter t.compl

def symmDiff (s t : CharSet) : CharSet := (s.diff t).union (t.diff s)

def isAscii (s : CharSet) : Bool := s.ranges.all fun r => r.last < 0x80

def only? (s : CharSet) : Option Char :=
  match s.ranges with
  | [r] => if r.first = r.last then some (Char.ofNat r.first) else none
  | _ => none

end CharSet

def readRange (cs : List Char) : Range :=
  match fields (· = '-') cs with
  | [a, b] => ⟨hexadecimal a, hexadecimal b⟩
  | _ => ⟨hexadecimal cs, hexadecimal cs⟩

/-- Tables are texts of hexadecimal code points, with a hyphen between the ends of a range. -/
def CharSet.ofTable (text : String) : CharSet := ⟨(words text.toList).map readRange⟩

end SchemaCheck.Unicode
