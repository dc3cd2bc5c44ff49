import SchemaCheck.Unicode.Composition
import SchemaCheck.Unicode.Direction
import SchemaCheck.Unicode.DomainMapping
import SchemaCheck.Unicode.Joining
import SchemaCheck.Unicode.Query
import SchemaCheck.Url.Punycode

namespace SchemaCheck.Url.Label

open Unicode (domainReplacement? category)

def isAscii (label : List Char) : Bool := label.all Punycode.isPlain

def marker : List Char := "xn--".toList

def encode (label : List Char) : List Char :=
  if isAscii label then label else marker ++ Punycode.encode label

/-- The label that a written form stands for, if it is one. What follows the marker has to stand for
something that needs it. -/
def decode? (written : List Char) : Option (List Char) :=
  if marker.isPrefixOf written then
    (Punycode.decode? (written.drop marker.length)).bind fun label =>
      if isAscii label then none else some label
  else some written

def markChars : Unicode.CharSet :=
  .unions [category "mn", category "mc", category "me"]

def startsWithMark : List Char → Bool
  | [] => false
  | c :: _ => markChars.has c

def nonJoiner : Char := '\u200c'
def joiner : Char := '\u200d'

def viramaClass : Nat := 9

/-- The nearest character that is not transparent joins towards this place. -/
def joins (sides : List Unicode.CharSet) (neighbours : List Char) : Bool :=
  match neighbours.dropWhile Unicode.Joining.transparent.has with
  | [] => false
  | c :: _ => sides.any (·.has c)

/-- A joiner may stand between these texts, the first of which is reversed. -/
def joinerFits (c : Char) (before after : List Char) : Bool :=
  (match before with
    | [] => false
    | b :: _ => Unicode.Composition.combiningClass b.toNat = viramaClass) ||
  c = nonJoiner &&
    joins [Unicode.Joining.next, Unicode.Joining.both] before &&
    joins [Unicode.Joining.previous, Unicode.Joining.both] after

def joinersFit (before : List Char) : List Char → Bool
  | [] => true
  | c :: rest =>
    (c ≠ nonJoiner && c ≠ joiner || joinerFits c before rest) && joinersFit (c :: before) rest

/-- Preparing the label would leave it as it is. -/
def isPrepared (label : List Char) : Bool :=
  label.all (fun c => domainReplacement? c = some [c]) && Unicode.Composition.normal label = label

def isProper (label : List Char) : Bool :=
  isAscii label || isPrepared label && !startsWithMark label && joinersFit [] label

open Unicode.Direction

def isLeft (c : Char) : Bool :=
  !right.has c && !arabicNumber.has c && !europeanNumber.has c && !nonspacing.has c &&
    !neutral.has c

def hasRight (label : List Char) : Bool := label.any fun c => right.has c || arabicNumber.has c

def endsWith (isKind : Char → Bool) (label : List Char) : Bool :=
  match label.reverse.dropWhile nonspacing.has with
  | [] => false
  | c :: _ => isKind c

def runsRight (label : List Char) : Bool :=
  label.all (fun c => !isLeft c) &&
    endsWith (fun c => right.has c || europeanNumber.has c || arabicNumber.has c) label &&
    !(label.any europeanNumber.has && label.any arabicNumber.has)

def runsLeft (label : List Char) : Bool :=
  label.all (fun c => !right.has c && !arabicNumber.has c) &&
    endsWith (fun c => isLeft c || europeanNumber.has c) label

/-- The first character decides which way a label runs, and the others have to fit in. -/
def keepsDirection (label : List Char) : Bool :=
  match label with
  | [] => true
  | c :: _ => if right.has c then runsRight label else isLeft c && runsLeft label

end SchemaCheck.Url.Label
