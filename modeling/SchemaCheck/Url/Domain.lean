import SchemaCheck.Text.Fields
import SchemaCheck.Url.Label

namespace SchemaCheck.Url.Domain

open Text (fields joined)

/-- ASCII needs no table: only capitals are replaced. -/
def prepareChar? (c : Char) : Option (List Char) :=
  if Punycode.isPlain c then some [c.toLower] else Unicode.domainReplacement? c

def prepare? (cs : List Char) : Option (List Char) :=
  (cs.mapM prepareChar?).map fun parts =>
    let text := parts.flatten
    if Label.isAscii text then text else Unicode.Composition.normal text

/-- One label that runs from right to left puts all labels under the rules of direction. -/
def directionsAgree (labels : List (List Char)) : Bool :=
  !labels.any Label.hasRight || labels.all Label.keepsDirection

def isForbidden (c : Char) : Bool :=
  c ≤ ' ' || c = '\x7f' || "#/:<>?@[\\]^|%".toList.contains c

def toAscii? (cs : List Char) : Option (List Char) := do
  let written := fields (· = '.') (← prepare? cs)
  let labels ← written.mapM Label.decode?
  if labels.all Label.isProper && directionsAgree labels then
    let name := joined '.' (labels.map Label.encode)
    if name.any isForbidden then none else some name
  else none

end SchemaCheck.Url.Domain
