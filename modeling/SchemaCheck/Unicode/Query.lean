import SchemaCheck.Unicode.Age
import SchemaCheck.Unicode.Break
import SchemaCheck.Unicode.Category
import SchemaCheck.Unicode.Property
import SchemaCheck.Unicode.Script
import SchemaCheck.Unicode.ScriptExtension

namespace SchemaCheck.Unicode

def category (name : String) : CharSet := (lookupSet? generalCategories name).getD .empty

def digitChars : CharSet := category "nd"

def blankChars : CharSet := whiteSpaceChars.set

def letterChars : CharSet := alphabeticChars.set

def alphanumericChars : CharSet :=
  .unions [letterChars, category "nd", category "nl", category "no"]

def wordChars : CharSet :=
  .unions [letterChars, category "mn", category "mc", category "me", digitChars,
    category "pc", joinControlChars.set]

/-- Categories that are unions of others. -/
def categoryGroups : List (List String × List String) := [
  (["l", "letter"], ["lu", "ll", "lt", "lm", "lo"]),
  (["lc", "casedletter"], ["lu", "ll", "lt"]),
  (["m", "mark", "combiningmark"], ["mn", "mc", "me"]),
  (["n", "number"], ["nd", "nl", "no"]),
  (["p", "punctuation", "punct"], ["pc", "pd", "ps", "pe", "pi", "pf", "po"]),
  (["s", "symbol"], ["sm", "sc", "sk", "so"]),
  (["z", "separator"], ["zs", "zl", "zp"])]

def assignedChars : CharSet := .unions (generalCategories.map Entry.set)

def category? (name : String) : Option CharSet :=
  if name = "any" then some CharSet.empty.compl
  else if name = "assigned" then some assignedChars
  else if name = "ascii" then some (.range '\x00' '\x7f')
  else if name = "cn" ∨ name = "unassigned" then some assignedChars.compl
  else if name = "c" ∨ name = "other" then
    some (.unions [category "cc", category "cf", category "co", assignedChars.compl])
  else
    match categoryGroups.find? fun g => g.1.contains name with
    | some g => some (.unions (g.2.map category))
    | none => lookupSet? generalCategories name

def script? (name : String) : Option CharSet := lookupSet? scripts name

def scriptExtension? (name : String) : Option CharSet :=
  (lookupSet? scriptExtensions name).or (script? name)

def age? (version : String) : Option CharSet :=
  match ages.span fun e => !e.names.contains version with
  | (_, []) => none
  | (before, e :: _) => some (.unions (e.set :: before.map Entry.set))

/-- Names that stand for a category although a property is abbreviated like them. -/
def categoryFirst : List String := ["cf", "sc", "lc"]

def namedSet? (name : String) : Option CharSet :=
  let property := if categoryFirst.contains name then none else lookupSet? binaryProperties name
  (property.or (category? name)).or (script? name)

def valueSet? (property value : String) : Option CharSet :=
  if ["gc", "generalcategory"].contains property then category? value
  else if ["sc", "script"].contains property then script? value
  else if ["scx", "scriptextensions"].contains property then scriptExtension? value
  else if property = "age" then age? value
  else if ["gcb", "graphemeclusterbreak"].contains property then lookupSet? graphemeBreaks value
  else if ["wb", "wordbreak"].contains property then lookupSet? wordBreaks value
  else if ["sb", "sentencebreak"].contains property then lookupSet? sentenceBreaks value
  else none

def loose (cs : List Char) : List Char :=
  (cs.filter fun c => c.toNat < 0x80 && c ≠ ' ' && c ≠ '_' && c ≠ '-').map Char.toLower

/-- Names are compared without case, blanks, hyphens, underscores and a leading "is". -/
def looseName (cs : List Char) : String :=
  match cs with
  | a :: b :: rest =>
    if a.toLower = 'i' ∧ b.toLower = 's' then
      if loose rest = ['c'] then "isc" else .ofList (loose rest)
    else .ofList (loose cs)
  | _ => .ofList (loose cs)

end SchemaCheck.Unicode
