import SchemaCheck.Unicode.Query

namespace SchemaCheck.Format

abbrev Scanned (α : Type) := Option (α × List Char)

def scanNumber? (width : Nat) (cs : List Char) : Scanned Nat :=
  let ds := (cs.takeWhile Char.isDigit).take width
  if ds = [] then none else some (Text.decimal ds, cs.drop ds.length)

def scanExact? (width : Nat) (cs : List Char) : Scanned Nat :=
  let ds := cs.take width
  if ds.length = width ∧ ds.all Char.isDigit then some (Text.decimal ds, cs.drop width) else none

def scanChar? (c : Char) : List Char → Option (List Char)
  | d :: rest => if d = c then some rest else none
  | [] => none

def dropBlanks (cs : List Char) : List Char := cs.dropWhile Unicode.blankChars.has

/-- A number of at most two digits after blanks. -/
def scanField? (cs : List Char) : Scanned Nat := scanNumber? 2 (dropBlanks cs)

/-- A year has at most four digits, or a sign and any number of them. -/
def scanYear? (cs : List Char) : Scanned Int :=
  match dropBlanks cs with
  | '-' :: rest => (scanNumber? rest.length rest).map fun (n, after) => (-(n : Int), after)
  | '+' :: rest => (scanNumber? rest.length rest).map fun (n, after) => ((n : Int), after)
  | rest => (scanNumber? 4 rest).map fun (n, after) => ((n : Int), after)

def isLeap (year : Int) : Bool := year % 4 = 0 && (year % 100 ≠ 0 || year % 400 = 0)

def daysIn (year : Int) (month : Nat) : Nat :=
  if month = 2 then if isLeap year then 29 else 28
  else if month = 4 ∨ month = 6 ∨ month = 9 ∨ month = 11 then 30
  else 31

def isDay (year : Int) (month day : Nat) : Bool :=
  1 ≤ month && month ≤ 12 && 1 ≤ day && day ≤ daysIn year month

/-- Second 60 is a leap second. -/
def isClock (hour minute second : Nat) : Bool := hour < 24 && minute < 60 && second ≤ 60

/-- A point needs at least one digit after it. Without a point there is no fraction. -/
def scanFraction? : List Char → Option (List Char)
  | '.' :: rest =>
    if rest.head?.any Char.isDigit then some (rest.dropWhile Char.isDigit) else none
  | cs => some cs

def lenientDate? (cs : List Char) : Option (List Char) := do
  let (year, cs) ← scanYear? cs
  let cs ← scanChar? '-' cs
  let (month, cs) ← scanField? cs
  let cs ← scanChar? '-' cs
  let (day, cs) ← scanField? cs
  if isDay year month day then some cs else none

/-- Fields read on their own are lenient. A full date and time is read strictly. -/
def lenientTime? (cs : List Char) : Option (List Char) := do
  let (hour, cs) ← scanField? cs
  let cs ← scanChar? ':' cs
  let (minute, cs) ← scanField? cs
  let cs ← scanChar? ':' cs
  let (second, cs) ← scanField? cs
  let cs ← scanFraction? cs
  if isClock hour minute second then some cs else none

/-- The letter Z, or hours and minutes with a sign, which may be the minus of U+2212. -/
def scanOffset? : List Char → Option (List Char)
  | [] => none
  | c :: rest =>
    if c = 'z' ∨ c = 'Z' then some rest
    else if c = '+' ∨ c = '-' ∨ c = '\u2212' then do
      let (hours, cs) ← scanExact? 2 rest
      let cs ← scanChar? ':' cs
      let (minutes, cs) ← scanExact? 2 cs
      if hours < 24 ∧ minutes < 60 then some cs else none
    else none

def strictDate? (cs : List Char) : Option (List Char) := do
  let (year, cs) ← scanExact? 4 cs
  let cs ← scanChar? '-' cs
  let (month, cs) ← scanExact? 2 cs
  let cs ← scanChar? '-' cs
  let (day, cs) ← scanExact? 2 cs
  if isDay year month day then some cs else none

def strictTime? (cs : List Char) : Option (List Char) := do
  let (hour, cs) ← scanExact? 2 cs
  let cs ← scanChar? ':' cs
  let (minute, cs) ← scanExact? 2 cs
  let cs ← scanChar? ':' cs
  let (second, cs) ← scanExact? 2 cs
  let cs ← scanFraction? cs
  if isClock hour minute second then scanOffset? cs else none

def isSeparator (c : Char) : Bool := c = 'T' || c = 't' || c = ' '

def isDateTime (cs : List Char) : Bool :=
  match strictDate? cs with
  | some (c :: rest) => isSeparator c && strictTime? rest = some []
  | _ => false

/-- A date has ten bytes. -/
def isDate (text : String) : Bool := text.utf8ByteSize = 10 && lenientDate? text.toList = some []

def charAtByte? : Nat → List Char → Option Char
  | _, [] => none
  | n, c :: rest =>
    if n = 0 then some c
    else if c.utf8Size ≤ n then charAtByte? (n - c.utf8Size) rest
    else none

/-- A time has a colon as its third byte. Its offset may be missing. -/
def isTime (cs : List Char) : Bool :=
  charAtByte? 2 cs = some ':' && (lenientTime? cs = some [] || strictTime? cs = some [])

end SchemaCheck.Format
