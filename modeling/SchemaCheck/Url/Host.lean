import SchemaCheck.Address
import SchemaCheck.Url.Domain
import SchemaCheck.Url.Percent

namespace SchemaCheck.Url

inductive Host
  | name (text : String)
  | version4 (value : Nat)
  | version6 (groups : List Nat)
deriving DecidableEq

namespace Host

def empty : Host := .name ""

def isEmpty (h : Host) : Bool := h = empty

def octets (value : Nat) : List Nat :=
  [value >>> 24, value >>> 16 % 256, value >>> 8 % 256, value % 256]

def text : Host → String
  | name s => s
  | version4 value => Address.octetsText (octets value)
  | version6 groups => "[" ++ Address.groupsText groups ++ "]"

def isOctal (c : Char) : Bool := '0' ≤ c && c ≤ '7'

def ofDigits? (base : Nat) (isDigit : Char → Bool) (cs : List Char) : Option Nat :=
  if cs.all isDigit then some (Text.numeral base cs) else none

/-- A leading 0x makes a number hexadecimal, any other leading zero makes it octal. -/
def number? : List Char → Option Nat
  | [] => none
  | '0' :: 'x' :: rest => ofDigits? 16 Text.isHexDigit rest
  | '0' :: 'X' :: rest => ofDigits? 16 Text.isHexDigit rest
  | '0' :: d :: rest => ofDigits? 8 isOctal (d :: rest)
  | cs => ofDigits? 10 Char.isDigit cs

/-- The parts of a name without the empty one that a point at its end leaves. -/
def parts (cs : List Char) : List (List Char) :=
  let parts := Text.fields (· = '.') cs
  if parts.getLast? = some [] then parts.dropLast else parts

def endsInNumber (cs : List Char) : Bool :=
  match (parts cs).getLast? with
  | none => false
  | some last => last ≠ [] && last.all Char.isDigit || (number? last).isSome

/-- The last number fills the bytes that those before it leave, which are one each. -/
def ofNumbers? (numbers : List Nat) : Option Nat :=
  let leading := numbers.dropLast
  let bits := 8 * (4 - leading.length)
  numbers.getLast?.bind fun last =>
    if leading.length < 4 ∧ leading.all (· < 256) ∧ last < 1 <<< bits then
      some (leading.foldl (fun n b => n * 256 + b) 0 <<< bits + last)
    else none

def version4? (cs : List Char) : Option Host :=
  (((parts cs).mapM number?).bind ofNumbers?).map .version4

def bracketed? (cs : List Char) : Option (Option Host) :=
  match cs with
  | '[' :: rest =>
    if rest.getLast? = some ']' then some ((Address.groups? rest.dropLast).map .version6)
    else some none
  | _ => none

def ofDomain? (cs : List Char) : Option Host :=
  if cs = [] then none
  else if endsInNumber cs then version4? cs
  else some (.name (.ofList cs))

def special? (cs : List Char) : Option Host :=
  match bracketed? cs with
  | some host => host
  | none => do ofDomain? (← Domain.toAscii? (← Percent.decodeText? cs).toList)

def isForbidden (c : Char) : Bool := "\x00\t\n\r #/:<>?@[\\]^|".toList.contains c

def plain? (cs : List Char) : Option Host :=
  match bracketed? cs with
  | some host => host
  | none =>
    if cs.any isForbidden then none else some (.name (Percent.encode Percent.isPlain cs))

end Host

end SchemaCheck.Url
