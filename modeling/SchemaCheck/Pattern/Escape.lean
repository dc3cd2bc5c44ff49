import SchemaCheck.Pattern.Cursor
import SchemaCheck.Pattern.Expr

namespace SchemaCheck.Pattern

open Unicode (CharSet)

structure Flags where
  ignoreCase : Bool := false
  multiLine : Bool := false
  dotAll : Bool := false
  crlf : Bool := false
  verbose : Bool := false
  unicode : Bool := true
deriving DecidableEq

/-- What one atom of a pattern stands for. A character is raw if it was given by two digits. -/
inductive Atom
  | char (c : Char) (raw : Bool)
  | set (s : CharSet)
  | anchor (a : Anchor)
  | dot

def isMeta (c : Char) : Bool := "\\.+*?()|[]\x7b\x7d^$#&-~".toList.contains c

/-- ASCII characters that may be escaped without need: all but letters, digits and angles. -/
def isEscapable (c : Char) : Bool :=
  isMeta c || (c.toNat < 0x80 && !c.isAlphanum && c ≠ '<' && c ≠ '>')

def controlChar? : Char → Option Char
  | 'a' => some '\x07'
  | 'f' => some '\x0c'
  | 't' => some '\t'
  | 'n' => some '\n'
  | 'r' => some '\r'
  | 'v' => some '\x0b'
  | _ => none

def asciiBlankChars : CharSet := .ofChars ['\t', '\n', '\x0b', '\x0c', '\r', ' ']

/-- The classes of digits, blanks and word characters; a capital letter means the others. Without
Unicode the others are no characters. -/
def letterClass? (unicode : Bool) (c : Char) : Option CharSet :=
  let set? : Option CharSet := match c.toLower with
    | 'd' => some (if unicode then Unicode.digitChars else .range '0' '9')
    | 's' => some (if unicode then Unicode.blankChars else asciiBlankChars)
    | 'w' => some (if unicode then Unicode.wordChars else asciiWordChars)
    | _ => none
  if c.isUpper then if unicode then set?.map CharSet.compl else none else set?

/-- Applies the case flag, then the negation. Without Unicode only ASCII is left. -/
def finish? (flags : Flags) (negated : Bool) (s : CharSet) : Option CharSet :=
  let folded := if flags.ignoreCase then s.folded else s
  let folded := if flags.unicode then folded else folded.inter (.range '\x00' '\x7f')
  let s := if negated then folded.compl else folded
  if flags.unicode || s.isAscii then some s else none

/-- The value of a property in one of its three spellings, or a bare name. -/
def property? (body : List Char) : Option CharSet :=
  match splitWhere? (fun t => t.take 2 = ['!', '=']) body with
  | some (name, t) =>
    (Unicode.valueSet? (Unicode.looseName name) (Unicode.looseName (t.drop 2))).map CharSet.compl
  | none =>
    let colon := splitWhere? (fun t => t.head? = some ':') body
    match colon.or (splitWhere? (fun t => t.head? = some '=') body) with
    | some (name, t) => Unicode.valueSet? (Unicode.looseName name) (Unicode.looseName (t.drop 1))
    | none => Unicode.namedSet? (Unicode.looseName body)

def readProperty? (flags : Flags) (negated : Bool) (cs : List Char) : Option (Atom × List Char) :=
  let found : Option (Option CharSet × List Char) :=
    match skip flags.verbose cs with
    | [] => none
    | '{' :: rest =>
      (untilBrace flags.verbose false rest).map fun (body, after) => (property? body, after)
    | '\\' :: _ => none
    | c :: rest => some (property? [c], rest)
  found.bind fun (set?, rest) =>
    set?.bind fun s =>
      if flags.unicode then (finish? flags negated s).map fun s => (.set s, rest) else none

def readHex? (flags : Flags) (digits : Nat) (cs : List Char) : Option (Atom × List Char) :=
  match skip flags.verbose cs with
  | '{' :: rest =>
    (untilBrace flags.verbose false rest).bind fun (ds, after) =>
      (hexChar? ds).map fun c => (.char c false, after)
  | rest =>
    (takeHex? flags.verbose digits rest).bind fun (ds, after) =>
      (hexChar? ds).map fun c => (.char c (digits = 2), after)

def wordEdge? : List Char → Option WordEdge
  | ['s', 't', 'a', 'r', 't'] => some .start
  | ['e', 'n', 'd'] => some .stop
  | ['s', 't', 'a', 'r', 't', '-', 'h', 'a', 'l', 'f'] => some .startHalf
  | ['e', 'n', 'd', '-', 'h', 'a', 'l', 'f'] => some .stopHalf
  | _ => none

/-- A word edge may name its kind in braces. Braces that begin otherwise are a repetition. -/
def readEdge? (flags : Flags) (cs : List Char) : Option (Atom × List Char) :=
  let anchor (k : WordEdge) : Atom := .anchor (.word k flags.unicode)
  match cs with
  | '{' :: rest =>
    match skip flags.verbose rest with
    | [] => none
    | c :: more =>
      if c.isAlpha || c = '-' then
        (untilBrace flags.verbose false (c :: more)).bind fun (name, after) =>
          (wordEdge? name).map fun k => (anchor k, after)
      else some (anchor .edge, cs)
  | _ => some (anchor .edge, cs)

/-- What follows a reverse solidus. There are no back-references. -/
def readEscape? (flags : Flags) : List Char → Option (Atom × List Char)
  | [] => none
  | c :: rest =>
    if c.isDigit then none
    else if c = 'x' then readHex? flags 2 rest
    else if c = 'u' then readHex? flags 4 rest
    else if c = 'U' then readHex? flags 8 rest
    else if c = 'p' ∨ c = 'P' then readProperty? flags (c = 'P') rest
    else if "dswDSW".toList.contains c then
      (letterClass? flags.unicode c).map fun s => (.set s, rest)
    else if isEscapable c then some (.char c false, rest)
    else
      match controlChar? c with
      | some k => some (.char k false, rest)
      | none =>
        match c with
        | 'A' => some (.anchor .textStart, rest)
        | 'z' => some (.anchor .textEnd, rest)
        | 'b' => readEdge? flags rest
        | 'B' => some (.anchor (.word .inside flags.unicode), rest)
        | '<' => some (.anchor (.word .start flags.unicode), rest)
        | '>' => some (.anchor (.word .stop flags.unicode), rest)
        | _ => none

def charSet? (flags : Flags) (c : Char) (raw : Bool) : Option CharSet :=
  if !flags.unicode && raw && 0x7F < c.toNat then none
  else if !flags.unicode && 0x7F < c.toNat then some (.single c)
  else if flags.ignoreCase then finish? flags false (.single c)
  else some (.single c)

def dotSet? (flags : Flags) : Option CharSet :=
  if !flags.unicode then none
  else if flags.dotAll then some CharSet.empty.compl
  else if flags.crlf then some (CharSet.ofChars ['\n', '\r']).compl
  else some (CharSet.single '\n').compl

def Atom.expr? (flags : Flags) : Atom → Option Expr
  | .char c raw => (charSet? flags c raw).map .oneOf
  | .set s => some (.oneOf s)
  | .anchor a => some (.anchor a)
  | .dot => (dotSet? flags).map .oneOf

end SchemaCheck.Pattern
