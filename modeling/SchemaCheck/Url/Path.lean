import SchemaCheck.Url.Basic

namespace SchemaCheck.Url

inductive Scheme
  | file
  | special (port : Nat)
  | plain
deriving DecidableEq

namespace Scheme

/-- The schemes that the web knows, with their default ports. -/
def ofName : String → Scheme
  | "file" => file
  | "http" => special 80
  | "https" => special 443
  | "ws" => special 80
  | "wss" => special 443
  | "ftp" => special 21
  | _ => plain

def isSpecial (s : Scheme) : Bool := s ≠ plain

/-- In the schemes that the web knows, a reverse solidus is as good as a solidus. -/
def isSlash (s : Scheme) (c : Char) : Bool := c = '/' || s.isSpecial && c = '\\'

def endsPath (c : Char) : Bool := c = '?' || c = '#'

/-- A component in front of the path ends where the path, the query or the fragment starts. -/
def endsAuthority (s : Scheme) (c : Char) : Bool := s.isSlash c || endsPath c

end Scheme

namespace Path

/-- Encoded points count as points. -/
def points : List Char → Option Nat
  | [] => some 0
  | '.' :: rest => (points rest).map (· + 1)
  | '%' :: '2' :: 'e' :: rest => (points rest).map (· + 1)
  | '%' :: '2' :: 'E' :: rest => (points rest).map (· + 1)
  | _ => none

def isDriveMark (c : Char) : Bool := c = ':' || c = '|'

def isDrive : List Char → Bool
  | [letter, mark] => letter.isAlpha && isDriveMark mark
  | _ => false

def startsWithDrive : List Char → Bool
  | letter :: mark :: rest =>
    letter.isAlpha && isDriveMark mark && (rest = [] || rest.head? = some '\\')
  | _ => false

def withColon : List Char → List Char
  | letter :: _ => [letter, ':']
  | [] => []

/-- Goes back one segment, but not past a drive. -/
def back (done : List (List Char)) : List (List Char) :=
  match done.getLast? with
  | some last => if startsWithDrive last then done else done.dropLast
  | none => []

/-- Adds a segment to those before it. One that only moves leaves an empty segment if it is the
last. -/
def addSegment (s : Scheme) (done : List (List Char)) (segment : List Char) (last : Bool) :
    List (List Char) :=
  let rest := if last then [[]] else []
  match points segment with
  | some 1 => done ++ rest
  | some 2 => back done ++ rest
  | _ =>
    if s = .file ∧ done = [] ∧ isDrive segment then done ++ [withColon segment]
    else done ++ [segment]

def addSegments (s : Scheme) : List (List Char) → List (List Char) → List (List Char)
  | done, [] => done
  | done, segment :: rest => addSegments s (addSegment s done segment rest.isEmpty) rest

/-- Empty segments in front are left out, but for one that is all there is. -/
def withoutEmptyFront : List (List Char) → List (List Char)
  | [] :: next :: rest => withoutEmptyFront (next :: rest)
  | others => others

def encodeSegment (cs : List Char) : List Char := cs.flatMap (Percent.encodeChar Percent.keptInPath)

def rawSegments (s : Scheme) (cs : List Char) : List (List Char) :=
  addSegments s [] ((Text.fields s.isSlash cs).map encodeSegment)

def ofRaw (segments : List (List Char)) : Path := .segments (segments.map String.ofList)

end Path

end SchemaCheck.Url
