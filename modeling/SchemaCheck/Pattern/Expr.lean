import SchemaCheck.Unicode.Query
import SchemaCheck.Unicode.Folding

namespace SchemaCheck.Pattern

/-- Where between two characters a word edge is asked for. The half edges look at one side only. -/
inductive WordEdge
  | edge
  | inside
  | start
  | stop
  | startHalf
  | stopHalf
deriving DecidableEq

inductive Anchor
  | textStart
  | textEnd
  | lineStart (crlf : Bool)
  | lineEnd (crlf : Bool)
  | word (kind : WordEdge) (unicode : Bool)
deriving DecidableEq

/-- Groups are kept only because they add to a pattern's size. Which of several matches is preferred
never matters, since a pattern is only asked whether it matches. -/
inductive Expr
  | empty
  | oneOf (set : Unicode.CharSet)
  | anchor (at_ : Anchor)
  | seq (first second : Expr)
  | alt (left right : Expr)
  | repeated (body : Expr) (min : Nat) (max : Option Nat)
  | group (body : Expr)
deriving DecidableEq

namespace Expr

def seqs : List Expr → Expr
  | [] => .empty
  | [e] => e
  | e :: rest => .seq e (seqs rest)

def alts : List Expr → Expr
  | [] => .empty
  | [e] => e
  | e :: rest => .alt e (alts rest)

end Expr

def asciiWordChars : Unicode.CharSet :=
  .unions [.range 'a' 'z', .range 'A' 'Z', .range '0' '9', .single '_']

def isWord (unicode : Bool) : Option Char → Bool
  | none => false
  | some c => if unicode then Unicode.wordChars.has c else asciiWordChars.has c

def Anchor.holds (a : Anchor) (before after : Option Char) : Bool :=
  match a with
  | .textStart => before.isNone
  | .textEnd => after.isNone
  | .lineStart false => before.isNone || before = some '\n'
  | .lineEnd false => after.isNone || after = some '\n'
  | .lineStart true =>
    before.isNone || before = some '\n' || (before = some '\r' && after ≠ some '\n')
  | .lineEnd true =>
    after.isNone || after = some '\r' || (after = some '\n' && before ≠ some '\r')
  | .word kind unicode =>
    let left := isWord unicode before
    let right := isWord unicode after
    match kind with
    | .edge => left != right
    | .inside => left == right
    | .start => !left && right
    | .stop => left && !right
    | .startHalf => !left
    | .stopHalf => !right

end SchemaCheck.Pattern
