import SchemaCheck.Pattern.Expr

namespace SchemaCheck.Pattern

/-- A set of positions in a text. Bit `i` stands for the position before character `i`. -/
abbrev Positions := Nat

/-- An expression with its sets and anchors evaluated at every position of one text. -/
inductive Plan
  | stay
  | step (at_ : Positions)
  | keep (at_ : Positions)
  | seq (first second : Plan)
  | alt (left right : Plan)
  | repeated (body : Plan) (min : Nat) (max : Option Nat)

def positionsOf (p : Char → Bool) : List Char → Positions
  | [] => 0
  | c :: rest => 2 * positionsOf p rest + (if p c then 1 else 0)

/-- The positions whose neighbours satisfy `p`, the end included. -/
def positionsBetween (p : Option Char → Option Char → Bool) (before : Option Char) :
    List Char → Positions
  | [] => if p before none then 1 else 0
  | c :: rest =>
    2 * positionsBetween p (some c) rest + (if p before (some c) then 1 else 0)

def Expr.plan (text : List Char) : Expr → Plan
  | .empty => .stay
  | .oneOf set => .step (positionsOf set.has text)
  | .anchor a => .keep (positionsBetween a.holds none text)
  | .seq a b => .seq (a.plan text) (b.plan text)
  | .alt a b => .alt (a.plan text) (b.plan text)
  | .repeated e min max => .repeated (e.plan text) min max
  | .group e => e.plan text

def iterate (f : Positions → Positions) : Nat → Positions → Positions
  | 0, s => s
  | n + 1, s =>
    let next := f s
    if next = s then s else iterate f n next

/-- The positions reached from the frontier in at most `n` steps, beside those seen before. -/
def reach (f : Positions → Positions) : Nat → Positions → Positions → Positions
  | 0, seen, _ => seen
  | n + 1, seen, frontier =>
    let next := f frontier
    let fresh := next ^^^ (next &&& seen)
    if fresh = 0 then seen else reach f n (seen ||| fresh) fresh

/-- Where the plan may end when it starts in `s`. No walk without cycles visits more positions than
the text of length `size` has. -/
def Plan.ends (size : Nat) : Plan → Positions → Positions
  | .stay, s => s
  | .step at_, s => (s &&& at_) <<< 1
  | .keep at_, s => s &&& at_
  | .seq a b, s => b.ends size (a.ends size s)
  | .alt a b, s => a.ends size s ||| b.ends size s
  | .repeated e min max, s =>
    let first := iterate (e.ends size) min s
    let more := match max with
      | none => size + 1
      | some m => m - min
    reach (e.ends size) more first first

def Expr.foundIn (e : Expr) (text : List Char) : Bool :=
  (e.plan text).ends text.length (1 <<< (text.length + 1) - 1) ≠ 0

end SchemaCheck.Pattern
