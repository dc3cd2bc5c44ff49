import SchemaCheck.Pattern.Expr

namespace SchemaCheck.Pattern

def stateBytes : Nat := 32

def edgeBytes : Nat := 4

def byteRangeBytes : Nat := 8

def largestSize : Nat := 10 * (1 <<< 20)

def encodedLength (n : Nat) : Nat :=
  if n < 0x80 then 1 else if n < 0x800 then 2 else if n < 0x10000 then 3 else 4

def encodedByte (n i : Nat) : Nat :=
  if i + 1 < encodedLength n then 0x80 + n >>> (6 * i) % 64
  else if i = 0 then n
  else 0x100 - 1 <<< (7 - i) + n >>> (6 * i)

def splitPoint? (first last : Nat) : Option Nat :=
  let lengths := [0x7F, 0x7FF, 0xD7FF, 0xDFFF, 0xFFFF].find? fun m => first ≤ m && m < last
  let blocks := [0x40, 0x1000, 0x40000].findSome? fun b =>
    if first / b = last / b then none
    else if first % b ≠ 0 then some (first / b * b + b - 1)
    else if last % b ≠ b - 1 then some (last / b * b - 1)
    else none
  lengths.or (if last < 0x80 then none else blocks)

/-- The range as sequences of byte ranges, first byte first. Ten splits are enough. -/
def byteSequences : Nat → Nat → Nat → List (List (Nat × Nat))
  | 0, _, _ => []
  | fuel + 1, first, last =>
    match splitPoint? first last with
    | some m => byteSequences fuel first m ++ byteSequences fuel (m + 1) last
    | none =>
      if 0xD800 ≤ first ∧ last ≤ 0xDFFF then []
      else [((List.range (encodedLength first)).map fun i =>
        (encodedByte first i, encodedByte last i)).reverse]

def sharedHead : List (Nat × Nat) → List (Nat × Nat) → Nat
  | a :: as, b :: bs => if a = b then sharedHead as bs + 1 else 0
  | _, _ => 0

/-- The states of sequences in which each shares the head it has in common with the one before. -/
def sequenceStates (previous : List (Nat × Nat)) : List (List (Nat × Nat)) → Nat
  | [] => 0
  | s :: rest => s.length - sharedHead previous s + sequenceStates s rest

def setSize (set : Unicode.CharSet) : Nat :=
  match set.only? with
  | some c => encodedLength c.toNat * stateBytes
  | none =>
    if set.isAscii then 2 * stateBytes + set.ranges.length * byteRangeBytes
    else
      let sequences := set.ranges.flatMap fun r => byteSequences 12 r.first r.last
      (sequenceStates [] sequences + 2) * stateBytes + sequences.length * edgeBytes

def Expr.size : Expr → Nat
  | .empty => stateBytes
  | .oneOf set => setSize set
  | .anchor _ => stateBytes
  | .seq a b => a.size + b.size
  | .alt a b => a.size + b.size + 2 * stateBytes + 2 * edgeBytes
  | .group e => e.size + 2 * stateBytes
  | .repeated e min none => max 1 min * e.size + 3 * stateBytes + 2 * edgeBytes
  | .repeated e min (some max) =>
    min * e.size + (max - min) * (e.size + stateBytes + 2 * edgeBytes) + stateBytes

/-- The states that every automaton has: the search loop, the whole match and its end. -/
def frameStates : Nat := 6

def Expr.isTooLarge (e : Expr) : Bool := largestSize < e.size + frameStates * stateBytes

end SchemaCheck.Pattern
