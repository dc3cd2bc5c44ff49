import SchemaCheck.Unicode.Query

namespace SchemaCheck.Pattern

/-- One move of a reader: go on from a new state, stop with a result, or give up. -/
inductive Move (σ β : Type)
  | more (state : σ) (rest : List Char)
  | done (result : β) (rest : List Char)
  | fail

/-- Moves until done. A move that reads nothing ends the reading. -/
def readWith {σ β : Type} (move : σ → List Char → Move σ β) (state : σ) (cs : List Char) :
    Option (β × List Char) :=
  match move state cs with
  | .fail => none
  | .done result rest => some (result, rest)
  | .more state' rest =>
    if rest.length < cs.length then readWith move state' rest else none
termination_by cs.length

def isBlank (c : Char) : Bool := Unicode.blankChars.has c

def skipBlanks (inComment : Bool) : List Char → List Char
  | [] => []
  | c :: rest =>
    if inComment then skipBlanks (c ≠ '\n') rest
    else if isBlank c then skipBlanks false rest
    else if c = '#' then skipBlanks true rest
    else c :: rest

def skip (verbose : Bool) (cs : List Char) : List Char :=
  if verbose then skipBlanks false cs else cs

theorem length_skipBlanks_le (inComment : Bool) (cs : List Char) :
    (skipBlanks inComment cs).length ≤ cs.length := by
  induction cs generalizing inComment with
  | nil => simp [skipBlanks]
  | cons c rest ih =>
    unfold skipBlanks
    have h (b : Bool) : (skipBlanks b rest).length ≤ (c :: rest).length :=
      Nat.le_trans (ih b) (by simp)
    split
    · exact h _
    · split
      · exact h _
      · split
        · exact h _
        · exact Nat.le_refl _

theorem length_skip_le (verbose : Bool) (cs : List Char) :
    (skip verbose cs).length ≤ cs.length := by
  unfold skip
  split
  · exact length_skipBlanks_le false cs
  · exact Nat.le_refl _

def splitWhere? (p : List Char → Bool) : List Char → Option (List Char × List Char)
  | [] => none
  | c :: rest =>
    if p (c :: rest) then some ([], c :: rest)
    else (splitWhere? p rest).map fun (head, tail) => (c :: head, tail)

def untilBrace (verbose inComment : Bool) : List Char → Option (List Char × List Char)
  | [] => none
  | c :: rest =>
    if inComment then untilBrace verbose (c ≠ '\n') rest
    else if c = '}' then some ([], rest)
    else if verbose && isBlank c then untilBrace verbose false rest
    else if verbose && c = '#' then untilBrace verbose true rest
    else (untilBrace verbose false rest).map fun (body, after) => (c :: body, after)

def decimalDigits (verbose inComment : Bool) : List Char → List Char × List Char
  | [] => ([], [])
  | c :: rest =>
    if inComment then decimalDigits verbose (c ≠ '\n') rest
    else if c.isDigit then
      let (ds, after) := decimalDigits verbose false rest
      (c :: ds, after)
    else if verbose && isBlank c then decimalDigits verbose false rest
    else if verbose && c = '#' then decimalDigits verbose true rest
    else ([], c :: rest)

/-- A count of a repetition, which has to fit 32 bits. Blanks around it are allowed. -/
def readCount? (verbose : Bool) (cs : List Char) : Option Nat × List Char :=
  let (ds, rest) := decimalDigits verbose false (cs.dropWhile isBlank)
  let n := Text.decimal ds
  (if ds = [] ∨ UInt32.size ≤ n then none else some n, rest.dropWhile isBlank)

def hexChar? (ds : List Char) : Option Char :=
  let n := Text.hexadecimal ds
  if ds ≠ [] ∧ ds.all Text.isHexDigit ∧ (n < 0xD800 ∨ (0xE000 ≤ n ∧ n ≤ 0x10FFFF)) then
    some (Char.ofNat n)
  else none

def takeHex? (verbose : Bool) : Nat → List Char → Option (List Char × List Char)
  | 0, rest => some ([], rest)
  | n + 1, c :: rest =>
    if Text.isHexDigit c then
      (takeHex? verbose n (skip verbose rest)).map fun (ds, after) => (c :: ds, after)
    else none
  | _ + 1, [] => none

end SchemaCheck.Pattern
