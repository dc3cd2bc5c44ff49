namespace SchemaCheck.Url.Punycode

def digitChar (d : Nat) : Char :=
  if d < 26 then Char.ofNat ('a'.toNat + d) else Char.ofNat ('0'.toNat + (d - 26))

def digitValue? (c : Char) : Option Nat :=
  if 'a' ≤ c ∧ c ≤ 'z' then some (c.toNat - 'a'.toNat)
  else if 'A' ≤ c ∧ c ≤ 'Z' then some (c.toNat - 'A'.toNat)
  else if c.isDigit then some (c.toNat - '0'.toNat + 26)
  else none

/-- A digit below the threshold of its place is the last of its number. -/
def threshold (place bias : Nat) : Nat := max 1 (min 26 (place - bias))

theorem threshold_pos (place bias : Nat) : 1 ≤ threshold place bias := by
  unfold threshold
  omega

def scale (place delta : Nat) : Nat :=
  if 455 < delta then scale (place + 36) (delta / 35)
  else place + 36 * delta / (delta + 38)
termination_by delta
decreasing_by exact Nat.div_lt_self (by omega) (by omega)

/-- The bias after a number, from its value and how many characters there are by then. -/
def adapt (delta count : Nat) (first : Bool) : Nat :=
  let d := if first then delta / 700 else delta / 2
  scale 0 (d + d / count)

def digits (q place bias : Nat) : List Char :=
  let t := threshold place bias
  if q < t then [digitChar q]
  else digitChar (t + (q - t) % (36 - t)) :: digits ((q - t) / (36 - t)) (place + 36) bias
termination_by q
decreasing_by
  have h := threshold_pos place bias
  exact Nat.lt_of_le_of_lt (Nat.div_le_self _ _) (by omega)

structure Writer where
  delta : Nat
  bias : Nat
  /-- How many characters have been placed. -/
  handled : Nat
  /-- No number has been written yet. -/
  first : Bool
  output : List Char

namespace Writer

def pass (m : Nat) (w : Writer) (c : Char) : Writer :=
  if c.toNat < m then { w with delta := w.delta + 1 }
  else if c.toNat = m then
    { delta := 0
      bias := adapt w.delta (w.handled + 1) w.first
      handled := w.handled + 1
      first := false
      output := w.output ++ digits w.delta 36 w.bias }
  else w

/-- Places all characters with code point `m`. The next candidate is `n`. -/
def placeAll (text : List Char) (w : Writer) (n m : Nat) : Writer :=
  let w := text.foldl (pass m) { w with delta := w.delta + (m - n) * (w.handled + 1) }
  { w with delta := w.delta + 1 }

def run (text : List Char) : Writer → Nat → List Nat → Writer
  | w, _, [] => w
  | w, n, m :: rest => run text (w.placeAll text n m) (m + 1) rest

end Writer

def isPlain (c : Char) : Bool := c.toNat < 0x80

def insertSorted (n : Nat) : List Nat → List Nat
  | [] => [n]
  | m :: rest =>
    if n < m then n :: m :: rest else if n = m then m :: rest else m :: insertSorted n rest

/-- The code points of the characters that are not plain, ascending and each once. -/
def foreign (text : List Char) : List Nat :=
  (text.filter (!isPlain ·)).foldl (fun ns c => insertSorted c.toNat ns) []

def encode (text : List Char) : List Char :=
  let plain := text.filter isPlain
  let head := if plain = [] then [] else plain ++ ['-']
  (Writer.run text ⟨0, 72, plain.length, true, head⟩ 0x80 (foreign text)).output

structure Reader where
  /-- The code point that is placed next. -/
  code : Nat
  /-- Where the next character goes. -/
  index : Nat
  bias : Nat
  first : Bool
  /-- The part of the present number that has been read, and the weight and place of its next
  digit. -/
  value : Nat
  weight : Nat
  place : Nat
  output : List Char

namespace Reader

def start (plain : List Char) : Reader := ⟨0x80, 0, 72, true, 0, 1, 36, plain⟩

def insertAt (i : Nat) (c : Char) (cs : List Char) : List Char := cs.take i ++ c :: cs.drop i

/-- Ends a number and places its character. Surrogates and numbers past the last code point are no
characters. -/
def finish? (r : Reader) (value : Nat) : Option Reader :=
  let count := r.output.length + 1
  let code := r.code + (r.index + value) / count
  let index := (r.index + value) % count
  if h : code.isValidChar then
    some
      { code
        index := index + 1
        bias := adapt value count r.first
        first := false
        value := 0
        weight := 1
        place := 36
        output := insertAt index (Char.ofNatAux code h) r.output }
  else none

def step? (r : Reader) (c : Char) : Option Reader :=
  (digitValue? c).bind fun d =>
    let value := r.value + d * r.weight
    let t := threshold r.place r.bias
    if d < t then r.finish? value
    else some { r with value, weight := r.weight * (36 - t), place := r.place + 36 }

end Reader

/-- The stretch before the last hyphen, and the text after it. Nothing is cut off in front of a
hyphen that comes first. -/
def splitAtLastHyphen (cs : List Char) : List Char × List Char :=
  let tail := (cs.reverse.takeWhile (· ≠ '-')).reverse
  let plain := cs.take (cs.length - tail.length - 1)
  if plain = [] then ([], cs) else (plain, tail)

def decode? (cs : List Char) : Option (List Char) := do
  let (plain, numbers) := splitAtLastHyphen cs
  let r ← numbers.foldlM Reader.step? (.start plain)
  if r.weight = 1 ∧ plain.all isPlain then some r.output else none

end SchemaCheck.Url.Punycode
