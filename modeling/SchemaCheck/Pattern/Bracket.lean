import SchemaCheck.Pattern.Escape

namespace SchemaCheck.Pattern

open Unicode (CharSet)

inductive SetOp
  | inter
  | diff
  | symmDiff

def SetOp.apply : SetOp → CharSet → CharSet → CharSet
  | .inter => CharSet.inter
  | .diff => CharSet.diff
  | .symmDiff => CharSet.symmDiff

/-- A set of characters and the depth of the nesting that it is spelled with. -/
structure ClassNode where
  set : CharSet
  depth : Nat

def ClassNode.leaf (s : CharSet) : ClassNode := ⟨s, 0⟩

/-- The items of a class, which count as a level if there are more than one. -/
def ClassNode.union (items : List ClassNode) : ClassNode :=
  ⟨.unions (items.map (·.set)),
    (items.map (·.depth)).foldl max 0 + (if 1 < items.length then 1 else 0)⟩

/-- A class that is still open: the operation in front of the items read so far, and those, last
first. -/
structure Bracket where
  negated : Bool
  left : Option (SetOp × ClassNode)
  items : List ClassNode

def Bracket.add (b : Bracket) (n : ClassNode) : Bracket := { b with items := n :: b.items }

/-- The class so far, with its operation carried out. Each operation is a level around both of its
sides. -/
def Bracket.value (flags : Flags) (b : Bracket) : ClassNode :=
  let items := ClassNode.union b.items
  match b.left with
  | none => items
  | some (op, left) =>
    let fold (s : CharSet) : CharSet := if flags.ignoreCase then s.folded else s
    ⟨op.apply (fold left.set) (fold items.set), max left.depth items.depth + 1⟩

def asciiClass? : List Char → Option CharSet
  | ['a', 'l', 'n', 'u', 'm'] => some (.unions [.range '0' '9', .range 'A' 'Z', .range 'a' 'z'])
  | ['a', 'l', 'p', 'h', 'a'] => some (.unions [.range 'A' 'Z', .range 'a' 'z'])
  | ['a', 's', 'c', 'i', 'i'] => some (.range '\x00' '\x7f')
  | ['b', 'l', 'a', 'n', 'k'] => some (.ofChars ['\t', ' '])
  | ['c', 'n', 't', 'r', 'l'] => some (.unions [.range '\x00' '\x1f', .single '\x7f'])
  | ['d', 'i', 'g', 'i', 't'] => some (.range '0' '9')
  | ['g', 'r', 'a', 'p', 'h'] => some (.range '!' '~')
  | ['l', 'o', 'w', 'e', 'r'] => some (.range 'a' 'z')
  | ['p', 'r', 'i', 'n', 't'] => some (.range ' ' '~')
  | ['p', 'u', 'n', 'c', 't'] =>
    some (.unions [.range '!' '/', .range ':' '@', .range '[' '\x60', .range '\x7b' '~'])
  | ['s', 'p', 'a', 'c', 'e'] => some asciiBlankChars
  | ['u', 'p', 'p', 'e', 'r'] => some (.range 'A' 'Z')
  | ['w', 'o', 'r', 'd'] => some asciiWordChars
  | ['x', 'd', 'i', 'g', 'i', 't'] =>
    some (.unions [.range '0' '9', .range 'A' 'F', .range 'a' 'f'])
  | _ => none

/-- A named class after its opening bracket, such as `:alpha:]` or `:^alpha:]`. -/
def readAsciiClass? : List Char → Option (CharSet × List Char)
  | ':' :: rest =>
    let negated := rest.head? = some '^'
    let rest := if negated then rest.drop 1 else rest
    match rest.dropWhile (· ≠ ':') with
    | ':' :: ']' :: after =>
      (asciiClass? (rest.takeWhile (· ≠ ':'))).map fun s => (if negated then s.compl else s, after)
    | _ => none
  | _ => none

def leadingHyphens (verbose : Bool) (items : List ClassNode) :
    List Char → List ClassNode × List Char
  | '-' :: rest => leadingHyphens verbose (.leaf (.single '-') :: items) (skip verbose rest)
  | cs => (items, cs)
termination_by cs => cs.length
decreasing_by exact Nat.lt_succ_of_le (length_skip_le verbose rest)

/-- The head of a class, after its bracket: a negation, hyphens, and a closing bracket that stands
for itself. -/
def openBracket? (verbose : Bool) (cs : List Char) : Option (Bracket × List Char) :=
  let cs := skip verbose cs
  let negated := cs.head? = some '^'
  let cs := if negated then skip verbose (cs.drop 1) else cs
  let (items, cs) := leadingHyphens verbose [] cs
  let (items, cs) := match cs with
    | ']' :: rest =>
      if items.isEmpty then ([.leaf (.single ']')], skip verbose rest) else (items, cs)
    | _ => (items, cs)
  if cs = [] then none else some (⟨negated, none, items⟩, cs)

def readItem? (flags : Flags) : List Char → Option (Atom × List Char)
  | [] => none
  | '\\' :: rest => readEscape? flags rest
  | c :: rest => some (.char c false, rest)

/-- A literal in a class. Without Unicode it has to be ASCII. -/
def Atom.classChar? (flags : Flags) : Atom → Option Char
  | .char c _ => if flags.unicode || c.toNat < 0x80 then some c else none
  | _ => none

def Atom.classSet? (flags : Flags) : Atom → Option CharSet
  | .set s => some s
  | u => (u.classChar? flags).map .single

/-- One item or range. A hyphen before a closing bracket or another hyphen makes no range. -/
def readRange? (flags : Flags) (cs : List Char) : Option (CharSet × List Char) :=
  (readItem? flags cs).bind fun (first, rest) =>
    match skip flags.verbose rest with
    | [] => none
    | '-' :: after =>
      let next := (skip flags.verbose after).head?
      if next = some ']' ∨ next = some '-' then
        (first.classSet? flags).map fun s => (s, '-' :: after)
      else
        (readItem? flags (skip flags.verbose after)).bind fun (last, rest) =>
          (first.classChar? flags).bind fun a =>
            (last.classChar? flags).bind fun b =>
              if a ≤ b then some (.range a b, rest) else none
    | rest => (first.classSet? flags).map fun s => (s, rest)

/-- A class that is being read: the innermost open bracket, and those around it. -/
structure Brackets where
  inner : Bracket
  outer : List Bracket

def Brackets.add (b : Brackets) (n : ClassNode) : Brackets := { b with inner := b.inner.add n }

def Brackets.operate (flags : Flags) (b : Brackets) (op : SetOp) : Brackets :=
  { b with inner := { b.inner with left := some (op, b.inner.value flags), items := [] } }

def Brackets.move (flags : Flags) (b : Brackets) (cs : List Char) : Move Brackets ClassNode :=
  match skip flags.verbose cs with
  | [] => .fail
  | '[' :: rest =>
    match readAsciiClass? rest with
    | some (s, after) => .more (b.add (.leaf s)) after
    | none =>
      match openBracket? flags.verbose rest with
      | none => .fail
      | some (inner, after) => .more ⟨inner, b.inner :: b.outer⟩ after
  | ']' :: rest =>
    let value := b.inner.value flags
    match finish? flags b.inner.negated value.set with
    | none => .fail
    | some s =>
      let closed : ClassNode := ⟨s, value.depth + 1⟩
      match b.outer with
      | [] => .done closed rest
      | o :: os => .more ⟨o.add closed, os⟩ rest
  | '&' :: '&' :: rest => .more (b.operate flags .inter) rest
  | '-' :: '-' :: rest => .more (b.operate flags .diff) rest
  | '~' :: '~' :: rest => .more (b.operate flags .symmDiff) rest
  | cs =>
    match readRange? flags cs with
    | none => .fail
    | some (s, rest) => .more (b.add (.leaf s)) rest

def readBracket? (flags : Flags) (cs : List Char) : Option (ClassNode × List Char) :=
  (openBracket? flags.verbose cs).bind fun (inner, rest) =>
    readWith (Brackets.move flags) ⟨inner, []⟩ rest

end SchemaCheck.Pattern
