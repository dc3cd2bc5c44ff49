import SchemaCheck.Pattern.Bracket

namespace SchemaCheck.Pattern

/-- An expression and the depth of its nesting. -/
structure Node where
  expr : Expr
  depth : Nat

/-- An item of a sequence: an expression, or flags that were set in passing. -/
inductive Item
  | node (n : Node)
  | flags

/-- An open group: the flags in force, and what was read so far, last first. -/
structure Group where
  flags : Flags
  capturing : Bool
  alternatives : List Node
  items : List Item

structure Reading where
  inner : Group
  outer : List Group
  names : List String

def deepestNesting : Nat := 250

def deeper (nodes : List Node) : Nat := (nodes.map (·.depth)).foldl max 0

def Item.nodes : List Item → List Node
  | [] => []
  | .node n :: rest => n :: Item.nodes rest
  | .flags :: rest => Item.nodes rest

/-- A sequence, which counts as a level if it has more than one item. -/
def sequence (items : List Item) : Node :=
  let nodes := Item.nodes items
  ⟨.seqs (nodes.map (·.expr)), deeper nodes + (if 1 < items.length then 1 else 0)⟩

def alternation (nodes : List Node) : Node :=
  ⟨.alts (nodes.map (·.expr)), deeper nodes + (if 1 < nodes.length then 1 else 0)⟩

def Group.node (g : Group) : Node :=
  alternation (sequence g.items.reverse :: g.alternatives).reverse

def Group.push (g : Group) (n : Node) : Group := { g with items := .node n :: g.items }

def Group.opened (flags : Flags) (capturing : Bool) : Group := ⟨flags, capturing, [], []⟩

def Reading.push (r : Reading) (n : Node) : Reading := { r with inner := r.inner.push n }

def Reading.flags (r : Reading) : Flags := r.inner.flags

def Flags.set? (flags : Flags) (value : Bool) : Char → Option Flags
  | 'i' => some { flags with ignoreCase := value }
  | 'm' => some { flags with multiLine := value }
  | 's' => some { flags with dotAll := value }
  | 'R' => some { flags with crlf := value }
  | 'x' => some { flags with verbose := value }
  | 'u' => some { flags with unicode := value }
  | 'U' => some flags
  | _ => none

def setAll? (flags : Flags) (value : Bool) : List Char → Option Flags
  | [] => some flags
  | '-' :: rest => setAll? flags false rest
  | c :: rest => (flags.set? value c).bind fun f => setAll? f value rest

/-- Flags as they are spelled: each letter once, at most one hyphen, and none at the end. -/
def readFlags? (flags : Flags) (letters : List Char) : Option Flags :=
  if letters.Nodup ∧ letters.getLast? ≠ some '-' then setAll? flags true letters else none

def isNameChar (first : Bool) (c : Char) : Bool :=
  c = '_' || (if first then Unicode.letterChars.has c
    else Unicode.alphanumericChars.has c || c = '.' || c = '[' || c = ']')

def isName : List Char → Bool
  | [] => false
  | c :: rest => isNameChar true c && rest.all (isNameChar false)

def Reading.openGroup (r : Reading) (flags : Flags) (capturing : Bool) : Reading :=
  { r with inner := .opened flags capturing, outer := r.inner :: r.outer }

def Reading.openNamed? (r : Reading) (cs : List Char) : Option (Reading × List Char) :=
  let name := cs.takeWhile (· ≠ '>')
  match cs.dropWhile (· ≠ '>') with
  | [] => none
  | _ :: rest =>
    if isName name && !r.names.contains (.ofList name) then
      some ({ r.openGroup r.flags true with names := .ofList name :: r.names }, rest)
    else none

/-- What follows an opening parenthesis: a plain or named group, flags alone, or flags for a
group. -/
def Reading.open? (r : Reading) (cs : List Char) : Option (Reading × List Char) :=
  match skip r.flags.verbose cs with
  | '?' :: 'P' :: '<' :: rest => r.openNamed? rest
  | '?' :: '<' :: '=' :: _ => none
  | '?' :: '<' :: '!' :: _ => none
  | '?' :: '<' :: rest => r.openNamed? rest
  | '?' :: rest =>
    let isEnd (c : Char) : Bool := c = ':' || c = ')'
    let letters := rest.takeWhile fun c => !isEnd c
    (readFlags? r.flags letters).bind fun flags =>
      match rest.dropWhile fun c => !isEnd c with
      | ':' :: after => some (r.openGroup flags false, after)
      | _ :: after =>
        if letters = [] then none
        else
          some ({ r with inner := { r.inner with flags, items := .flags :: r.inner.items } }, after)
      | [] => none
  | rest => some (r.openGroup r.flags true, rest)

def Reading.close? (r : Reading) : Option Reading :=
  match r.outer with
  | [] => none
  | g :: gs =>
    let body := r.inner.node
    let expr := if r.inner.capturing then .group body.expr else body.expr
    some { r with inner := g.push ⟨expr, body.depth + 1⟩, outer := gs }

def Reading.alternate (r : Reading) : Reading :=
  let done := sequence r.inner.items.reverse
  { r with inner := { r.inner with alternatives := done :: r.inner.alternatives, items := [] } }

def Reading.repeat? (r : Reading) (min : Nat) (max : Option Nat) : Option Reading :=
  match r.inner.items with
  | .node n :: items =>
    let whole : Node := ⟨.repeated n.expr min max, n.depth + 1⟩
    some { r with inner := { r.inner with items := .node whole :: items } }
  | _ => none

/-- A question mark after a repetition only changes which match is preferred. -/
def dropLazy : List Char → List Char
  | '?' :: rest => rest
  | cs => cs

def Reading.count? (r : Reading) (cs : List Char) : Option (Reading × List Char) :=
  let verbose := r.flags.verbose
  let (min?, rest) := readCount? verbose (skip verbose cs)
  min?.bind fun min =>
    let finish (max : Option Nat) (after : List Char) : Option (Reading × List Char) :=
      if max.any (· < min) then none
      else (r.repeat? min max).map fun r => (r, dropLazy (skip verbose after))
    match rest with
    | '}' :: after => finish (some min) after
    | ',' :: rest =>
      match skip verbose rest with
      | '}' :: after => finish none after
      | rest =>
        let (max?, rest) := readCount? verbose rest
        match max?, rest with
        | some max, '}' :: after => finish (some max) after
        | _, _ => none
    | _ => none

def Flags.startAnchor (f : Flags) : Anchor := if f.multiLine then .lineStart f.crlf else .textStart

def Flags.endAnchor (f : Flags) : Anchor := if f.multiLine then .lineEnd f.crlf else .textEnd

def readAtom? (flags : Flags) : List Char → Option (Atom × List Char)
  | [] => none
  | '\\' :: rest => readEscape? flags rest
  | '.' :: rest => some (.dot, rest)
  | '^' :: rest => some (.anchor flags.startAnchor, rest)
  | '$' :: rest => some (.anchor flags.endAnchor, rest)
  | c :: rest => some (.char c false, rest)

/-- The finished expression. All groups have to be closed. -/
def Reading.result? (r : Reading) : Option Expr :=
  if r.outer.isEmpty && r.inner.node.depth ≤ deepestNesting then some r.inner.node.expr else none

def Move.ofOption {β : Type} : Option (Reading × List Char) → Move Reading β
  | some (r, rest) => .more r rest
  | none => .fail

def Reading.move (r : Reading) (cs : List Char) : Move Reading Expr :=
  match skip r.flags.verbose cs with
  | [] =>
    match r.result? with
    | some e => .done e []
    | none => .fail
  | '(' :: rest => .ofOption (r.open? rest)
  | ')' :: rest => .ofOption (r.close?.map fun r => (r, rest))
  | '|' :: rest => .more r.alternate rest
  | '?' :: rest => .ofOption ((r.repeat? 0 (some 1)).map fun r => (r, dropLazy rest))
  | '*' :: rest => .ofOption ((r.repeat? 0 none).map fun r => (r, dropLazy rest))
  | '+' :: rest => .ofOption ((r.repeat? 1 none).map fun r => (r, dropLazy rest))
  | '{' :: rest => .ofOption (r.count? rest)
  | '[' :: rest =>
    .ofOption ((readBracket? r.flags rest).map fun (n, after) =>
      (r.push ⟨.oneOf n.set, n.depth⟩, after))
  | cs =>
    .ofOption ((readAtom? r.flags cs).bind fun (atom, rest) =>
      (atom.expr? r.flags).map fun e => (r.push ⟨e, 0⟩, rest))

/-- The expression that a pattern's text spells, or none if it spells none. -/
def Expr.read? (text : List Char) : Option Expr :=
  (readWith Reading.move ⟨.opened {} false, [], []⟩ text).map (·.1)

end SchemaCheck.Pattern
