import SchemaCheck.Json.Basic
import SchemaCheck.Json.Numeral

namespace SchemaCheck.Json

inductive Token
  | openArray
  | closeArray
  | openObject
  | closeObject
  | comma
  | colon
  | scalar (value : Json)
  | text (value : String)

/-- Where the reader stands within quoted text. -/
inductive Quote
  | plain
  | escape
  | hex (missing : Nat) (value : Nat) (high : Option Nat)
  | afterHigh (high : Nat)
  | lowEscape (high : Nat)

inductive Mode
  | between
  | word (letters : List Char)
  | quoted (letters : List Char) (at_ : Quote)

/-- The tokens read so far, the last one first. -/
structure Lexer where
  tokens : List Token
  mode : Mode

namespace Lexer

def start : Lexer := ⟨[], .between⟩

def isHigh (n : Nat) : Bool := 0xD800 ≤ n && n < 0xDC00

def isLow (n : Nat) : Bool := 0xDC00 ≤ n && n < 0xE000

def pair (high low : Nat) : Char :=
  Char.ofNat (0x10000 + (high - 0xD800) * 0x400 + (low - 0xDC00))

def escaped? : Char → Option Char
  | '"' => some '"'
  | '\\' => some '\\'
  | '/' => some '/'
  | 'b' => some '\x08'
  | 'f' => some '\x0c'
  | 'n' => some '\n'
  | 'r' => some '\r'
  | 't' => some '\t'
  | _ => none

/-- A code unit is complete. Surrogates have to come in pairs. -/
def codeUnit? (letters : List Char) (value : Nat) : Option Nat → Option Mode
  | some high => if isLow value then some (.quoted (pair high value :: letters) .plain) else none
  | none =>
    if isHigh value then some (.quoted letters (.afterHigh value))
    else if isLow value then none
    else some (.quoted (Char.ofNat value :: letters) .plain)

def quoteStep? (letters : List Char) (c : Char) : Quote → Option Mode
  | .plain =>
    if c = '\\' then some (.quoted letters .escape)
    else if c.toNat < 0x20 then none
    else some (.quoted (c :: letters) .plain)
  | .escape =>
    if c = 'u' then some (.quoted letters (.hex 3 0 none))
    else (escaped? c).map fun e => .quoted (e :: letters) .plain
  | .hex missing value high =>
    (Text.digit? c).bind fun h =>
      match missing with
      | 0 => codeUnit? letters (value * 16 + h) high
      | m + 1 => some (.quoted letters (.hex m (value * 16 + h) high))
  | .afterHigh high => if c = '\\' then some (.quoted letters (.lowEscape high)) else none
  | .lowEscape high => if c = 'u' then some (.quoted letters (.hex 3 0 (some high))) else none

def isWordChar (c : Char) : Bool := c.isAlphanum || c = '-' || c = '+' || c = '.'

def isBlank (c : Char) : Bool := c = ' ' || c = '\t' || c = '\n' || c = '\r'

def word? : List Char → Option Token
  | ['n', 'u', 'l', 'l'] => some (.scalar .null)
  | ['t', 'r', 'u', 'e'] => some (.scalar (.bool true))
  | ['f', 'a', 'l', 's', 'e'] => some (.scalar (.bool false))
  | cs => (Numeral.read? cs).bind fun n => n.number?.map fun x => .scalar (.number x)

def flush? (l : Lexer) : Option Lexer :=
  match l.mode with
  | .between => some l
  | .word letters => (word? letters.reverse).map fun t => ⟨t :: l.tokens, .between⟩
  | .quoted _ _ => none

def between? (l : Lexer) (c : Char) : Option Lexer :=
  if isWordChar c then some ⟨l.tokens, .word [c]⟩
  else if isBlank c then some l
  else
    match c with
    | '"' => some ⟨l.tokens, .quoted [] .plain⟩
    | '[' => some ⟨.openArray :: l.tokens, .between⟩
    | ']' => some ⟨.closeArray :: l.tokens, .between⟩
    | '{' => some ⟨.openObject :: l.tokens, .between⟩
    | '}' => some ⟨.closeObject :: l.tokens, .between⟩
    | ',' => some ⟨.comma :: l.tokens, .between⟩
    | ':' => some ⟨.colon :: l.tokens, .between⟩
    | _ => none

def step? (l : Lexer) (c : Char) : Option Lexer :=
  match l.mode with
  | .quoted letters .plain =>
    if c = '"' then some ⟨.text (String.ofList letters.reverse) :: l.tokens, .between⟩
    else (quoteStep? letters c .plain).map fun m => ⟨l.tokens, m⟩
  | .quoted letters q => (quoteStep? letters c q).map fun m => ⟨l.tokens, m⟩
  | .word letters =>
    if isWordChar c then some ⟨l.tokens, .word (c :: letters)⟩
    else l.flush?.bind fun l' => between? l' c
  | .between => between? l c

end Lexer

def tokens? (text : List Char) : Option (List Token) :=
  (text.foldlM Lexer.step? Lexer.start).bind fun l => l.flush?.map fun l' => l'.tokens.reverse

end SchemaCheck.Json
