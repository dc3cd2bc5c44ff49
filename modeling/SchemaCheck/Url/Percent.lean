import SchemaCheck.Text.Digits

namespace SchemaCheck.Url.Percent

open Text (digitValue isHexDigit)

abbrev Keeps := Char → Bool

def isPlain (c : Char) : Bool := ' ' ≤ c && c ≤ '~'

def plainBut (others : String) : Keeps := fun c => isPlain c && !others.toList.contains c

def keptInFragment : Keeps := plainBut " \"<>`"
def keptInQuery : Keeps := plainBut " \"#<>"
def keptInSpecialQuery : Keeps := plainBut " \"#<>'"
def keptInPath : Keeps := plainBut " \"#<>?^`\x7b\x7d"
def keptInUserinfo : Keeps := plainBut " \"#<>?^`\x7b\x7d/:;=@[\\]|"

def upperDigit (n : Nat) : Char :=
  if n < 10 then Char.ofNat ('0'.toNat + n) else Char.ofNat ('A'.toNat + (n - 10))

def encodeByte (b : UInt8) : List Char :=
  ['%', upperDigit (b.toNat / 16), upperDigit (b.toNat % 16)]

def encodeChar (keeps : Keeps) (c : Char) : List Char :=
  if keeps c then [c] else (String.utf8EncodeChar c).flatMap encodeByte

def encode (keeps : Keeps) (cs : List Char) : String := .ofList (cs.flatMap (encodeChar keeps))

/-- The bytes of a text. A percent sign without two digits after it stands for itself. -/
def decode : List Char → List UInt8
  | '%' :: a :: b :: rest =>
    if isHexDigit a ∧ isHexDigit b then .ofNat (digitValue a * 16 + digitValue b) :: decode rest
    else String.utf8EncodeChar '%' ++ decode (a :: b :: rest)
  | c :: rest => String.utf8EncodeChar c ++ decode rest
  | [] => []

def decodeText? (cs : List Char) : Option String := String.fromUTF8? ⟨(decode cs).toArray⟩

end SchemaCheck.Url.Percent
