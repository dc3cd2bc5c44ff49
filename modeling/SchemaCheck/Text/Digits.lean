namespace SchemaCheck.Text

def digit? (c : Char) : Option Nat :=
  if c.isDigit then some (c.toNat - '0'.toNat)
  else if 'a' ≤ c ∧ c ≤ 'f' then some (c.toNat - 'a'.toNat + 10)
  else if 'A' ≤ c ∧ c ≤ 'F' then some (c.toNat - 'A'.toNat + 10)
  else none

def digitValue (c : Char) : Nat := (digit? c).getD 0

def isHexDigit (c : Char) : Bool := (digit? c).isSome

/-- The number that digits spell in some base, and zero if there are none. -/
def numeral (base : Nat) (cs : List Char) : Nat := cs.foldl (fun n c => n * base + digitValue c) 0

def decimal (cs : List Char) : Nat := numeral 10 cs

def hexadecimal (cs : List Char) : Nat := numeral 16 cs

/-- A count below 2⁶⁴. A plus sign may stand before its digits. -/
def count? (text : String) : Option Nat :=
  let digits := match text.toList with
    | '+' :: ds => ds
    | ds => ds
  if digits ≠ [] ∧ digits.all Char.isDigit ∧ decimal digits < UInt64.size then some (decimal digits)
  else none

theorem digitValue_of_isDigit {c : Char} (h : c.isDigit = true) :
    digitValue c = c.toNat - '0'.toNat := by
  rw [digitValue, digit?, if_pos h, Option.getD_some]

theorem numeral_eq_ofDigitChars (base : Nat) {cs : List Char} (h : ∀ c ∈ cs, c.isDigit = true) :
    numeral base cs = Nat.ofDigitChars base cs 0 := by
  have hfold : ∀ n, cs.foldl (fun n c => n * base + digitValue c) n =
      Nat.ofDigitChars base cs n := by
    induction cs with
    | nil => exact fun n => rfl
    | cons c rest ih =>
        intro n
        rw [List.foldl_cons, ih fun d hd => h d (List.mem_cons_of_mem _ hd),
          digitValue_of_isDigit (h c (List.mem_cons_self ..)), Nat.mul_comm]
        rfl
  exact hfold 0

theorem decimal_toDigits (n : Nat) : decimal (Nat.toDigits 10 n) = n := by
  have hd : ∀ c ∈ Nat.toDigits 10 n, c.isDigit = true := fun c hc =>
    Nat.isDigit_of_mem_toDigits (by decide) (by decide) hc
  rw [decimal, numeral_eq_ofDigitChars 10 hd, Nat.ofDigitChars_ten_toDigits]

theorem count?_toString {n : Nat} (h : n < UInt64.size) : count? (toString n) = some n := by
  have hdigits : ∀ c ∈ Nat.toDigits 10 n, c.isDigit = true := fun c hc =>
    Nat.isDigit_of_mem_toDigits (by decide) (by decide) hc
  have ht : (toString n).toList = Nat.toDigits 10 n := by
    rw [Nat.toString_eq_ofList_toDigits, String.toList_ofList]
  rw [count?, ht]
  split
  next ds hp =>
    have hplus : '+'.isDigit = true := hdigits '+' (hp ▸ List.mem_cons_self ..)
    cases hplus
  next =>
    rw [decimal_toDigits]
    exact if_pos ⟨Nat.toDigits_ne_nil, List.all_eq_true.2 hdigits, h⟩

end SchemaCheck.Text
