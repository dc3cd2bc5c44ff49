import SchemaCheck.Json.Writer
import SchemaCheck.Json.Numeral
import SchemaCheck.Proofs.Decimal.Shortest

namespace SchemaCheck

namespace Text

theorem numeral_append (base : Nat) (ds es : List Char) :
    numeral base (ds ++ es) = numeral base ds * base ^ es.length + numeral base es := by
  have hfold : ∀ n, es.foldl (fun n c => n * base + digitValue c) n =
      n * base ^ es.length + numeral base es := by
    induction es with
    | nil => simp [numeral]
    | cons c rest ih =>
        intro n
        rw [numeral, List.foldl_cons, List.foldl_cons, ih, ih (0 * base + digitValue c),
          List.length_cons]
        ring
  rw [numeral, List.foldl_append]
  exact hfold _

theorem decimal_append (ds es : List Char) :
    decimal (ds ++ es) = decimal ds * 10 ^ es.length + decimal es :=
  numeral_append 10 ds es

theorem decimal_zeros (k : Nat) : decimal (List.replicate k '0') = 0 := by
  induction k with
  | zero => rfl
  | succ k ih =>
      rw [List.replicate_succ', decimal_append, ih]
      rfl

theorem isDigit_of_mem_toDigits {n : Nat} : ∀ c ∈ Nat.toDigits 10 n, c.isDigit = true :=
  fun _ hc => Nat.isDigit_of_mem_toDigits (by decide) (by decide) hc

theorem head?_append {ds : List Char} (h : ds ≠ []) (es : List Char) :
    (ds ++ es).head? = ds.head? := by
  obtain ⟨c, rest, rfl⟩ := List.exists_cons_of_ne_nil h
  rfl

theorem head?_toDigits {n : Nat} (hn : 0 < n) : (Nat.toDigits 10 n).head? ≠ some '0' := by
  induction n using Nat.strongRecOn with
  | ind n ih =>
      by_cases hlt : n < 10
      · have hdigit : ∀ d < 10, 0 < d → [d.digitChar].head? ≠ some '0' := by decide
        rw [Nat.toDigits_of_lt_base hlt]
        exact hdigit n hlt hn
      · rw [Nat.toDigits_of_base_le (by decide) (Nat.not_lt.1 hlt),
          head?_append Nat.toDigits_ne_nil]
        exact ih (n / 10) (by omega) (by omega)

end Text

namespace Json

namespace Numeral

/-- The decimal that the numeral spells, without its sign. -/
def decimal (n : Numeral) : Decimal.Scientific :=
  ⟨Text.decimal (n.whole ++ n.fraction.getD []), n.exponent.getD 0 - (n.fraction.getD []).length⟩

/-- Integers are spelled by their digits, and doubles by a decimal that they are nearest to. -/
def Spells (n : Numeral) : Number → Prop
  | .int i => n.fraction = none ∧ n.exponent = none ∧
      i = if n.negative then -(Text.decimal n.whole : Int) else Text.decimal n.whole
  | .double x => (n.fraction ≠ none ∨ n.exponent ≠ none) ∧ n.negative = x.negative ∧
      n.decimal.nearest = x.units

structure IsWhole (whole : List Char) : Prop where
  digits : ∀ c ∈ whole, c.isDigit = true
  ne_nil : whole ≠ []
  leading : whole.head? = some '0' → whole.length = 1

theorem isWhole_toDigits (n : Nat) : IsWhole (Nat.toDigits 10 n) where
  digits := Text.isDigit_of_mem_toDigits
  ne_nil := Nat.toDigits_ne_nil
  leading h := by
    by_cases hn : n = 0
    · subst hn
      rfl
    · exact absurd h (Text.head?_toDigits (Nat.pos_of_ne_zero hn))

theorem IsWhole.take {whole : List Char} (h : IsWhole whole) {k : Nat} (hk : 0 < k) :
    IsWhole (whole.take k) where
  digits c hc := h.digits c (List.mem_of_mem_take hc)
  ne_nil := by
    have hpos := List.length_pos_iff.2 h.ne_nil
    refine List.length_pos_iff.1 ?_
    rw [List.length_take]
    omega
  leading hz := by
    rw [List.head?_take, if_neg hk.ne'] at hz
    rw [List.length_take, h.leading hz]
    omega

theorem IsWhole.append {whole more : List Char} (h : IsWhole whole)
    (hz : whole.head? ≠ some '0') (hm : ∀ c ∈ more, c.isDigit = true) :
    IsWhole (whole ++ more) where
  digits c hc := (List.mem_append.1 hc).elim (h.digits c) (hm c)
  ne_nil := List.append_ne_nil_of_left_ne_nil h.ne_nil _
  leading hz' := by
    rw [Text.head?_append h.ne_nil] at hz'
    exact absurd hz' hz

section Reading

variable {negative : Bool} {whole fraction tail : List Char}

theorem span_digits (ds rest : List Char) (hd : ∀ c ∈ ds, c.isDigit = true)
    (hr : ∀ c, rest.head? = some c → c.isDigit = false) :
    (ds ++ rest).takeWhile Char.isDigit = ds ∧ (ds ++ rest).dropWhile Char.isDigit = rest := by
  rw [List.takeWhile_append_of_pos hd, List.dropWhile_append_of_pos hd]
  cases rest with
  | nil => simp
  | cons c more => simp [hr c rfl]

theorem readUnsigned?_fraction (hw : IsWhole whole) (hf : ∀ c ∈ fraction, c.isDigit = true)
    (hne : fraction ≠ []) (ht : ∀ c, tail.head? = some c → c.isDigit = false) :
    readUnsigned? negative (whole ++ '.' :: (fraction ++ tail)) =
      readTail? negative whole (some fraction) tail := by
  obtain ⟨htake, hdrop⟩ := span_digits whole ('.' :: (fraction ++ tail)) hw.digits (by simp)
  obtain ⟨hftake, hfdrop⟩ := span_digits fraction tail hf ht
  have hno : ¬(whole = [] ∨ whole.head? = some '0' ∧ whole.length ≠ 1) := by
    rintro (h | ⟨h, hl⟩)
    · exact hw.ne_nil h
    · exact hl (hw.leading h)
  simp only [readUnsigned?, htake, hdrop, if_neg hno, hftake, hfdrop, if_neg hne]

theorem readUnsigned?_whole (hw : IsWhole whole)
    (ht : ∀ c, tail.head? = some c → c.isDigit = false ∧ c ≠ '.') :
    readUnsigned? negative (whole ++ tail) = readTail? negative whole none tail := by
  obtain ⟨htake, hdrop⟩ := span_digits whole tail hw.digits fun c hc => (ht c hc).1
  have hno : ¬(whole = [] ∨ whole.head? = some '0' ∧ whole.length ≠ 1) := by
    rintro (h | ⟨h, hl⟩)
    · exact hw.ne_nil h
    · exact hl (hw.leading h)
  simp only [readUnsigned?, htake, hdrop, if_neg hno]
  split
  next rest => exact absurd rfl (ht '.' rfl).2
  next => rfl

def exponentTail (e : Int) : List Char :=
  'e' :: (if e < 0 then '-' else '+') :: Nat.toDigits 10 e.natAbs

theorem readTail?_exponentTail (fraction : Option (List Char)) (e : Int) :
    readTail? negative whole fraction (exponentTail e) =
      some ⟨negative, whole, fraction, some e⟩ := by
  have hdigits : (Nat.toDigits 10 e.natAbs).all Char.isDigit = true :=
    List.all_eq_true.2 Text.isDigit_of_mem_toDigits
  rw [exponentTail, readTail?, if_pos (.inl rfl)]
  split
  next h =>
    rw [readExponent?, if_pos ⟨Nat.toDigits_ne_nil, hdigits⟩, Text.decimal_toDigits,
      Option.map_some]
    congr
    omega
  next h =>
    rw [readExponent?, if_pos ⟨Nat.toDigits_ne_nil, hdigits⟩, Text.decimal_toDigits,
      Option.map_some]
    congr
    omega

end Reading

open Decimal

theorem toList_withPoint (digits : List Char) (whole : Nat) :
    (withPoint digits whole).toList = digits.take whole ++ '.' :: digits.drop whole := by
  simp [withPoint]

theorem read?_of_readUnsigned? {cs : List Char} {n : Numeral}
    (h : readUnsigned? false cs = some n) : read? cs = some n := by
  unfold read?
  split
  next rest => cases h
  next => exact h

def ReadsAs (text : String) (s : Scientific) : Prop :=
  ∀ negative, ∃ n, readUnsigned? negative text.toList = some n ∧ n.negative = negative ∧
    (n.fraction ≠ none ∨ n.exponent ≠ none) ∧ n.decimal.nearest = s.nearest

section Layout

variable {digits : List Char} (hw : IsWhole digits)
include hw

theorem readsAs_whole {k : Nat} (hk : digits.head? = some '0' → k = 0) :
    ReadsAs (String.ofList digits ++ zeros k ++ ".0") ⟨Text.decimal digits, k⟩ := by
  intro negative
  have hzero : ∀ d ∈ List.replicate k '0', d.isDigit = true := by
    intro d hd
    rw [List.eq_of_mem_replicate hd]
    rfl
  have hwhole : IsWhole (digits ++ List.replicate k '0') := by
    by_cases hz : digits.head? = some '0'
    · rw [hk hz, List.replicate_zero, List.append_nil]
      exact hw
    · exact hw.append hz hzero
  have htext : (String.ofList digits ++ zeros k ++ ".0").toList =
      (digits ++ List.replicate k '0') ++ '.' :: (['0'] ++ []) := by
    simp [zeros]
  refine ⟨⟨negative, digits ++ List.replicate k '0', some ['0'], none⟩, ?_, rfl, .inl nofun, ?_⟩
  · rw [htext, readUnsigned?_fraction hwhole (by simp) (by simp) (by simp)]
    rfl
  · have hvalue : Text.decimal (digits ++ List.replicate k '0' ++ ['0']) =
        Text.decimal digits * 10 ^ (k + 1) := by
      rw [List.append_assoc, ← List.replicate_succ', Text.decimal_append, Text.decimal_zeros,
        List.length_replicate, Nat.add_zero]
    simp only [decimal, Option.getD_some, Option.getD_none, hvalue, List.length_singleton]
    rw [nearest_scale]
    congr 2
    omega

theorem readsAs_withPoint {k : Nat} (hk : 0 < k) (hlt : k < digits.length) :
    ReadsAs (withPoint digits (digits.length - k)) ⟨Text.decimal digits, -k⟩ := by
  intro negative
  have htext : (withPoint digits (digits.length - k)).toList =
      digits.take (digits.length - k) ++ '.' :: (digits.drop (digits.length - k) ++ []) := by
    rw [toList_withPoint, List.append_nil]
  have hlength : (digits.drop (digits.length - k)).length = k := by
    rw [List.length_drop]
    omega
  refine ⟨⟨negative, digits.take (digits.length - k), some (digits.drop (digits.length - k)), none⟩,
    ?_, rfl, .inl nofun, ?_⟩
  · rw [htext, readUnsigned?_fraction (hw.take (by omega))
      (fun c hc => hw.digits c (List.mem_of_mem_drop hc)) (List.length_pos_iff.1 (by rwa [hlength]))
      (by simp)]
    rfl
  · simp only [decimal, Option.getD_some, Option.getD_none, List.take_append_drop, hlength,
      Int.zero_sub]

theorem readsAs_small {k : Nat} (hle : digits.length ≤ k) :
    ReadsAs ("0." ++ zeros (k - digits.length) ++ String.ofList digits)
      ⟨Text.decimal digits, -k⟩ := by
  intro negative
  have hfraction : ∀ c ∈ List.replicate (k - digits.length) '0' ++ digits, c.isDigit = true := by
    intro c hc
    rcases List.mem_append.1 hc with hc | hc
    · rw [List.eq_of_mem_replicate hc]
      rfl
    · exact hw.digits c hc
  have htext : ("0." ++ zeros (k - digits.length) ++ String.ofList digits).toList =
      ['0'] ++ '.' :: ((List.replicate (k - digits.length) '0' ++ digits) ++ []) := by
    simp [zeros]
  have hlength : (List.replicate (k - digits.length) '0' ++ digits).length = k := by
    rw [List.length_append, List.length_replicate]
    omega
  refine ⟨⟨negative, ['0'], some (List.replicate (k - digits.length) '0' ++ digits), none⟩,
    ?_, rfl, .inl nofun, ?_⟩
  · rw [htext, readUnsigned?_fraction ⟨by simp, by simp, by simp⟩ hfraction
      (List.append_ne_nil_of_right_ne_nil _ hw.ne_nil) (by simp)]
    rfl
  · have hvalue : Text.decimal (['0'] ++ (List.replicate (k - digits.length) '0' ++ digits)) =
        Text.decimal digits := by
      rw [← List.append_assoc, List.singleton_append, ← List.replicate_succ, Text.decimal_append,
        Text.decimal_zeros, Nat.zero_mul, Nat.zero_add]
    simp only [decimal, Option.getD_some, Option.getD_none, hvalue, hlength, Int.zero_sub]

theorem readsAs_scientificText (e : Int) :
    ReadsAs (scientificText digits (e + digits.length - 1)) ⟨Text.decimal digits, e⟩ := by
  intro negative
  generalize hlead : e + digits.length - 1 = lead
  have hpos := List.length_pos_iff.2 hw.ne_nil
  have htail : ∀ c, (exponentTail lead).head? = some c → c.isDigit = false ∧ c ≠ '.' := by
    intro c hc
    cases hc
    decide
  have htext : (scientificText digits lead).toList =
      (if digits.length ≤ 1 then digits else digits.take 1 ++ '.' :: digits.drop 1) ++
        exponentTail lead := by
    have hsign : (if lead < 0 then "e-" else "e+").toList =
        ['e', if lead < 0 then '-' else '+'] := by
      split <;> rfl
    simp only [scientificText, String.toList_append, hsign, Nat.toString_eq_ofList_toDigits,
      String.toList_ofList, exponentTail]
    split <;> simp [toList_withPoint]
  rw [htext]
  split
  next hle =>
    refine ⟨⟨negative, digits, none, some lead⟩, ?_, rfl, .inr nofun, ?_⟩
    · rw [readUnsigned?_whole hw htail, readTail?_exponentTail]
    · simp only [decimal, Option.getD_some, Option.getD_none, List.append_nil, List.length_nil]
      congr 2
      omega
  next hgt =>
    refine ⟨⟨negative, digits.take 1, some (digits.drop 1), some lead⟩, ?_, rfl, .inr nofun, ?_⟩
    · rw [List.append_assoc, List.cons_append, readUnsigned?_fraction (hw.take (by decide))
        (fun c hc => hw.digits c (List.mem_of_mem_drop hc)) ?_ fun c hc => (htail c hc).1,
        readTail?_exponentTail]
      refine List.length_pos_iff.1 ?_
      rw [List.length_drop]
      omega
    · simp only [decimal, Option.getD_some, List.take_append_drop, List.length_drop]
      congr 2
      omega

end Layout

theorem exponent_shortest {tie : Tie} {units : Nat} (h : Binary64.Fits units)
    (hc : (shortest tie units).coefficient = 0) : (shortest tie units).exponent = 0 := by
  have hn : (shortest tie units).nearest = units := nearest_shortest h
  rw [Scientific.nearest, hc, Nat.zero_mul] at hn
  have hle := Binary64.nearest_le (n := 0) (ten_pow_pos (-(shortest tie units).exponent).toNat)
    Binary64.fits_zero (Nat.zero_le _)
  obtain rfl : units = 0 := by omega
  rfl

/-- The zero that `0` is laid out by has no digits to move the point over. -/
theorem readsAs_layout {s : Scientific} (hzero : s.coefficient = 0 → s.exponent = 0)
    (positional : Bool) :
    ReadsAs (if positional then
        Layout.json.positionalText (Nat.toDigits 10 s.coefficient) s.exponent
      else scientificText (Nat.toDigits 10 s.coefficient)
        (s.exponent + (Nat.toDigits 10 s.coefficient).length - 1)) s := by
  obtain ⟨c, e⟩ := s
  have hw := isWhole_toDigits c
  have hvalue := Text.decimal_toDigits c
  have hhead : (Nat.toDigits 10 c).head? = some '0' → c = 0 := fun hz =>
    Nat.eq_zero_of_not_pos fun hc => Text.head?_toDigits hc hz
  simp only at hzero ⊢
  generalize Nat.toDigits 10 c = digits at hw hvalue hhead ⊢
  subst hvalue
  cases positional with
  | false => exact readsAs_scientificText hw e
  | true =>
      rw [if_pos rfl, Layout.positionalText]
      split
      next he =>
        obtain ⟨k, rfl⟩ := Int.eq_ofNat_of_zero_le he
        exact readsAs_whole hw fun hz => Int.ofNat_eq_zero.1 (hzero (hhead hz))
      next he =>
        obtain ⟨k, rfl⟩ : ∃ k : Nat, e = -k := ⟨(-e).toNat, by omega⟩
        rw [Int.neg_neg, Int.toNat_natCast]
        dsimp only
        split
        next hlt => exact readsAs_withPoint hw (by omega) hlt
        next hge => exact readsAs_small hw (Nat.not_lt.1 hge)

theorem readsAs_unsigned {units : Nat} (h : Binary64.Fits units) :
    ReadsAs (Layout.json.unsigned units) (shortest .even units) :=
  readsAs_layout (exponent_shortest h) _

theorem exists_read?_write (x : Binary64) :
    ∃ n, read? (Layout.json.write x).toList = some n ∧ n.Spells (.double x) := by
  obtain ⟨n, hn, hsign, hdouble, hvalue⟩ := readsAs_unsigned x.fits x.negative
  rw [nearest_shortest x.fits] at hvalue
  refine ⟨n, ?_, hdouble, hsign, hvalue⟩
  rw [Layout.write, String.toList_append]
  cases hneg : x.negative with
  | false =>
      rw [hneg] at hn
      exact read?_of_readUnsigned? hn
  | true =>
      rw [hneg] at hn
      exact hn

theorem readUnsigned?_toString (negative : Bool) (k : Nat) :
    readUnsigned? negative (toString k).toList =
      some ⟨negative, Nat.toDigits 10 k, none, none⟩ := by
  have hread : readUnsigned? negative (Nat.toDigits 10 k ++ []) = _ :=
    readUnsigned?_whole (isWhole_toDigits k) nofun
  rw [List.append_nil] at hread
  rw [Nat.toString_eq_ofList_toDigits, String.toList_ofList, hread]
  rfl

theorem read?_int (i : Int) : read? (toString i).toList =
    some ⟨decide (i < 0), Nat.toDigits 10 i.natAbs, none, none⟩ := by
  cases i with
  | ofNat k => exact read?_of_readUnsigned? (readUnsigned?_toString false k)
  | negSucc k =>
      have htext : (toString (Int.negSucc k)).toList = '-' :: (toString (k + 1)).toList := by
        change ("-" ++ toString (k + 1)).toList = _
        rw [String.toList_append]
        rfl
      rw [htext, decide_eq_true (Int.negSucc_lt_zero k)]
      exact readUnsigned?_toString true (k + 1)

theorem exists_read?_int (i : Int) :
    ∃ n, read? (toString i).toList = some n ∧ n.Spells (.int i) := by
  refine ⟨_, read?_int i, rfl, rfl, ?_⟩
  rw [Text.decimal_toDigits]
  split
  next h => simp only [decide_eq_true_eq] at h; omega
  next h => simp only [decide_eq_true_eq] at h; omega

/-- The numerals of integers that fit are read as these. -/
theorem number?_int {i : Int} (hlow : -2 ^ 63 ≤ i) (hhigh : i < 2 ^ 64) :
    (Numeral.mk (decide (i < 0)) (Nat.toDigits 10 i.natAbs) none none).number? = some (.int i) := by
  have hinteger : (Numeral.mk (decide (i < 0)) (Nat.toDigits 10 i.natAbs) none none).integer? =
      some i := by
    have hlargest : Number.largestCount = 2 ^ 64 - 1 := rfl
    have hsmallest : 1 <<< 63 = 2 ^ 63 := rfl
    simp only [integer?, Text.decimal_toDigits, hlargest, hsmallest, Option.isSome_none,
      Bool.or_false, Bool.false_eq_true, if_false, decide_eq_true_eq]
    split
    · rw [if_pos (by omega)]
      congr 1
      omega
    · rw [if_pos (by omega)]
      congr 1
      omega
  rw [number?, hinteger]

end Numeral

def Number.SpelledBy (x : Number) (cs : List Char) : Prop :=
  ∃ n, Numeral.read? cs = some n ∧ n.Spells x

theorem spelledBy_text (x : Number) : x.SpelledBy x.text.toList := by
  cases x with
  | int i => exact Numeral.exists_read?_int i
  | double x => exact Numeral.exists_read?_write x

end Json

end SchemaCheck
