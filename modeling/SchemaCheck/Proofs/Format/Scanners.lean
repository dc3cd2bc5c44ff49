import Mathlib.Data.List.TakeWhile
import Mathlib.Data.String.Basic
import SchemaCheck.Format.Calendar

namespace SchemaCheck.Format

/-- Digits that spell the number, at least and at most so many. -/
structure Numeral (least most : Nat) (ds : List Char) (n : Nat) : Prop where
  digits : ∀ c ∈ ds, c.isDigit = true
  least_le : least ≤ ds.length
  le_most : ds.length ≤ most
  value : Nat.ofDigitChars 10 ds 0 = n

def EndsNumber (rest : List Char) : Prop := ∀ c, rest.head? = some c → c.isDigit = false

theorem endsNumber_nil : EndsNumber [] := by
  simp [EndsNumber]

theorem endsNumber_cons {c : Char} (rest : List Char) (h : c.isDigit = false) :
    EndsNumber (c :: rest) := by
  simpa [EndsNumber] using h

theorem EndsNumber.takeWhile_eq_nil {rest : List Char} (h : EndsNumber rest) :
    rest.takeWhile Char.isDigit = [] := by
  cases rest with
  | nil => rfl
  | cons c more => simp [h c rfl]

theorem EndsNumber.dropWhile_eq_self {rest : List Char} (h : EndsNumber rest) :
    rest.dropWhile Char.isDigit = rest := by
  cases rest with
  | nil => rfl
  | cons c more => simp [h c rfl]

theorem utf8Size_of_isDigit {c : Char} (h : c.isDigit = true) : c.utf8Size = 1 := by
  rw [Char.utf8Size_eq_one_iff]
  have h9 := (Char.isDigit_iff_toNat.1 h).2
  exact Nat.le_trans h9 (by decide)

theorem utf8Len_eq_length {cs : List Char} (h : ∀ c ∈ cs, c.utf8Size = 1) :
    String.utf8Len cs = cs.length := by
  induction cs with
  | nil => rfl
  | cons c more ih =>
      obtain ⟨hc, hmore⟩ := List.forall_mem_cons.1 h
      rw [String.utf8Len_cons, ih hmore, hc, List.length_cons]

namespace Numeral

variable {least most width n : Nat} {ds rest : List Char}

theorem mono {least' most' : Nat} (h : Numeral least most ds n) (hl : least' ≤ least)
    (hm : most ≤ most') : Numeral least' most' ds n :=
  ⟨h.digits, Nat.le_trans hl h.least_le, Nat.le_trans h.le_most hm, h.value⟩

theorem of_digits (h : ∀ c ∈ ds, c.isDigit = true) (hl : least ≤ ds.length)
    (hm : ds.length ≤ most) : Numeral least most ds (Text.decimal ds) :=
  ⟨h, hl, hm, (Text.numeral_eq_ofDigitChars 10 h).symm⟩

theorem decimal_eq (h : Numeral least most ds n) : Text.decimal ds = n := by
  rw [Text.decimal, Text.numeral_eq_ofDigitChars 10 h.digits, h.value]

theorem exists_cons (h : Numeral 1 most ds n) : ∃ d more, ds = d :: more ∧ d.isDigit = true := by
  obtain ⟨d, more, rfl⟩ := List.exists_cons_of_ne_nil (List.length_pos_iff.1 h.least_le)
  exact ⟨d, more, rfl, h.digits d (List.mem_cons_self ..)⟩

theorem notMem {c : Char} (h : Numeral least most ds n) (hc : c.isDigit = false) : c ∉ ds := by
  intro hm
  cases hc.symm.trans (h.digits c hm)

theorem length_eq (h : Numeral width width ds n) : ds.length = width :=
  Nat.le_antisymm h.le_most h.least_le

theorem utf8Len_eq (h : Numeral width width ds n) : String.utf8Len ds = width := by
  rw [utf8Len_eq_length fun c hc => utf8Size_of_isDigit (h.digits c hc), h.length_eq]

theorem map_isDigit (h : Numeral width width ds n) :
    ds.map Char.isDigit = List.replicate width true := by
  rw [← h.length_eq]
  exact List.map_eq_replicate_iff.2 h.digits

theorem exact {shape : List Bool} (h : Numeral least most ds n) (hr : EndsNumber rest)
    (hs : (ds ++ rest).map Char.isDigit = List.replicate most true ++ shape) :
    Numeral most most ds n ∧ rest.map Char.isDigit = shape := by
  have hd : ds.map Char.isDigit = List.replicate ds.length true :=
    List.map_eq_replicate_iff.2 h.digits
  obtain ⟨k, hk⟩ := Nat.exists_eq_add_of_le h.le_most
  rw [List.map_append, hd, hk, List.replicate_add, List.append_assoc, List.append_cancel_left_eq]
    at hs
  cases k with
  | zero => exact ⟨⟨h.digits, by omega, h.le_most, h.value⟩, by simpa using hs⟩
  | succ k =>
      cases rest with
      | nil => simp [List.replicate_succ] at hs
      | cons c more => simp [List.replicate_succ, hr c rfl] at hs

end Numeral

/-- The scanner takes off a text of the kind, and does if the rest does not go on with a digit. -/
structure Scans {α : Type} (scan : List Char → Scanned α) (Kind : List Char → α → Prop) : Prop where
  sound {cs rest : List Char} {a : α} (h : scan cs = some (a, rest)) :
    ∃ text, cs = text ++ rest ∧ Kind text a
  complete {text rest : List Char} {a : α} (h : Kind text a) (hr : EndsNumber rest) :
    scan (text ++ rest) = some (a, rest)

theorem scanNumber?_sound {width n : Nat} {cs rest : List Char}
    (h : scanNumber? width cs = some (n, rest)) : ∃ ds, cs = ds ++ rest ∧ Numeral 1 width ds n := by
  rw [scanNumber?] at h
  split at h
  next => cases h
  next hn =>
    cases h
    have hp : (cs.takeWhile Char.isDigit).take width <+: cs :=
      (List.take_prefix _ _).trans (List.takeWhile_prefix _)
    refine ⟨_, (List.prefix_iff_eq_append.1 hp).symm, .of_digits ?_ ?_ ?_⟩
    · exact fun c hc => List.mem_takeWhile_imp (List.mem_of_mem_take hc)
    · exact List.length_pos_iff.2 hn
    · exact List.length_take_le ..

theorem scanNumber?_complete {width n : Nat} {ds rest : List Char} (h : Numeral 1 width ds n)
    (hr : EndsNumber rest) : scanNumber? width (ds ++ rest) = some (n, rest) := by
  have ht : ((ds ++ rest).takeWhile Char.isDigit).take width = ds := by
    rw [List.takeWhile_append_of_pos h.digits, hr.takeWhile_eq_nil, List.append_nil,
      List.take_of_length_le h.le_most]
  have hn : ds ≠ [] := List.length_pos_iff.1 h.least_le
  simp [scanNumber?, ht, hn, h.decimal_eq]

theorem scanNumber?_complete_unbounded {ds rest : List Char} {n : Nat}
    (h : Numeral 1 ds.length ds n) (hr : EndsNumber rest) :
    scanNumber? (ds ++ rest).length (ds ++ rest) = some (n, rest) :=
  scanNumber?_complete (h.mono le_rfl (by simp)) hr

theorem scanExact?_eq_some_iff {width n : Nat} {cs rest : List Char} :
    scanExact? width cs = some (n, rest) ↔ ∃ ds, cs = ds ++ rest ∧ Numeral width width ds n := by
  constructor
  · intro h
    rw [scanExact?] at h
    split at h
    next hd =>
      cases h
      obtain ⟨hl, hd⟩ := hd
      exact ⟨_, (List.take_append_drop width cs).symm,
        .of_digits (List.all_eq_true.1 hd) hl.ge hl.le⟩
    next => cases h
  · rintro ⟨ds, rfl, h⟩
    have hd : ds.all Char.isDigit = true := List.all_eq_true.2 h.digits
    simp [scanExact?, ← h.length_eq, hd, h.decimal_eq]

theorem scans_scanExact? (width : Nat) : Scans (scanExact? width) (Numeral width width) where
  sound h := scanExact?_eq_some_iff.1 h
  complete h _ := scanExact?_eq_some_iff.2 ⟨_, rfl, h⟩

theorem scanChar?_eq_some_iff {c : Char} {cs rest : List Char} :
    scanChar? c cs = some rest ↔ cs = c :: rest := by
  cases cs with
  | nil => simp [scanChar?]
  | cons d more => by_cases hd : d = c <;> simp [scanChar?, hd]

def IsBlank (c : Char) : Prop := Unicode.blankChars.has c = true

theorem blankChars_ranges : Unicode.blankChars.ranges =
    [⟨9, 13⟩, ⟨0x20, 0x20⟩, ⟨0x85, 0x85⟩, ⟨0xA0, 0xA0⟩, ⟨0x1680, 0x1680⟩, ⟨0x2000, 0x200A⟩,
      ⟨0x2028, 0x2029⟩, ⟨0x202F, 0x202F⟩, ⟨0x205F, 0x205F⟩, ⟨0x3000, 0x3000⟩] := by
  decide +kernel

theorem not_isBlank {c : Char} (h : 0x20 < c.toNat) (h' : c.toNat < 0x85) : ¬IsBlank c := by
  simp only [IsBlank, Unicode.CharSet.has, Unicode.CharSet.hasCode, blankChars_ranges,
    List.any_cons, List.any_nil, Bool.or_eq_true, Bool.and_eq_true, decide_eq_true_eq,
    Bool.false_eq_true, or_false]
  omega

theorem not_isBlank_of_isDigit {c : Char} (h : c.isDigit = true) : ¬IsBlank c := by
  obtain ⟨h0, h9⟩ := Char.isDigit_iff_toNat.1 h
  exact not_isBlank (Nat.lt_of_lt_of_le (by decide) h0) (Nat.lt_of_le_of_lt h9 (by decide))

def AfterBlanks (P : List Char → Prop) (cs : List Char) : Prop :=
  ∃ blanks text, cs = blanks ++ text ∧ (∀ c ∈ blanks, IsBlank c) ∧ P text

/-- A number of one or two digits after blanks. -/
def LooseField (field : List Char) (n : Nat) : Prop := AfterBlanks (Numeral 1 2 · n) field

/-- A year of at most four digits, or of any number of them after a sign. -/
inductive SignedYear : List Char → Int → Prop
  | plain {ds : List Char} {n : Nat} (h : Numeral 1 4 ds n) : SignedYear ds n
  | plus {ds : List Char} {n : Nat} (h : Numeral 1 ds.length ds n) : SignedYear ('+' :: ds) n
  | minus {ds : List Char} {n : Nat} (h : Numeral 1 ds.length ds n) : SignedYear ('-' :: ds) (-n)

def LooseYear (year : List Char) (y : Int) : Prop := AfterBlanks (SignedYear · y) year

theorem exists_dropBlanks (cs : List Char) :
    ∃ blanks, cs = blanks ++ dropBlanks cs ∧ ∀ c ∈ blanks, IsBlank c :=
  ⟨cs.takeWhile Unicode.blankChars.has, List.takeWhile_append_dropWhile.symm,
    fun _ hc => List.mem_takeWhile_imp hc⟩

theorem dropBlanks_append {blanks text : List Char} (h : ∀ c ∈ blanks, IsBlank c)
    (ht : ∀ c, text.head? = some c → ¬IsBlank c) : dropBlanks (blanks ++ text) = text := by
  rw [dropBlanks, List.dropWhile_append_of_pos h]
  cases text with
  | nil => rfl
  | cons c more =>
      have hc : ¬Unicode.blankChars.has c = true := ht c rfl
      rw [List.dropWhile_cons_of_neg hc]

theorem Numeral.not_isBlank_head {most n : Nat} {ds : List Char} (h : Numeral 1 most ds n)
    (rest : List Char) : ∀ c, (ds ++ rest).head? = some c → ¬IsBlank c := by
  obtain ⟨d, more, rfl, hd⟩ := h.exists_cons
  intro c hc
  cases hc
  exact not_isBlank_of_isDigit hd

theorem AfterBlanks.of_isDigit {P : List Char → Prop} {cs rest : List Char} {shape : List Bool}
    (h : AfterBlanks P cs) (hs : (cs ++ rest).map Char.isDigit = true :: shape) : P cs := by
  obtain ⟨blanks, text, rfl, hb, hP⟩ := h
  cases blanks with
  | nil => exact hP
  | cons c more =>
      have hc : c.isDigit = true := (List.cons.inj hs).1
      exact absurd (hb c (List.mem_cons_self ..)) (not_isBlank_of_isDigit hc)

theorem scanField?_sound {cs rest : List Char} {n : Nat} (h : scanField? cs = some (n, rest)) :
    ∃ field, cs = field ++ rest ∧ LooseField field n := by
  obtain ⟨blanks, hcs, hb⟩ := exists_dropBlanks cs
  obtain ⟨ds, hds, hn⟩ := scanNumber?_sound h
  refine ⟨blanks ++ ds, ?_, blanks, ds, rfl, hb, hn⟩
  rw [List.append_assoc, ← hds, ← hcs]

theorem scanField?_complete {field rest : List Char} {n : Nat} (h : LooseField field n)
    (hr : EndsNumber rest) : scanField? (field ++ rest) = some (n, rest) := by
  obtain ⟨blanks, ds, rfl, hb, hn⟩ := h
  rw [List.append_assoc, scanField?, dropBlanks_append hb (hn.not_isBlank_head rest),
    scanNumber?_complete hn hr]

theorem scans_scanField? : Scans scanField? LooseField where
  sound := scanField?_sound
  complete := scanField?_complete

theorem scanYear?_sound {cs rest : List Char} {y : Int} (h : scanYear? cs = some (y, rest)) :
    ∃ year, cs = year ++ rest ∧ LooseYear year y := by
  obtain ⟨blanks, hcs, hb⟩ := exists_dropBlanks cs
  have hyear : ∀ text, dropBlanks cs = text ++ rest → SignedYear text y →
      ∃ year, cs = year ++ rest ∧ LooseYear year y := by
    intro text ht hs
    refine ⟨blanks ++ text, ?_, blanks, text, rfl, hb, hs⟩
    rw [List.append_assoc, ← ht, ← hcs]
  have hfull : ∀ {width n} {ds : List Char}, Numeral 1 width ds n → Numeral 1 ds.length ds n :=
    fun hn => ⟨hn.digits, hn.least_le, le_rfl, hn.value⟩
  rw [scanYear?] at h
  split at h
  next more hm =>
    obtain ⟨⟨n, after⟩, hn, he⟩ := Option.map_eq_some_iff.1 h
    cases he
    obtain ⟨ds, rfl, hn⟩ := scanNumber?_sound hn
    exact hyear ('-' :: ds) hm (.minus (hfull hn))
  next more hm =>
    obtain ⟨⟨n, after⟩, hn, he⟩ := Option.map_eq_some_iff.1 h
    cases he
    obtain ⟨ds, rfl, hn⟩ := scanNumber?_sound hn
    exact hyear ('+' :: ds) hm (.plus (hfull hn))
  next =>
    obtain ⟨⟨n, after⟩, hn, he⟩ := Option.map_eq_some_iff.1 h
    cases he
    obtain ⟨ds, hds, hn⟩ := scanNumber?_sound hn
    exact hyear ds hds (.plain hn)

theorem scanYear?_complete {year rest : List Char} {y : Int} (h : LooseYear year y)
    (hr : EndsNumber rest) : scanYear? (year ++ rest) = some (y, rest) := by
  obtain ⟨blanks, text, rfl, hb, hs⟩ := h
  have hsign : ∀ {sign : Char} (more : List Char), 0x20 < sign.toNat → sign.toNat < 0x85 →
      dropBlanks (blanks ++ sign :: more) = sign :: more := by
    intro sign more h h'
    apply dropBlanks_append hb
    intro c hc
    cases hc
    exact not_isBlank h h'
  rw [List.append_assoc, scanYear?]
  cases hs with
  | plain hn =>
      have hnumber := scanNumber?_complete hn hr
      have hdrop := dropBlanks_append hb (hn.not_isBlank_head rest)
      obtain ⟨d, more, rfl, hd⟩ := hn.exists_cons
      rw [hdrop]
      split
      next _ hm =>
        cases hm
        cases hd
      next _ hm =>
        cases hm
        cases hd
      next => rw [hnumber, Option.map_some]
  | plus hn =>
      rw [List.cons_append, hsign _ (by decide) (by decide)]
      simp only [scanNumber?_complete_unbounded hn hr, Option.map_some]
  | minus hn =>
      rw [List.cons_append, hsign _ (by decide) (by decide)]
      simp only [scanNumber?_complete_unbounded hn hr, Option.map_some]

theorem scans_scanYear? : Scans scanYear? LooseYear where
  sound := scanYear?_sound
  complete := scanYear?_complete

namespace LooseField

variable {field rest : List Char} {n : Nat}

theorem colon_notMem (h : LooseField field n) : ':' ∉ field := by
  obtain ⟨blanks, ds, rfl, hb, hn⟩ := h
  intro hc
  rcases List.mem_append.1 hc with hc | hc
  · exact not_isBlank (by decide) (by decide) (hb _ hc)
  · exact hn.notMem (by decide) hc

theorem utf8Len_pos (h : LooseField field n) : 0 < String.utf8Len field := by
  obtain ⟨blanks, ds, rfl, -, hn⟩ := h
  obtain ⟨d, more, rfl, -⟩ := hn.exists_cons
  have hd := Char.utf8Size_pos d
  rw [String.utf8Len_append, String.utf8Len_cons]
  omega

theorem exact {shape : List Bool} (h : LooseField field n) (hr : EndsNumber rest)
    (hs : (field ++ rest).map Char.isDigit = List.replicate 2 true ++ shape) :
    Numeral 2 2 field n ∧ rest.map Char.isDigit = shape :=
  (AfterBlanks.of_isDigit h hs).exact hr hs

end LooseField

theorem Numeral.looseField {ds : List Char} {n : Nat} (h : Numeral 2 2 ds n) : LooseField ds n :=
  ⟨[], ds, rfl, List.forall_mem_nil _, h.mono (by decide) le_rfl⟩

theorem LooseYear.exact {year rest : List Char} {y : Int} {shape : List Bool}
    (h : LooseYear year y) (hr : EndsNumber rest)
    (hs : (year ++ rest).map Char.isDigit = List.replicate 4 true ++ shape) :
    (∃ n : Nat, y = n ∧ Numeral 4 4 year n) ∧ rest.map Char.isDigit = shape := by
  cases AfterBlanks.of_isDigit h hs with
  | plain hn =>
      obtain ⟨hn, hrest⟩ := hn.exact hr hs
      exact ⟨⟨_, rfl, hn⟩, hrest⟩
  | plus hn => simp [List.replicate_succ] at hs
  | minus hn => simp [List.replicate_succ] at hs

theorem Numeral.looseYear {ds : List Char} {n : Nat} (h : Numeral 4 4 ds n) : LooseYear ds n :=
  ⟨[], ds, rfl, List.forall_mem_nil _, .plain (h.mono (by decide) le_rfl)⟩

/-- Nothing, or a point and at least one digit. -/
def IsFraction (fraction : List Char) : Prop :=
  fraction = [] ∨ ∃ ds, fraction = '.' :: ds ∧ ds ≠ [] ∧ ∀ c ∈ ds, c.isDigit = true

def EndsFraction (rest : List Char) : Prop :=
  ∀ c, rest.head? = some c → c.isDigit = false ∧ c ≠ '.'

theorem endsFraction_nil : EndsFraction [] := by
  simp [EndsFraction]

theorem IsFraction.notMem {fraction : List Char} {c : Char} (h : IsFraction fraction)
    (hc : c.isDigit = false) (hp : c ≠ '.') : c ∉ fraction := by
  rcases h with rfl | ⟨ds, rfl, -, hd⟩
  · exact List.not_mem_nil
  · refine List.not_mem_cons_of_ne_of_not_mem hp fun hm => ?_
    cases hc.symm.trans (hd c hm)

theorem IsFraction.endsNumber {fraction rest : List Char} (h : IsFraction fraction)
    (hr : EndsFraction rest) : EndsNumber (fraction ++ rest) := by
  rcases h with rfl | ⟨ds, rfl, -, -⟩
  · exact fun c hc => (hr c hc).1
  · exact endsNumber_cons _ rfl

theorem scanFraction?_sound {cs rest : List Char} (h : scanFraction? cs = some rest) :
    ∃ fraction, cs = fraction ++ rest ∧ IsFraction fraction := by
  unfold scanFraction? at h
  split at h
  next more =>
    split at h
    next hd =>
      cases h
      refine ⟨'.' :: more.takeWhile Char.isDigit, ?_, .inr ⟨_, rfl, ?_, ?_⟩⟩
      · rw [List.cons_append, List.takeWhile_append_dropWhile]
      · cases more with
        | nil => cases hd
        | cons d rest =>
            have hd : d.isDigit = true := hd
            simp [hd]
      · exact fun _ hc => List.mem_takeWhile_imp hc
    next => cases h
  next =>
    cases h
    exact ⟨[], rfl, .inl rfl⟩

theorem scanFraction?_complete {fraction rest : List Char} (h : IsFraction fraction)
    (hr : EndsFraction rest) : scanFraction? (fraction ++ rest) = some rest := by
  have hn : EndsNumber rest := fun c hc => (hr c hc).1
  rcases h with rfl | ⟨ds, rfl, hne, hd⟩
  · cases rest with
    | nil => rfl
    | cons c more =>
        rw [List.nil_append, scanFraction?]
        rintro _ he
        cases he
        exact (hr '.' rfl).2 rfl
  · have hrest : (ds ++ rest).dropWhile Char.isDigit = rest := by
      rw [List.dropWhile_append_of_pos hd, hn.dropWhile_eq_self]
    cases ds with
    | nil => exact absurd rfl hne
    | cons d more =>
        have hd : d.isDigit = true := hd d (List.mem_cons_self ..)
        rw [List.cons_append, scanFraction?, if_pos (by simpa using hd), hrest]

/-- The letter Z, or one of the signs with hours and minutes. -/
def IsOffset (signs offset : List Char) : Prop :=
  offset = ['z'] ∨ offset = ['Z'] ∨
    ∃ sign hours h minutes m, offset = sign :: (hours ++ ':' :: minutes) ∧ sign ∈ signs ∧
      Numeral 2 2 hours h ∧ Numeral 2 2 minutes m ∧ h < 24 ∧ m < 60

theorem IsOffset.mono {signs signs' offset : List Char} (h : IsOffset signs offset)
    (hs : ∀ sign ∈ signs, sign ∈ offset → sign ∈ signs') : IsOffset signs' offset := by
  rcases h with rfl | rfl | ⟨sign, hours, h, minutes, m, rfl, hsign, hrest⟩
  · exact .inl rfl
  · exact .inr (.inl rfl)
  · have hsign' := hs sign hsign (List.mem_cons_self ..)
    exact .inr (.inr ⟨sign, hours, h, minutes, m, rfl, hsign', hrest⟩)

theorem IsOffset.notMem {signs offset : List Char} {c : Char} (h : IsOffset signs offset)
    (hc : c.isDigit = false) (hs : c ∉ signs) (hl : c ∉ ['z', 'Z', ':']) : c ∉ offset := by
  simp only [List.mem_cons, List.not_mem_nil, or_false, not_or] at hl
  obtain ⟨hz, hz', hcolon⟩ := hl
  rcases h with rfl | rfl | ⟨sign, hours, h, minutes, m, rfl, hsign, hh, hm, -⟩
  · simpa using hz
  · simpa using hz'
  · have hne : c ≠ sign := fun he => hs (he ▸ hsign)
    simp [hne, hcolon, hh.notMem hc, hm.notMem hc]

theorem IsOffset.endsFraction {signs offset : List Char} (h : IsOffset signs offset)
    (hs : ∀ sign ∈ signs, sign.isDigit = false ∧ sign ≠ '.') : EndsFraction offset := by
  rcases h with rfl | rfl | ⟨sign, hours, h, minutes, m, rfl, hsign, -⟩
  · simp [EndsFraction]
  · simp [EndsFraction]
  · simpa [EndsFraction] using hs sign hsign

theorem scanOffset?_eq_some_nil_iff {cs : List Char} :
    scanOffset? cs = some [] ↔ IsOffset ['+', '-', '\u2212'] cs := by
  constructor
  · intro h
    unfold scanOffset? at h
    split at h
    next => cases h
    next c rest =>
      split at h
      next hz =>
        cases h
        rcases hz with rfl | rfl
        · exact .inl rfl
        · exact .inr (.inl rfl)
      next =>
        split at h
        next hs =>
          obtain ⟨⟨hours, a⟩, hh, h⟩ := Option.bind_eq_some_iff.1 h
          obtain ⟨b, hb, h⟩ := Option.bind_eq_some_iff.1 h
          obtain ⟨⟨minutes, d⟩, hm, h⟩ := Option.bind_eq_some_iff.1 h
          obtain ⟨hl, h⟩ := Option.ite_none_right_eq_some.1 h
          cases h
          obtain ⟨hds, rfl, hhours⟩ := scanExact?_eq_some_iff.1 hh
          obtain rfl := scanChar?_eq_some_iff.1 hb
          obtain ⟨mds, rfl, hminutes⟩ := scanExact?_eq_some_iff.1 hm
          rw [List.append_nil]
          exact .inr (.inr ⟨c, hds, hours, mds, minutes, rfl, by simpa using hs, hhours, hminutes,
            hl⟩)
        next => cases h
  · rintro (rfl | rfl | ⟨sign, hds, hours, mds, minutes, rfl, hs, hhours, hminutes, hl⟩)
    · rfl
    · rfl
    · have hh := (scans_scanExact? 2).complete hhours (endsNumber_cons (c := ':') mds rfl)
      have hm := (scans_scanExact? 2).complete hminutes endsNumber_nil
      rw [List.append_nil] at hm
      have hz : ¬(sign = 'z' ∨ sign = 'Z') := by
        rintro (rfl | rfl) <;> revert hs <;> decide
      have hs : sign = '+' ∨ sign = '-' ∨ sign = '\u2212' := by
        simpa using hs
      rw [scanOffset?, if_neg hz, if_pos hs]
      simp [hh, hm, scanChar?, hl]

end SchemaCheck.Format
