import SchemaCheck.Format.Basic
import SchemaCheck.Proofs.Format.Scanners

namespace SchemaCheck.Format

/-- Every fourth year, but of full centuries only every fourth. -/
def HasLeapDay (year : Int) : Prop := 4 ∣ year ∧ (100 ∣ year → 400 ∣ year)

/-- The day is one of the Gregorian calendar. -/
def GregorianDay (year : Int) (month day : Nat) : Prop :=
  1 ≤ month ∧ month ≤ 12 ∧ 1 ≤ day ∧
    (day ≤ 28 ∨ day ≤ 30 ∧ month ≠ 2 ∨ day = 31 ∧ month ∈ [1, 3, 5, 7, 8, 10, 12] ∨
      day = 29 ∧ month = 2 ∧ HasLeapDay year)

theorem isLeap_iff {year : Int} : isLeap year = true ↔ HasLeapDay year := by
  simp only [isLeap, HasLeapDay, Bool.and_eq_true, Bool.or_eq_true, decide_eq_true_eq]
  omega

theorem le_daysIn_iff {year : Int} {month day : Nat} (h : 1 ≤ month) (h' : month ≤ 12) :
    day ≤ daysIn year month ↔ day ≤ 28 ∨ day ≤ 30 ∧ month ≠ 2 ∨
      day = 31 ∧ month ∈ [1, 3, 5, 7, 8, 10, 12] ∨ day = 29 ∧ month = 2 ∧ HasLeapDay year := by
  simp only [← isLeap_iff, daysIn, List.mem_cons, List.not_mem_nil, or_false]
  by_cases hm : month = 2
  · subst hm
    by_cases hl : isLeap year = true
    · simp only [hl, if_true, and_true]
      omega
    · simp only [hl, if_true, Bool.false_eq_true, if_false, and_false, or_false]
      omega
  · rw [if_neg hm]
    split <;> omega

theorem isDay_iff {year : Int} {month day : Nat} :
    isDay year month day = true ↔ GregorianDay year month day := by
  simp only [isDay, GregorianDay, Bool.and_eq_true, decide_eq_true_eq, and_assoc]
  refine and_congr_right fun h => and_congr_right fun h' => and_congr_right fun _ => ?_
  exact le_daysIn_iff h h'

/-- A year, a month and a day with hyphens between them, of a day that there is. -/
def DateText (Year : List Char → Int → Prop) (Field : List Char → Nat → Prop)
    (cs : List Char) : Prop :=
  ∃ year y month m day d, cs = year ++ '-' :: (month ++ '-' :: day) ∧
    Year year y ∧ Field month m ∧ Field day d ∧ GregorianDay y m d

/-- A date as RFC 3339 has it. -/
def FullDate : List Char → Prop :=
  DateText (fun year y => ∃ n : Nat, y = n ∧ Numeral 4 4 year n) (Numeral 2 2)

/-- A date as it is read: its numbers may have blanks before them and digits missing. -/
def LooseDate : List Char → Prop := DateText LooseYear LooseField

theorem lenientDate?_eq_some_nil_iff {cs : List Char} :
    lenientDate? cs = some [] ↔ LooseDate cs := by
  constructor
  · intro h
    obtain ⟨⟨y, a⟩, hy, h⟩ := Option.bind_eq_some_iff.1 h
    obtain ⟨b, hb, h⟩ := Option.bind_eq_some_iff.1 h
    obtain ⟨⟨m, e⟩, hm, h⟩ := Option.bind_eq_some_iff.1 h
    obtain ⟨f, hf, h⟩ := Option.bind_eq_some_iff.1 h
    obtain ⟨⟨d, g⟩, hd, h⟩ := Option.bind_eq_some_iff.1 h
    obtain ⟨hday, h⟩ := Option.ite_none_right_eq_some.1 h
    cases h
    obtain ⟨year, rfl, hyear⟩ := scans_scanYear?.sound hy
    obtain rfl := scanChar?_eq_some_iff.1 hb
    obtain ⟨month, rfl, hmonth⟩ := scans_scanField?.sound hm
    obtain rfl := scanChar?_eq_some_iff.1 hf
    obtain ⟨day, rfl, hday'⟩ := scans_scanField?.sound hd
    rw [List.append_nil]
    exact ⟨year, y, month, m, day, d, rfl, hyear, hmonth, hday', isDay_iff.1 hday⟩
  · rintro ⟨year, y, month, m, day, d, rfl, hyear, hmonth, hd, hday⟩
    have hy := scans_scanYear?.complete hyear (endsNumber_cons (c := '-') (month ++ '-' :: day) rfl)
    have hm := scans_scanField?.complete hmonth (endsNumber_cons (c := '-') day rfl)
    have hd := scans_scanField?.complete hd endsNumber_nil
    rw [List.append_nil] at hd
    simp [lenientDate?, hy, hm, hd, scanChar?, isDay_iff.2 hday]

def dateShape : List Bool :=
  List.replicate 4 true ++ false :: (List.replicate 2 true ++ false :: List.replicate 2 true)

theorem FullDate.shape {cs : List Char} (h : FullDate cs) : cs.map Char.isDigit = dateShape := by
  obtain ⟨year, y, month, m, day, d, rfl, ⟨n, -, hy⟩, hm, hd, -⟩ := h
  simp only [List.map_append, List.map_cons, hy.map_isDigit, hm.map_isDigit, hd.map_isDigit]
  rfl

theorem FullDate.utf8ByteSize_eq {s : String} (h : FullDate s.toList) : s.utf8ByteSize = 10 := by
  rw [← String.ofList_toList (s := s), String.utf8ByteSize_ofList]
  obtain ⟨year, y, month, m, day, d, hs, ⟨n, -, hy⟩, hm, hd, -⟩ := h
  have hyphen : ('-' : Char).utf8Size = 1 := rfl
  simp [hs, hy.utf8Len_eq, hm.utf8Len_eq, hd.utf8Len_eq, hyphen]

theorem FullDate.loose {cs : List Char} (h : FullDate cs) : LooseDate cs := by
  obtain ⟨year, y, month, m, day, d, rfl, ⟨n, rfl, hy⟩, hm, hd, hday⟩ := h
  exact ⟨year, n, month, m, day, d, rfl, hy.looseYear, hm.looseField, hd.looseField, hday⟩

/-- The digits are taken off from the left: each number is whole, so the next one starts in time. -/
theorem fullDate_of_loose {cs : List Char} (h : LooseDate cs)
    (hs : cs.map Char.isDigit = dateShape) : FullDate cs := by
  obtain ⟨year, y, month, m, day, d, rfl, hy, hm, hd, hday⟩ := h
  obtain ⟨hy, hs⟩ := hy.exact (endsNumber_cons _ rfl) hs
  obtain ⟨hm, hs⟩ := hm.exact (endsNumber_cons _ rfl) (List.cons.inj hs).2
  have hs : (day ++ []).map Char.isDigit = List.replicate 2 true ++ [] := by
    simpa using hs
  exact ⟨year, y, month, m, day, d, rfl, hy, hm, (hd.exact endsNumber_nil hs).1, hday⟩

/-- An hour, a minute and a second with colons between them, and what may follow. -/
def ClockText (Hour Field : List Char → Nat → Prop) (Tail : List Char → Prop)
    (cs : List Char) : Prop :=
  ∃ hour h minute m second s fraction tail,
    cs = hour ++ ':' :: (minute ++ ':' :: (second ++ (fraction ++ tail))) ∧
      Hour hour h ∧ Field minute m ∧ Field second s ∧ IsFraction fraction ∧ Tail tail ∧
        h < 24 ∧ m < 60 ∧ s ≤ 60

/-- A time as RFC 3339 has it, of which the offset may be missing. -/
def FullTime : List Char → Prop :=
  ClockText (Numeral 2 2) (Numeral 2 2) fun tail => tail = [] ∨ IsOffset ['+', '-'] tail

/-- An hour that leaves the third byte to the colon. -/
def LooseHour (hour : List Char) (n : Nat) : Prop := LooseField hour n ∧ String.utf8Len hour = 2

/-- A time without an offset as it is read: a field may have blanks before it and only one digit. -/
def LooseTime : List Char → Prop := ClockText LooseHour LooseField (· = [])

/-- A time with an offset as it is read: the minus sign of an offset may be that of U+2212. -/
def OffsetTime : List Char → Prop :=
  ClockText (Numeral 2 2) (Numeral 2 2) (IsOffset ['+', '-', '\u2212'])

theorem Numeral.looseHour {ds : List Char} {n : Nat} (h : Numeral 2 2 ds n) : LooseHour ds n :=
  ⟨h.looseField, h.utf8Len_eq⟩

theorem isClock_iff {h m s : Nat} : isClock h m s = true ↔ h < 24 ∧ m < 60 ∧ s ≤ 60 := by
  simp [isClock, and_assoc]

/-- Both readers of a time are this one, with their own reader of a field and of what follows. -/
def readClock? (field : List Char → Scanned Nat) (tail? : List Char → Option (List Char))
    (cs : List Char) : Option (List Char) := do
  let (hour, cs) ← field cs
  let cs ← scanChar? ':' cs
  let (minute, cs) ← field cs
  let cs ← scanChar? ':' cs
  let (second, cs) ← field cs
  let cs ← scanFraction? cs
  if isClock hour minute second then tail? cs else none

theorem lenientTime?_eq_readClock? : lenientTime? = readClock? scanField? some := rfl

theorem strictTime?_eq_readClock? : strictTime? = readClock? (scanExact? 2) scanOffset? := rfl

theorem readClock?_eq_some_nil_iff {field : List Char → Scanned Nat}
    {tail? : List Char → Option (List Char)} {Field : List Char → Nat → Prop}
    {Tail : List Char → Prop} (hfield : Scans field Field)
    (htail : ∀ cs, tail? cs = some [] ↔ Tail cs) (hends : ∀ cs, Tail cs → EndsFraction cs)
    {cs : List Char} :
    readClock? field tail? cs = some [] ↔ ClockText Field Field Tail cs := by
  constructor
  · intro h
    obtain ⟨⟨h', a⟩, hh, h⟩ := Option.bind_eq_some_iff.1 h
    obtain ⟨b, hb, h⟩ := Option.bind_eq_some_iff.1 h
    obtain ⟨⟨m, c⟩, hm, h⟩ := Option.bind_eq_some_iff.1 h
    obtain ⟨d, hd, h⟩ := Option.bind_eq_some_iff.1 h
    obtain ⟨⟨s, e⟩, hs, h⟩ := Option.bind_eq_some_iff.1 h
    obtain ⟨tail, hf, h⟩ := Option.bind_eq_some_iff.1 h
    obtain ⟨hclock, ht⟩ := Option.ite_none_right_eq_some.1 h
    obtain ⟨hour, rfl, hhour⟩ := hfield.sound hh
    obtain rfl := scanChar?_eq_some_iff.1 hb
    obtain ⟨minute, rfl, hminute⟩ := hfield.sound hm
    obtain rfl := scanChar?_eq_some_iff.1 hd
    obtain ⟨second, rfl, hsecond⟩ := hfield.sound hs
    obtain ⟨fraction, rfl, hfraction⟩ := scanFraction?_sound hf
    exact ⟨hour, h', minute, m, second, s, fraction, tail, rfl, hhour, hminute, hsecond,
      hfraction, (htail tail).1 ht, isClock_iff.1 hclock⟩
  · rintro ⟨hour, h, minute, m, second, s, fraction, tail, rfl, hhour, hminute, hsecond,
      hfraction, ht, hclock⟩
    have hh := hfield.complete hhour
      (endsNumber_cons (c := ':') (minute ++ ':' :: (second ++ (fraction ++ tail))) rfl)
    have hm := hfield.complete hminute
      (endsNumber_cons (c := ':') (second ++ (fraction ++ tail)) rfl)
    have hs := hfield.complete hsecond (hfraction.endsNumber (hends tail ht))
    have hf := scanFraction?_complete hfraction (hends tail ht)
    simp only [readClock?, hh, hm, hs, hf, scanChar?, if_true, isClock_iff.2 hclock,
      (htail tail).2 ht, Option.bind_eq_bind, Option.bind_some]

theorem lenientTime?_eq_some_nil_iff {cs : List Char} :
    lenientTime? cs = some [] ↔ ClockText LooseField LooseField (· = []) cs := by
  rw [lenientTime?_eq_readClock?]
  refine readClock?_eq_some_nil_iff scans_scanField? (by simp) ?_
  rintro _ rfl
  exact endsFraction_nil

theorem strictTime?_eq_some_nil_iff {cs : List Char} :
    strictTime? cs = some [] ↔ OffsetTime cs := by
  rw [strictTime?_eq_readClock?]
  exact readClock?_eq_some_nil_iff (scans_scanExact? 2) (fun _ => scanOffset?_eq_some_nil_iff)
    fun _ h => h.endsFraction (by simp)

theorem charAtByte?_append (n : Nat) (cs ds : List Char) (h : String.utf8Len cs ≤ n) :
    charAtByte? n (cs ++ ds) = charAtByte? (n - String.utf8Len cs) ds := by
  induction cs generalizing n with
  | nil => rfl
  | cons c more ih =>
      rw [String.utf8Len_cons] at h
      have hc := Char.utf8Size_pos c
      rw [List.cons_append, charAtByte?, if_neg (by omega), if_pos (by omega), ih _ (by omega),
        String.utf8Len_cons]
      congr 1
      omega

theorem mem_of_charAtByte? {n : Nat} {c : Char} {cs ds : List Char} (h : n < String.utf8Len cs)
    (hc : charAtByte? n (cs ++ ds) = some c) : c ∈ cs := by
  induction cs generalizing n with
  | nil => simp at h
  | cons d more ih =>
      rw [String.utf8Len_cons] at h
      rw [List.cons_append, charAtByte?] at hc
      split at hc
      · cases hc
        exact List.mem_cons_self ..
      · split at hc
        next hd => exact List.mem_cons_of_mem _ (ih (by omega) hc)
        next => cases hc

/-- No field has a colon in it, and the minute is not empty: an hour of one byte or of more than two
would put another character there. -/
theorem charAtByte?_hour_iff {hour minute rest : List Char} {h m : Nat} (hh : LooseField hour h)
    (hm : LooseField minute m) :
    charAtByte? 2 (hour ++ ':' :: (minute ++ rest)) = some ':' ↔ String.utf8Len hour = 2 := by
  constructor
  · intro hc
    have hle : String.utf8Len hour ≤ 2 := by
      by_contra hlt
      exact hh.colon_notMem (mem_of_charAtByte? (by omega) hc)
    have hpos := hh.utf8Len_pos
    by_contra hne
    have h1 : String.utf8Len hour = 1 := by omega
    rw [charAtByte?_append 2 hour _ hle, h1] at hc
    exact hm.colon_notMem (mem_of_charAtByte? hm.utf8Len_pos hc)
  · intro h2
    rw [charAtByte?_append 2 hour _ h2.le, h2]
    rfl

theorem isTime_iff {cs : List Char} : isTime cs = true ↔ LooseTime cs ∨ OffsetTime cs := by
  rw [isTime, Bool.and_eq_true, Bool.or_eq_true, decide_eq_true_eq, decide_eq_true_eq,
    decide_eq_true_eq, lenientTime?_eq_some_nil_iff, strictTime?_eq_some_nil_iff]
  constructor
  · rintro ⟨hc, hl | hs⟩
    · obtain ⟨hour, h, minute, m, second, s, fraction, tail, rfl, hh, hm, hrest⟩ := hl
      have hhour := (charAtByte?_hour_iff hh hm).1 hc
      exact .inl ⟨hour, h, minute, m, second, s, fraction, tail, rfl, ⟨hh, hhour⟩, hm, hrest⟩
    · exact .inr hs
  · rintro (hl | hs)
    · obtain ⟨hour, h, minute, m, second, s, fraction, tail, rfl, ⟨hh, hhour⟩, hm, hrest⟩ := hl
      refine ⟨(charAtByte?_hour_iff hh hm).2 hhour, .inl ?_⟩
      exact ⟨hour, h, minute, m, second, s, fraction, tail, rfl, hh, hm, hrest⟩
    · refine ⟨?_, .inr hs⟩
      obtain ⟨hour, h, minute, m, second, s, fraction, tail, rfl, hh, hm, hrest⟩ := hs
      exact (charAtByte?_hour_iff hh.looseField hm.looseField).2 hh.utf8Len_eq

def timeShape : List Bool :=
  List.replicate 2 true ++ false :: (List.replicate 2 true ++ false :: List.replicate 2 true)

theorem FullTime.shape {cs : List Char} (h : FullTime cs) :
    timeShape <+: cs.map Char.isDigit := by
  obtain ⟨hour, h, minute, m, second, s, fraction, tail, rfl, hh, hm, hs, -⟩ := h
  simp only [List.map_append, List.map_cons, hh.map_isDigit, hm.map_isDigit, hs.map_isDigit]
  exact ⟨fraction.map Char.isDigit ++ tail.map Char.isDigit, rfl⟩

theorem FullTime.isTime {cs : List Char} (h : FullTime cs) : isTime cs = true := by
  rw [isTime_iff]
  obtain ⟨hour, h, minute, m, second, s, fraction, tail, rfl, hh, hm, hs, hf, rfl | ho, hclock⟩ := h
  · exact .inl ⟨hour, h, minute, m, second, s, fraction, [], rfl, hh.looseHour, hm.looseField,
      hs.looseField, hf, rfl, hclock⟩
  · refine .inr ⟨hour, h, minute, m, second, s, fraction, tail, rfl, hh, hm, hs, hf, ?_, hclock⟩
    have hsub : ∀ sign ∈ ['+', '-'], sign ∈ ['+', '-', '\u2212'] := by simp
    exact ho.mono fun sign hsign _ => hsub sign hsign

theorem fullTime_of_loose {cs : List Char} (h : LooseTime cs)
    (hs : timeShape <+: cs.map Char.isDigit) : FullTime cs := by
  obtain ⟨hour, h, minute, m, second, s, fraction, tail, rfl, hh, hm, hsecond, hf, rfl, hclock⟩ := h
  obtain ⟨shape, hs⟩ := hs
  obtain ⟨hh, hs⟩ := hh.1.exact (endsNumber_cons _ rfl) hs.symm
  obtain ⟨hm, hs⟩ := hm.exact (endsNumber_cons _ rfl) (List.cons.inj hs).2
  obtain ⟨hsecond, -⟩ := hsecond.exact (hf.endsNumber endsFraction_nil) (List.cons.inj hs).2
  exact ⟨hour, h, minute, m, second, s, fraction, [], rfl, hh, hm, hsecond, hf, .inl rfl, hclock⟩

theorem fullTime_of_offset {cs : List Char} (h : OffsetTime cs) (hn : '\u2212' ∉ cs) :
    FullTime cs := by
  obtain ⟨hour, h, minute, m, second, s, fraction, tail, rfl, hh, hm, hs, hf, ho, hclock⟩ := h
  refine ⟨hour, h, minute, m, second, s, fraction, tail, rfl, hh, hm, hs, hf, .inr ?_, hclock⟩
  apply ho.mono
  intro sign hsign hmem
  have hne : sign ≠ '\u2212' := by
    rintro rfl
    exact hn (by simp [hmem])
  simpa [hne] using hsign

theorem FullTime.minus_notMem {cs : List Char} (h : FullTime cs) : '\u2212' ∉ cs := by
  have hdigit : ('\u2212' : Char).isDigit = false := by decide
  obtain ⟨hour, h, minute, m, second, s, fraction, tail, rfl, hh, hm, hs, hf, ht, -⟩ := h
  have hfraction : '\u2212' ∉ fraction := hf.notMem hdigit (by decide)
  have htail : '\u2212' ∉ tail := by
    rcases ht with rfl | ho
    · exact List.not_mem_nil
    · exact ho.notMem hdigit (by decide) (by decide)
  simp [hh.notMem hdigit, hm.notMem hdigit, hs.notMem hdigit, hfraction, htail]

theorem isMatch_date_iff {s : String} :
    Format.date.isMatch s = true ↔ s.utf8ByteSize = 10 ∧ LooseDate s.toList := by
  change isDate s = true ↔ _
  rw [isDate, Bool.and_eq_true, decide_eq_true_eq, decide_eq_true_eq,
    lenientDate?_eq_some_nil_iff]

/-- The dates that match are the loose ones of ten bytes. They are those of RFC 3339 if and only if
their digits stand where these have them. The times that match are the loose ones whose hour has two
bytes and the strict ones with an offset. They are those of RFC 3339 if and only if their digits
stand where these have them and the minus sign of U+2212 is not in them. -/
theorem isMatch_calendar (s : String) :
    (Format.date.isMatch s = true ↔ s.utf8ByteSize = 10 ∧ LooseDate s.toList) ∧
      (FullDate s.toList ↔
        Format.date.isMatch s = true ∧ s.toList.map Char.isDigit = dateShape) ∧
      (Format.time.isMatch s = true ↔ LooseTime s.toList ∨ OffsetTime s.toList) ∧
      (FullTime s.toList ↔
        Format.time.isMatch s = true ∧ timeShape <+: s.toList.map Char.isDigit ∧
          '\u2212' ∉ s.toList) := by
  refine ⟨isMatch_date_iff, ?_, isTime_iff, ?_⟩
  · rw [isMatch_date_iff]
    constructor
    · intro h
      exact ⟨⟨h.utf8ByteSize_eq, h.loose⟩, h.shape⟩
    · rintro ⟨⟨-, h⟩, hs⟩
      exact fullDate_of_loose h hs
  · constructor
    · intro h
      exact ⟨h.isTime, h.shape, h.minus_notMem⟩
    · rintro ⟨h, hs, hn⟩
      rcases isTime_iff.1 h with h | h
      · exact fullTime_of_loose h hs
      · exact fullTime_of_offset h hn

/-- A sign and a blank make up for digits that are missing. -/
theorem not_full_of_isMatch :
    Format.date.isMatch "+2024-1-01" = true ∧ ¬FullDate "+2024-1-01".toList ∧
      Format.time.isMatch " 8:15:00" = true ∧ ¬FullTime " 8:15:00".toList := by
  refine ⟨by decide, fun h => ?_, by decide, fun h => ?_⟩
  · exact absurd h.shape (by decide)
  · exact absurd h.shape (by decide)

end SchemaCheck.Format
