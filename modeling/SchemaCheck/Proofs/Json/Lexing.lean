import SchemaCheck.Proofs.Json.Spelling

namespace SchemaCheck.Json

mutual

def tokens : Json → List Token
  | .string s => [.text s]
  | .array items => .openArray :: ([Token.comma].intercalate (itemTokens items) ++ [.closeArray])
  | .object members =>
    .openObject :: ([Token.comma].intercalate (memberTokens members) ++ [.closeObject])
  | .null => [.scalar .null]
  | .bool b => [.scalar (.bool b)]
  | .number x => [.scalar (.number x)]

def itemTokens : List Json → List (List Token)
  | [] => []
  | x :: rest => x.tokens :: itemTokens rest

def memberTokens : Members → List (List Token)
  | [] => []
  | (key, x) :: rest => (.text key :: .colon :: x.tokens) :: memberTokens rest

end

theorem itemTokens_eq (items : List Json) : itemTokens items = items.map tokens := by
  induction items with
  | nil => rfl
  | cons x rest ih => rw [itemTokens, ih, List.map_cons]

theorem memberTokens_eq (members : Members) :
    memberTokens members = members.map fun m => .text m.1 :: .colon :: m.2.tokens := by
  induction members with
  | nil => rfl
  | cons m rest ih =>
      obtain ⟨key, x⟩ := m
      rw [memberTokens, ih, List.map_cons]

/-- The numeral is read as the number. -/
def Number.ReadFrom (x : Number) (cs : List Char) : Prop :=
  (Numeral.read? cs).bind Numeral.number? = some x

instance (x : Number) (cs : List Char) : Decidable (x.ReadFrom cs) :=
  inferInstanceAs (Decidable ((Numeral.read? cs).bind Numeral.number? = some x))

namespace Lexer

/-- A word is only known to be over at the character after it, so the last token may be pending. -/
def Lexes (cs : List Char) (ts : List Token) : Prop :=
  ∀ acc, ∃ l, cs.foldlM step? ⟨acc, .between⟩ = some l ∧
    l.flush? = some ⟨ts.reverse ++ acc, .between⟩

def Marks (c : Char) (t : Token) : Prop :=
  isWordChar c = false ∧ ∀ acc, between? ⟨acc, .between⟩ c = some ⟨t :: acc, .between⟩

variable {l : Lexer} {acc : List Token} {cs ds : List Char} {ts us : List Token} {c : Char}
  {t : Token}

theorem step?_word {letters : List Char} (hc : isWordChar c = true) :
    step? ⟨acc, .word letters⟩ c = some ⟨acc, .word (c :: letters)⟩ :=
  if_pos hc

theorem step?_of_flush? (hl : l.flush? = some ⟨acc, .between⟩) (hc : isWordChar c = false) :
    step? l c = between? ⟨acc, .between⟩ c := by
  obtain ⟨tokens, mode⟩ := l
  cases mode with
  | between =>
      cases hl
      rfl
  | word letters =>
      refine (if_neg (by simp [hc])).trans ?_
      rw [hl, Option.bind_some]
  | quoted letters q => cases hl

theorem isWordChar_of_isBlank (h : isBlank c = true) : isWordChar c = false := by
  simp only [isBlank, Bool.or_eq_true, decide_eq_true_eq] at h
  rcases h with ((rfl | rfl) | rfl) | rfl <;> rfl

theorem step?_blank (h : isBlank c = true) (hl : l.flush? = some ⟨acc, .between⟩) :
    step? l c = some ⟨acc, .between⟩ := by
  have hw := isWordChar_of_isBlank h
  rw [step?_of_flush? hl hw]
  exact (if_neg (by simp [hw])).trans (if_pos h)

theorem foldlM_blank (h : Blank cs) : cs.foldlM step? ⟨acc, .between⟩ = some ⟨acc, .between⟩ := by
  induction cs with
  | nil => rfl
  | cons c rest ih =>
      obtain ⟨hc, hrest⟩ := List.forall_mem_cons.1 h
      rw [foldlM_cons_of_eq (step?_blank hc rfl)]
      exact ih hrest

theorem foldlM_mark (ht : Marks c t) (hm : Mark c cs) (hl : l.flush? = some ⟨acc, .between⟩) :
    cs.foldlM step? l = some ⟨t :: acc, .between⟩ := by
  have hc : ∀ {k : Lexer}, k.flush? = some ⟨acc, .between⟩ →
      step? k c = some ⟨t :: acc, .between⟩ := by
    intro k hk
    rw [step?_of_flush? hk ht.1, ht.2]
  obtain ⟨before, after, hbefore, hafter, rfl⟩ := hm
  cases before with
  | nil =>
      rw [List.nil_append, foldlM_cons_of_eq (hc hl)]
      exact foldlM_blank hafter
  | cons b rest =>
      obtain ⟨hb, hrest⟩ := List.forall_mem_cons.1 hbefore
      rw [List.cons_append, foldlM_cons_of_eq (step?_blank hb hl),
        foldlM_append_of_eq (foldlM_blank hrest), foldlM_cons_of_eq (hc rfl)]
      exact foldlM_blank hafter

theorem lexes_nil : Lexes [] [] := fun _ => ⟨_, rfl, rfl⟩

theorem Lexes.append_mark {es : List Char} (h : Lexes cs ts) (ht : Marks c t) (hm : Mark c ds)
    (hr : Lexes es us) : Lexes (cs ++ ds ++ es) (ts ++ t :: us) := by
  intro acc
  obtain ⟨l, hl, hflush⟩ := h acc
  obtain ⟨k, hk, hlast⟩ := hr (t :: (ts.reverse ++ acc))
  refine ⟨k, ?_, ?_⟩
  · rw [List.append_assoc, foldlM_append_of_eq hl, foldlM_append_of_eq (foldlM_mark ht hm hflush)]
    exact hk
  · rw [hlast]
    simp

theorem Lexes.mark (h : Lexes cs ts) (ht : Marks c t) (hm : Mark c ds) :
    Lexes (cs ++ ds) (ts ++ [t]) := by
  simpa using h.append_mark ht hm lexes_nil

theorem Lexes.mark_append (h : Lexes ds us) (ht : Marks c t) (hm : Mark c cs) :
    Lexes (cs ++ ds) (t :: us) := by
  simpa using lexes_nil.append_mark ht hm h

theorem Lexes.append_blank (h : Lexes cs ts) (hb : Blank ds) : Lexes (cs ++ ds) ts := by
  cases ds with
  | nil =>
      rw [List.append_nil]
      exact h
  | cons c rest =>
      obtain ⟨hc, hrest⟩ := List.forall_mem_cons.1 hb
      intro acc
      obtain ⟨l, hl, hflush⟩ := h acc
      refine ⟨⟨ts.reverse ++ acc, .between⟩, ?_, rfl⟩
      rw [foldlM_append_of_eq hl, foldlM_cons_of_eq (step?_blank hc hflush)]
      exact foldlM_blank hrest

theorem lexes_separated {α : Type} {spells : α → List Char → Prop} {tokensOf : α → List Token}
    {entries : List α} (hs : ∀ x ∈ entries, ∀ cs, spells x cs → Lexes cs (tokensOf x))
    (h : Separated spells entries cs) :
    Lexes cs ([Token.comma].intercalate (entries.map tokensOf)) := by
  induction h with
  | nil => exact lexes_nil
  | single h =>
      rw [List.map_singleton, List.intercalate_singleton]
      exact hs _ (List.mem_singleton_self _) _ h
  | cons h hc _ ih =>
      obtain ⟨hx, hrest⟩ := List.forall_mem_cons.1 hs
      have hmore := (hx _ h).append_mark ⟨rfl, fun _ => rfl⟩ hc (ih hrest)
      rw [List.map_cons, List.map_cons, List.intercalate_cons_cons,
        List.append_assoc _ [Token.comma], List.singleton_append]
      exact hmore

def Wordlike (cs : List Char) : Prop := ∀ c ∈ cs, isWordChar c = true

theorem foldlM_word (h : Wordlike cs) (letters : List Char) :
    cs.foldlM step? ⟨acc, .word letters⟩ = some ⟨acc, .word (cs.reverse ++ letters)⟩ := by
  induction cs generalizing letters with
  | nil => rfl
  | cons c rest ih =>
      obtain ⟨hc, hrest⟩ := List.forall_mem_cons.1 h
      rw [foldlM_cons_of_eq (step?_word hc), List.reverse_cons, List.append_assoc]
      exact ih hrest _

theorem lexes_word (hc : Wordlike cs) (hne : cs ≠ []) (ht : word? cs = some t) :
    Lexes cs [t] := by
  intro acc
  obtain ⟨c, rest, rfl⟩ := List.exists_cons_of_ne_nil hne
  obtain ⟨hfirst, hrest⟩ := List.forall_mem_cons.1 hc
  refine ⟨⟨acc, .word (rest.reverse ++ [c])⟩, ?_, ?_⟩
  · have hstart : step? ⟨acc, .between⟩ c = some ⟨acc, .word [c]⟩ := if_pos hfirst
    rw [foldlM_cons_of_eq hstart]
    exact foldlM_word hrest _
  · have hword : word? (rest.reverse ++ [c]).reverse = some t := by
      rw [List.reverse_append, List.reverse_reverse]
      exact ht
    exact congrArg (Option.map fun t => Lexer.mk (t :: acc) .between) hword

theorem codeUnit?_toNat (letters : List Char) (c : Char) :
    codeUnit? letters c.toNat none = some (.quoted (c :: letters) .plain) := by
  have hvalid : c.toNat < 0xD800 ∨ 0xDFFF < c.toNat ∧ c.toNat < 0x110000 := c.valid
  have hhigh : isHigh c.toNat = false := by
    simp only [isHigh, Bool.and_eq_false_iff, decide_eq_false_iff_not]
    omega
  have hlow : isLow c.toNat = false := by
    simp only [isLow, Bool.and_eq_false_iff, decide_eq_false_iff_not]
    omega
  rw [codeUnit?, hhigh, hlow, Char.ofNat_toNat, if_neg Bool.false_ne_true,
    if_neg Bool.false_ne_true]

theorem quoteStep?_hex {letters : List Char} {missing value : Nat}
    (h : Text.isHexDigit c = true) :
    quoteStep? letters c (.hex (missing + 1) value none) =
      some (.quoted letters (.hex missing (value * 16 + Text.digitValue c) none)) := by
  obtain ⟨d, hd⟩ := Option.isSome_iff_exists.1 h
  rw [quoteStep?, Text.digitValue, hd]
  rfl

theorem quoteStep?_lastHex {letters : List Char} {value : Nat} (h : Text.isHexDigit c = true) :
    quoteStep? letters c (.hex 0 value none) =
      codeUnit? letters (value * 16 + Text.digitValue c) none := by
  obtain ⟨d, hd⟩ := Option.isSome_iff_exists.1 h
  rw [quoteStep?, Text.digitValue, hd]
  rfl

theorem foldlM_char {letters : List Char} (h : SpellsChar c cs) :
    cs.foldlM step? ⟨acc, .quoted letters .plain⟩ =
      some ⟨acc, .quoted (c :: letters) .plain⟩ := by
  cases h with
  | plain h hq hs => simp [step?, quoteStep?, hq, hs, Nat.not_lt.2 h]
  | @escape e h =>
      have hu : e ≠ 'u' := by
        rintro rfl
        cases h
      simp [step?, quoteStep?, hu, h]
  | @code ds hl hd h =>
      obtain ⟨a, b, d, e, rfl⟩ := List.length_eq_four.1 hl
      simp only [List.all_cons, List.all_nil, Bool.and_true, Bool.and_eq_true] at hd
      obtain ⟨ha, hb, hd, he⟩ := hd
      have hvalue : (((0 * 16 + Text.digitValue a) * 16 + Text.digitValue b) * 16 +
          Text.digitValue d) * 16 + Text.digitValue e = c.toNat := h
      have hhex : ∀ (f : Char) (missing value : Nat),
          step? ⟨acc, .quoted letters (.hex missing value none)⟩ f =
            (quoteStep? letters f (.hex missing value none)).map fun m => ⟨acc, m⟩ :=
        fun _ _ _ => rfl
      change [a, b, d, e].foldlM step? ⟨acc, .quoted letters (.hex 3 0 none)⟩ = _
      simp only [List.foldlM_cons, List.foldlM_nil, hhex, quoteStep?_hex ha, quoteStep?_hex hb,
        quoteStep?_hex hd, quoteStep?_lastHex he, hvalue, codeUnit?_toNat, Option.map_some,
        Option.bind_eq_bind, Option.bind_some, Option.pure_def]

theorem foldlM_chars {chars letters : List Char} {texts : List (List Char)}
    (h : List.Forall₂ SpellsChar chars texts) :
    texts.flatten.foldlM step? ⟨acc, .quoted letters .plain⟩ =
      some ⟨acc, .quoted (chars.reverse ++ letters) .plain⟩ := by
  induction h generalizing letters with
  | nil => rfl
  | cons hc _ ih =>
      rw [List.flatten_cons, foldlM_append_of_eq (foldlM_char hc), List.reverse_cons,
        List.append_assoc]
      exact ih

theorem lexes_string {s : String} (h : SpellsString s cs) : Lexes cs [.text s] := by
  intro acc
  obtain ⟨texts, htexts, rfl⟩ := h
  refine ⟨⟨.text s :: acc, .between⟩, ?_, rfl⟩
  have hstart : step? ⟨acc, .between⟩ '"' = some ⟨acc, .quoted [] .plain⟩ := rfl
  have hend : step? ⟨acc, .quoted (s.toList.reverse ++ []) .plain⟩ '"' =
      some ⟨.text s :: acc, .between⟩ := by
    simp [step?]
  rw [foldlM_cons_of_eq hstart, foldlM_append_of_eq (foldlM_chars htexts), foldlM_cons_of_eq hend]
  rfl

theorem wordlike_digits (h : ∀ c ∈ cs, c.isDigit = true) : Wordlike cs := by
  intro c hc
  simp [isWordChar, Char.isAlphanum, h c hc]

theorem wordlike_readExponent? {e : Int} (h : Numeral.readExponent? cs = some e) :
    Wordlike cs := by
  have hdigits : ∀ {ds : List Char} {i : Int},
      (if ds ≠ [] ∧ ds.all Char.isDigit then some i else none) = some e → Wordlike ds := by
    intro ds i h
    split at h
    next hds => exact wordlike_digits (List.all_eq_true.1 hds.2)
    next => cases h
  unfold Numeral.readExponent? at h
  split at h
  next ds => exact List.forall_mem_cons.2 ⟨rfl, hdigits h⟩
  next ds => exact List.forall_mem_cons.2 ⟨rfl, hdigits h⟩
  next => exact hdigits h

theorem wordlike_readTail? {negative : Bool} {whole : List Char} {fraction : Option (List Char)}
    {n : Numeral} (h : Numeral.readTail? negative whole fraction cs = some n) : Wordlike cs := by
  unfold Numeral.readTail? at h
  split at h
  next => exact fun _ hc => absurd hc List.not_mem_nil
  next c rest =>
    split at h
    next hc =>
      obtain ⟨e, he, -⟩ := Option.map_eq_some_iff.1 h
      refine List.forall_mem_cons.2 ⟨?_, wordlike_readExponent? he⟩
      rcases hc with rfl | rfl <;> rfl
    next => cases h

theorem wordlike_span (h : Wordlike (cs.dropWhile Char.isDigit)) : Wordlike cs := by
  have hdigits : Wordlike (cs.takeWhile Char.isDigit) :=
    wordlike_digits (List.all_eq_true.1 List.all_takeWhile)
  rw [← List.takeWhile_append_dropWhile (p := Char.isDigit) (l := cs)]
  exact List.forall_mem_append.2 ⟨hdigits, h⟩

theorem wordlike_readUnsigned? {negative : Bool} {n : Numeral}
    (h : Numeral.readUnsigned? negative cs = some n) : Wordlike cs ∧ cs ≠ [] := by
  unfold Numeral.readUnsigned? at h
  dsimp only at h
  split at h
  next => cases h
  next hw =>
    refine ⟨wordlike_span ?_, ?_⟩
    · split at h
      next rest hrest =>
        split at h
        next => cases h
        next =>
          rw [hrest]
          exact List.forall_mem_cons.2 ⟨rfl, wordlike_span (wordlike_readTail? h)⟩
      next => exact wordlike_readTail? h
    · rintro rfl
      exact hw (.inl rfl)

theorem wordlike_read? {n : Numeral} (h : Numeral.read? cs = some n) : Wordlike cs ∧ cs ≠ [] := by
  unfold Numeral.read? at h
  split at h
  next rest => exact ⟨List.forall_mem_cons.2 ⟨rfl, (wordlike_readUnsigned? h).1⟩, nofun⟩
  next => exact wordlike_readUnsigned? h

theorem lexes_number {x : Number} (h : x.ReadFrom cs) : Lexes cs [.scalar (.number x)] := by
  obtain ⟨n, hn, hx⟩ := Option.bind_eq_some_iff.1 h
  obtain ⟨hword, hne⟩ := wordlike_read? hn
  refine lexes_word hword hne ?_
  unfold word?
  split
  case h_1 | h_2 | h_3 => cases hn
  case h_4 => rw [hn, Option.bind_some, hx, Option.map_some]

end Lexer

theorem tokens?_of_lexes {cs : List Char} {ts : List Token} (h : Lexer.Lexes cs ts) :
    tokens? cs = some ts := by
  obtain ⟨l, hl, hflush⟩ := h []
  rw [tokens?, Lexer.start, hl, Option.bind_some, hflush, Option.map_some, List.append_nil,
    List.reverse_reverse]

theorem lexes_of_spells {x : Json} {cs : List Char} (h : Spells Number.ReadFrom x cs) :
    Lexer.Lexes cs x.tokens := by
  induction hn : sizeOf x using Nat.strongRecOn generalizing x cs with
  | ind n ih =>
      subst hn
      have hpart : ∀ {y ds}, Part y x → Spells Number.ReadFrom y ds → Lexer.Lexes ds y.tokens :=
        fun hp hy => ih _ hp.sizeOf_lt hy rfl
      cases h with
      | null | true | false =>
          exact Lexer.lexes_word (List.all_eq_true.1 rfl) (List.cons_ne_nil _ _) rfl
      | number h => exact Lexer.lexes_number h
      | string h => exact Lexer.lexes_string h
      | array ho h hc =>
          have hitems := Lexer.lexes_separated
            (fun y hy ds (hs : Spells Number.ReadFrom y ds) => hpart (.item hy) hs) h
          have hclose := hitems.mark ⟨rfl, fun _ => rfl⟩ hc
          rw [tokens, itemTokens_eq, List.append_assoc]
          exact hclose.mark_append ⟨rfl, fun _ => rfl⟩ ho
      | @object members _ _ _ ho h hc =>
          have hmember : ∀ m ∈ members, ∀ ds, SpellsMember Number.ReadFrom m ds →
              Lexer.Lexes ds (.text m.1 :: .colon :: m.2.tokens) := by
            rintro _ hm _ ⟨hk, hcolon, hx⟩
            exact (Lexer.lexes_string hk).append_mark ⟨rfl, fun _ => rfl⟩ hcolon
              (hpart (.member hm) hx)
          have hclose := (Lexer.lexes_separated hmember h).mark ⟨rfl, fun _ => rfl⟩ hc
          rw [tokens, memberTokens_eq, List.append_assoc]
          exact hclose.mark_append ⟨rfl, fun _ => rfl⟩ ho

end SchemaCheck.Json
