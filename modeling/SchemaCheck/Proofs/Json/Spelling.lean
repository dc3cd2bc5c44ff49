import Mathlib.Data.List.Forall2
import Mathlib.Logic.Relation
import SchemaCheck.Json.Token
import SchemaCheck.Json.Writer
import SchemaCheck.Proofs.Json.Members
import SchemaCheck.Proofs.Json.Numerals

namespace SchemaCheck.Json

/-- How a character may stand between quotes, surrogates left out. -/
inductive SpellsChar : Char → List Char → Prop
  | plain {c : Char} (h : 0x20 ≤ c.toNat) (hq : c ≠ '"') (hs : c ≠ '\\') : SpellsChar c [c]
  | escape {c e : Char} (h : Lexer.escaped? e = some c) : SpellsChar c ['\\', e]
  | code {c : Char} {ds : List Char} (hl : ds.length = 4) (hd : ds.all Text.isHexDigit = true)
      (h : Text.hexadecimal ds = c.toNat) : SpellsChar c ('\\' :: 'u' :: ds)

def SpellsString (s : String) (cs : List Char) : Prop :=
  ∃ texts, List.Forall₂ SpellsChar s.toList texts ∧ cs = '"' :: (texts.flatten ++ ['"'])

def Blank (cs : List Char) : Prop := ∀ c ∈ cs, Lexer.isBlank c = true

/-- A structural character, which may have blanks around it. -/
def Mark (c : Char) (cs : List Char) : Prop :=
  ∃ before after, Blank before ∧ Blank after ∧ cs = before ++ c :: after

inductive Separated {α : Type} (spells : α → List Char → Prop) : List α → List Char → Prop
  | nil : Separated spells [] []
  | single {x : α} {cs : List Char} (h : spells x cs) : Separated spells [x] cs
  | cons {x y : α} {rest : List α} {cs comma ds : List Char} (h : spells x cs)
      (hc : Mark ',' comma) (hr : Separated spells (y :: rest) ds) :
      Separated spells (x :: y :: rest) (cs ++ comma ++ ds)

section Grammar

variable (numeral : Number → List Char → Prop)

mutual

/-- The grammar of JSON, over the numerals that spell a number: the texts that spell a value. -/
inductive Spells : Json → List Char → Prop
  | null : Spells .null ['n', 'u', 'l', 'l']
  | true : Spells (.bool true) ['t', 'r', 'u', 'e']
  | false : Spells (.bool false) ['f', 'a', 'l', 's', 'e']
  | number {x : Number} {cs : List Char} (h : numeral x cs) : Spells (.number x) cs
  | string {s : String} {cs : List Char} (h : SpellsString s cs) : Spells (.string s) cs
  | array {items : List Json} {open_ cs close : List Char} (ho : Mark '[' open_)
      (h : Separated Spells items cs) (hc : Mark ']' close) :
      Spells (.array items) (open_ ++ cs ++ close)
  | object {members : Members} {open_ cs close : List Char} (ho : Mark '\x7b' open_)
      (h : Separated SpellsMember members cs) (hc : Mark '\x7d' close) :
      Spells (.object members) (open_ ++ cs ++ close)

inductive SpellsMember : String × Json → List Char → Prop
  | mk {key : String} {x : Json} {ks colon cs : List Char} (hk : SpellsString key ks)
      (hc : Mark ':' colon) (h : Spells x cs) : SpellsMember (key, x) (ks ++ colon ++ cs)

end

end Grammar

/-- The first value is the second, or stands in it at some depth. -/
def Inside : Json → Json → Prop := Relation.ReflTransGen Part

def EveryNumber (P : Number → Prop) (x : Json) : Prop := ∀ n, Inside (.number n) x → P n

theorem EveryNumber.part {P : Number → Prop} {x y : Json} (h : x.EveryNumber P) (hp : Part y x) :
    y.EveryNumber P :=
  fun n hn => h n (hn.tail hp)

theorem blank_nil : Blank [] := nofun

theorem mark_self (c : Char) : Mark c [c] := ⟨[], [], blank_nil, blank_nil, rfl⟩

theorem mark_before {c : Char} {cs : List Char} (h : Blank cs) : Mark c (c :: cs) :=
  ⟨[], cs, blank_nil, h, rfl⟩

theorem mark_after {c : Char} {cs : List Char} (h : Blank cs) : Mark c (cs ++ [c]) :=
  ⟨cs, [], h, blank_nil, rfl⟩

theorem separated_intercalate {α : Type} {spells : α → List Char → Prop} {entries : List α}
    {texts : List (List Char)} {comma : List Char} (hc : Mark ',' comma)
    (h : List.Forall₂ spells entries texts) :
    Separated spells entries (comma.intercalate texts) := by
  induction h with
  | nil => exact .nil
  | cons hx hrest ih =>
      cases hrest with
      | nil => exact .single (by simpa using hx)
      | cons hy hrest =>
          rw [List.intercalate_cons_cons]
          exact .cons hx hc ih

theorem spellsChar_escapedChar (c : Char) : SpellsChar c (escapedChar c).toList := by
  have hshort : ∀ n < 0x10, ('0' :: '0' :: '0' :: Nat.toDigits 16 n).length = 4 ∧
      ('0' :: '0' :: '0' :: Nat.toDigits 16 n).all Text.isHexDigit = true ∧
      Text.hexadecimal ('0' :: '0' :: '0' :: Nat.toDigits 16 n) = n := by decide
  have hlong : ∀ n < 0x20, 0x10 ≤ n → ('0' :: '0' :: Nat.toDigits 16 n).length = 4 ∧
      ('0' :: '0' :: Nat.toDigits 16 n).all Text.isHexDigit = true ∧
      Text.hexadecimal ('0' :: '0' :: Nat.toDigits 16 n) = n := by decide
  unfold escapedChar
  split
  next => exact .escape rfl
  next => exact .escape rfl
  next => exact .escape rfl
  next => exact .escape rfl
  next => exact .escape rfl
  next => exact .escape rfl
  next => exact .escape rfl
  next hq hs _ _ _ _ _ =>
    split
    next h =>
      obtain ⟨hl, hd, hv⟩ := hshort _ h
      rw [String.toList_append, hexDigits, String.toList_ofList, String.toList_ofList]
      exact .code hl hd hv
    next h =>
      split
      next hlt =>
        obtain ⟨hl, hd, hv⟩ := hlong _ hlt (Nat.not_lt.1 h)
        rw [String.toList_append, hexDigits, String.toList_ofList, String.toList_ofList]
        exact .code hl hd hv
      next hge =>
        rw [Char.toString_eq_singleton, String.toList_singleton]
        exact .plain (Nat.not_lt.1 hge) hq hs

theorem spellsString_quoted (s : String) : SpellsString s (quoted s).toList := by
  refine ⟨s.toList.map fun c => (escapedChar c).toList, ?_, ?_⟩
  · rw [List.forall₂_map_right_iff]
    exact List.forall₂_same.2 fun c _ => spellsChar_escapedChar c
  · simp [quoted, List.flatMap, Function.comp_def]

theorem toList_braced (open_ close : String) (entries : List String) :
    (braced open_ close entries).toList =
      open_.toList ++ [','].intercalate (entries.map String.toList) ++ close.toList := by
  simp [braced]

section Writer

variable {numeral : Number → List Char → Prop}

/-- The numerals of the value spell its numbers. -/
def SpellsNumbers (numeral : Number → List Char → Prop) (x : Json) : Prop :=
  x.EveryNumber fun n => numeral n n.text.toList

mutual

theorem spells_compact : ∀ x : Json, SpellsNumbers numeral x → Spells numeral x x.compact.toList
  | .null, _ => .null
  | .bool true, _ => .true
  | .bool false, _ => .false
  | .number x, h => .number (h x .refl)
  | .string s, _ => .string (spellsString_quoted s)
  | .array items, h => by
    rw [compact, toList_braced]
    exact .array (mark_self _) (separated_intercalate (mark_self _)
      (spells_compactItems items fun _ hx => h.part (.item hx))) (mark_self _)
  | .object members, h => by
    rw [compact, toList_braced]
    exact .object (mark_self _) (separated_intercalate (mark_self _)
      (spells_compactMembers members fun _ hm => h.part (.member hm))) (mark_self _)

theorem spells_compactItems : ∀ items : List Json, (∀ x ∈ items, SpellsNumbers numeral x) →
    List.Forall₂ (Spells numeral) items ((compactItems items).map String.toList)
  | [], _ => .nil
  | x :: rest, h =>
    have ⟨hx, hrest⟩ := List.forall_mem_cons.1 h
    .cons (spells_compact x hx) (spells_compactItems rest hrest)

theorem spells_compactMembers : ∀ members : Members,
    (∀ m ∈ members, SpellsNumbers numeral m.2) →
    List.Forall₂ (SpellsMember numeral) members ((compactMembers members).map String.toList)
  | [], _ => .nil
  | (key, x) :: rest, h => by
    obtain ⟨hx, hrest⟩ := List.forall_mem_cons.1 h
    refine .cons ?_ (spells_compactMembers rest hrest)
    rw [String.toList_append, String.toList_append]
    exact .mk (spellsString_quoted key) (mark_self _) (spells_compact x hx)

end

theorem blank_indent (level : Nat) : Blank (indent level).toList := by
  have htext : (indent level).toList = '\n' :: List.replicate (2 * level) ' ' := by simp [indent]
  intro c hc
  rw [htext] at hc
  rcases List.mem_cons.1 hc with rfl | hc
  · rfl
  · rw [List.eq_of_mem_replicate hc]
    rfl

theorem intercalate_map_append (sep before text : List Char) (texts : List (List Char)) :
    sep.intercalate ((text :: texts).map (before ++ ·)) =
      before ++ (sep ++ before).intercalate (text :: texts) := by
  induction texts generalizing text with
  | nil => simp
  | cons next rest ih =>
      rw [List.map_cons, List.map_cons, List.intercalate_cons_cons, ← List.map_cons, ih,
        List.intercalate_cons_cons]
      simp only [List.append_assoc]

theorem toList_spread (level : Nat) (open_ close : String) {entries : List String}
    (h : entries ≠ []) : (spread level open_ close entries).toList =
      (open_.toList ++ (indent (level + 1)).toList) ++
        (',' :: (indent (level + 1)).toList).intercalate (entries.map String.toList) ++
          ((indent level).toList ++ close.toList) := by
  obtain ⟨text, texts, rfl⟩ := List.exists_cons_of_ne_nil h
  have hmap : ((text :: texts).map (indent (level + 1) ++ ·)).map String.toList =
      (text.toList :: texts.map String.toList).map ((indent (level + 1)).toList ++ ·) := by
    simp
  rw [spread, if_neg (by simp)]
  simp only [String.toList_append, String.toList_intercalate, hmap, intercalate_map_append]
  simp [List.append_assoc]

section Spread

variable {α : Type} {spells : α → List Char → Prop} {entries : List α} {texts : List String}

theorem exists_separated_spread (level : Nat) (open_ close : String) {opening closing : Char}
    (ho : open_.toList = [opening]) (hc : close.toList = [closing])
    (h : List.Forall₂ spells entries (texts.map String.toList)) :
    ∃ before cs after, Mark opening before ∧ Separated spells entries cs ∧ Mark closing after ∧
      (spread level open_ close texts).toList = before ++ cs ++ after := by
  by_cases hempty : texts = []
  · subst hempty
    cases h
    refine ⟨[opening], [], [closing], mark_self _, .nil, mark_self _, ?_⟩
    simp [spread, ho, hc]
  · refine ⟨_, _, _, mark_before (blank_indent (level + 1)),
      separated_intercalate (mark_before (blank_indent (level + 1))) h,
      mark_after (blank_indent level), ?_⟩
    rw [toList_spread level open_ close hempty, ho, hc]
    rfl

end Spread

mutual

theorem spells_prettyAt (level : Nat) : ∀ x : Json, SpellsNumbers numeral x →
    Spells numeral x (x.prettyAt level).toList
  | .null, _ => by
    rw [prettyAt]
    exact .null
  | .bool true, _ => by
    rw [prettyAt]
    exact .true
  | .bool false, _ => by
    rw [prettyAt]
    exact .false
  | .number x, h => by
    rw [prettyAt]
    exact .number (h x .refl)
  | .string s, _ => by
    rw [prettyAt]
    exact .string (spellsString_quoted s)
  | .array items, h => by
    obtain ⟨_, _, _, ho, hs, hc, htext⟩ := exists_separated_spread level "[" "]" rfl rfl
      (spells_prettyItems (level + 1) items fun _ hx => h.part (.item hx))
    rw [prettyAt, htext]
    exact .array ho hs hc
  | .object members, h => by
    obtain ⟨_, _, _, ho, hs, hc, htext⟩ := exists_separated_spread level "\x7b" "\x7d" rfl rfl
      (spells_prettyMembers (level + 1) members fun _ hm => h.part (.member hm))
    rw [prettyAt, htext]
    exact .object ho hs hc

theorem spells_prettyItems (level : Nat) : ∀ items : List Json,
    (∀ x ∈ items, SpellsNumbers numeral x) →
    List.Forall₂ (Spells numeral) items ((prettyItems level items).map String.toList)
  | [], _ => .nil
  | x :: rest, h =>
    have ⟨hx, hrest⟩ := List.forall_mem_cons.1 h
    .cons (spells_prettyAt level x hx) (spells_prettyItems level rest hrest)

theorem spells_prettyMembers (level : Nat) : ∀ members : Members,
    (∀ m ∈ members, SpellsNumbers numeral m.2) →
    List.Forall₂ (SpellsMember numeral) members ((prettyMembers level members).map String.toList)
  | [], _ => .nil
  | (key, x) :: rest, h => by
    have hblank : Blank [' '] := by
      intro c hc
      rw [List.mem_singleton.1 hc]
      rfl
    obtain ⟨hx, hrest⟩ := List.forall_mem_cons.1 h
    refine .cons ?_ (spells_prettyMembers level rest hrest)
    rw [String.toList_append, String.toList_append]
    exact .mk (spellsString_quoted key) (mark_before hblank) (spells_prettyAt level x hx)

end

end Writer

end SchemaCheck.Json
