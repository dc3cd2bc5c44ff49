import SchemaCheck.Json.Reader
import SchemaCheck.Proofs.Json.Lexing
import SchemaCheck.Proofs.Json.Nesting
import SchemaCheck.Proofs.Json.Order

namespace SchemaCheck.Json

namespace Reader

/-- Wherever a value may start, the tokens complete this one, unless it is nested too deep. -/
def Completes (ts : List Token) (x : Json) : Prop :=
  ∀ stack : List Frame, stack.length + x.height < deepestNesting →
    ∃ t rest r, ts = t :: rest ∧ startValue? stack t = some r ∧
      rest.foldlM step? r = some (complete x stack)

namespace Completes

variable {ts : List Token} {x : Json}

theorem value (h : Completes ts x) (stack : List Frame)
    (hs : stack.length + x.height < deepestNesting) (more : List Token) :
    (ts ++ more).foldlM step? (.value stack) = more.foldlM step? (complete x stack) := by
  obtain ⟨t, rest, r, rfl, ht, hrest⟩ := h stack hs
  have hstart : step? (.value stack) t = some r := ht
  rw [List.cons_append, foldlM_cons_of_eq hstart, foldlM_append_of_eq hrest]

theorem firstItem (h : Completes ts x) (stack : List Frame)
    (hs : stack.length + 1 + x.height < deepestNesting) (more : List Token) :
    (ts ++ more).foldlM step? (.firstItem stack) =
      (ts ++ more).foldlM step? (.value (.array [] :: stack)) := by
  obtain ⟨t, rest, r, rfl, ht, -⟩ := h (.array [] :: stack) hs
  have hstart : step? (.firstItem stack) t = step? (.value (.array [] :: stack)) t := by
    cases t with
    | closeArray => cases ht
    | openArray | openObject | closeObject | comma | colon | scalar x | text s => rfl
  rw [List.cons_append, List.foldlM_cons, List.foldlM_cons, hstart]

end Completes

section

variable {stack : List Frame}

theorem foldlM_items (before : List Json) {items : List Json} (hne : items ≠ [])
    (h : ∀ x ∈ items, Completes x.tokens x)
    (hs : ∀ x ∈ items, stack.length + 1 + x.height < deepestNesting) (more : List Token) :
    ([Token.comma].intercalate (items.map tokens) ++ more).foldlM step?
        (.value (.array before :: stack)) =
      more.foldlM step? (.afterItem (items.reverse ++ before) stack) := by
  induction items generalizing before with
  | nil => exact absurd rfl hne
  | cons x rest ih =>
      obtain ⟨hx, hrest⟩ := List.forall_mem_cons.1 h
      obtain ⟨hsx, hsrest⟩ := List.forall_mem_cons.1 hs
      cases rest with
      | nil =>
          rw [List.map_singleton, List.intercalate_singleton, hx.value (.array before :: stack) hsx]
          rfl
      | cons y rest =>
          rw [List.map_cons, List.map_cons, List.intercalate_cons_cons, List.append_assoc,
            List.append_assoc, hx.value (.array before :: stack) hsx, List.reverse_cons,
            List.append_assoc]
          exact ih _ (List.cons_ne_nil _ _) hrest hsrest

theorem exists_intercalate_cons {α : Type} (sep first : List α) (rest : List (List α)) :
    ∃ more, sep.intercalate (first :: rest) = first ++ more := by
  cases rest with
  | nil => exact ⟨[], by rw [List.intercalate_singleton, List.append_nil]⟩
  | cons next rest => exact ⟨_, by rw [List.intercalate_cons_cons, List.append_assoc]⟩

theorem foldlM_firstItem {items : List Json} (hne : items ≠ [])
    (h : ∀ x ∈ items, Completes x.tokens x)
    (hs : ∀ x ∈ items, stack.length + 1 + x.height < deepestNesting) (more : List Token) :
    ([Token.comma].intercalate (items.map tokens) ++ more).foldlM step? (.firstItem stack) =
      more.foldlM step? (.afterItem items.reverse stack) := by
  obtain ⟨x, rest, rfl⟩ := List.exists_cons_of_ne_nil hne
  obtain ⟨later, hlater⟩ := exists_intercalate_cons [Token.comma] x.tokens (rest.map tokens)
  have hfirst := (h x (List.mem_cons_self ..)).firstItem stack (hs x (List.mem_cons_self ..))
  have hread := foldlM_items [] hne h hs more
  rw [List.map_cons, hlater, List.append_assoc] at hread ⊢
  rw [hfirst, hread, List.append_nil]

theorem completes_array {items : List Json} (h : ∀ x ∈ items, Completes x.tokens x) :
    Completes (Json.array items).tokens (.array items) := by
  intro stack hs
  have hitems : ∀ x ∈ items, stack.length + 1 + x.height < deepestNesting := by
    intro x hx
    have := (Part.item hx).height_lt
    omega
  refine ⟨.openArray, _, .firstItem stack, rfl, if_pos (by omega), ?_⟩
  rw [itemTokens_eq]
  by_cases hne : items = []
  · subst hne
    rfl
  · rw [foldlM_firstItem hne h hitems]
    change some (complete (.array items.reverse.reverse) stack) = _
    rw [List.reverse_reverse]

theorem foldlM_members (before : Members) {members : Members} (hne : members ≠ [])
    (hsorted : Sorted (before ++ members)) (h : ∀ m ∈ members, Completes m.2.tokens m.2)
    (hs : ∀ m ∈ members, stack.length + 1 + m.2.height < deepestNesting) (more : List Token) :
    ([Token.comma].intercalate (members.map fun m => .text m.1 :: .colon :: m.2.tokens) ++
        more).foldlM step? (.nextKey before stack) =
      more.foldlM step? (.afterMember (before ++ members) stack) := by
  induction members generalizing before with
  | nil => exact absurd rfl hne
  | cons m rest ih =>
      obtain ⟨key, x⟩ := m
      obtain ⟨hx, hrest⟩ := List.forall_mem_cons.1 h
      obtain ⟨hsx, hsrest⟩ := List.forall_mem_cons.1 hs
      have hput : put key x before = before ++ [(key, x)] := by
        refine put_of_lt (fun other ho => ?_) x
        rw [Sorted, keys, List.map_append, List.map_cons] at hsorted
        exact (List.pairwise_append.1 hsorted).2.2 other ho key (List.mem_cons_self ..)
      have hread : ∀ later : List Token,
          (.text key :: .colon :: (x.tokens ++ later)).foldlM step? (.nextKey before stack) =
            later.foldlM step? (.afterMember (before ++ [(key, x)]) stack) := by
        intro later
        rw [← hput]
        exact hx.value (.object before key :: stack) hsx later
      cases rest with
      | nil =>
          rw [List.map_singleton, List.intercalate_singleton]
          exact hread more
      | cons n rest =>
          rw [List.append_cons] at hsorted ⊢
          rw [List.map_cons, List.map_cons, List.intercalate_cons_cons, List.append_assoc,
            List.append_assoc]
          exact (hread _).trans (ih _ (List.cons_ne_nil _ _) hsorted hrest hsrest)

theorem foldlM_firstKey {members : Members} (hne : members ≠ []) (more : List Token) :
    ([Token.comma].intercalate (members.map fun m => .text m.1 :: .colon :: m.2.tokens) ++
        more).foldlM step? (.firstKey stack) =
      ([Token.comma].intercalate (members.map fun m => .text m.1 :: .colon :: m.2.tokens) ++
        more).foldlM step? (.nextKey [] stack) := by
  obtain ⟨⟨key, x⟩, rest, rfl⟩ := List.exists_cons_of_ne_nil hne
  obtain ⟨later, hlater⟩ := exists_intercalate_cons [Token.comma]
    (.text key :: .colon :: x.tokens) (rest.map fun m => .text m.1 :: .colon :: m.2.tokens)
  rw [List.map_cons, hlater]
  rfl

theorem completes_object {members : Members} (hsorted : Sorted members)
    (h : ∀ m ∈ members, Completes m.2.tokens m.2) :
    Completes (Json.object members).tokens (.object members) := by
  intro stack hs
  have hmembers : ∀ m ∈ members, stack.length + 1 + m.2.height < deepestNesting := by
    intro m hm
    have := (Part.member hm).height_lt
    omega
  refine ⟨.openObject, _, .firstKey stack, rfl, if_pos (by omega), ?_⟩
  rw [memberTokens_eq]
  by_cases hne : members = []
  · subst hne
    rfl
  · rw [foldlM_firstKey hne, foldlM_members [] hne hsorted h hmembers]
    rfl

end

theorem completes_tokens {x : Json} (h : x.isOrdered = true) : Completes x.tokens x := by
  induction hn : sizeOf x using Nat.strongRecOn generalizing x with
  | ind n ih =>
      subst hn
      have hpart : ∀ {y}, Part y x → Completes y.tokens y := fun hp =>
        ih _ hp.sizeOf_lt (hp.isOrdered h) rfl
      cases x with
      | array items => exact completes_array fun y hy => hpart (.item hy)
      | object members =>
          exact completes_object (isOrdered_object.1 h).1 fun m hm => hpart (.member hm)
      | null | bool b | number n | string s => exact fun stack _ => ⟨_, _, _, rfl, rfl, rfl⟩

end Reader

/-- Blanks may follow. -/
theorem parse?_of_spells {x : Json} {text : String} {cs after : List Char}
    (h : Spells Number.ReadFrom x cs) (hordered : x.isOrdered = true)
    (hheight : x.height < Reader.deepestNesting) (hafter : Blank after)
    (htext : text.toList = cs ++ after) : parse? text = some x := by
  have htokens := tokens?_of_lexes ((lexes_of_spells h).append_blank hafter)
  have hread := (Reader.completes_tokens hordered).value [] (by simpa using hheight) []
  rw [List.append_nil] at hread
  rw [parse?, htext, htokens, Option.bind_some, ofTokens?, hread]
  rfl

theorem readFrom_int {i : Int} (hlow : -2 ^ 63 ≤ i) (hhigh : i < 2 ^ 64) :
    (Number.int i).ReadFrom (Number.int i).text.toList := by
  have hread : Numeral.read? (Number.int i).text.toList = _ := Numeral.read?_int i
  rw [Number.ReadFrom, hread, Option.bind_some, Numeral.number?_int hlow hhigh]

/-- What comes back from its texts. Of doubles only those do that the reader, which rounds more than
once, reads from their shortest numeral. -/
structure Rereads (x : Json) : Prop where
  ordered : x.isOrdered = true
  height : x.height < Reader.deepestNesting
  numbers : SpellsNumbers Number.ReadFrom x

theorem rereads_of_integers {x : Json} (hordered : x.isOrdered = true)
    (hheight : x.height < Reader.deepestNesting)
    (h : x.EveryNumber fun n => ∃ i : Int, n = .int i ∧ -2 ^ 63 ≤ i ∧ i < 2 ^ 64) :
    x.Rereads where
  ordered := hordered
  height := hheight
  numbers n hn := by
    obtain ⟨i, rfl, hlow, hhigh⟩ := h n hn
    exact readFrom_int hlow hhigh

end SchemaCheck.Json
