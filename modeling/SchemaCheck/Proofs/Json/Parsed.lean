import SchemaCheck.Json.Reader
import SchemaCheck.Proofs.Json.DistinctKeys
import SchemaCheck.Proofs.Json.Order

namespace SchemaCheck.Json

def Token.IsSimple : Token → Prop
  | .scalar x => x.isScalar = true
  | _ => True

namespace Lexer

variable {l l' : Lexer} {c : Char}

theorem isSimple_of_word? {letters : List Char} {t : Token} (h : word? letters = some t) :
    t.IsSimple := by
  unfold word? at h
  split at h
  case h_1 | h_2 | h_3 =>
    cases h
    exact rfl
  case h_4 =>
    obtain ⟨n, -, h⟩ := Option.bind_eq_some_iff.1 h
    obtain ⟨x, -, rfl⟩ := Option.map_eq_some_iff.1 h
    exact rfl

def Simple (l : Lexer) : Prop := ∀ t ∈ l.tokens, t.IsSimple

theorem Simple.flush (hl : l.Simple) (h : l.flush? = some l') : l'.Simple := by
  rw [flush?] at h
  split at h
  next =>
    cases h
    exact hl
  next letters _ =>
    obtain ⟨t, ht, rfl⟩ := Option.map_eq_some_iff.1 h
    exact List.forall_mem_cons.2 ⟨isSimple_of_word? ht, hl⟩
  next => cases h

theorem Simple.between (hl : l.Simple) (h : between? l c = some l') : l'.Simple := by
  have hcons : ∀ t : Token, t.IsSimple → ∀ u ∈ t :: l.tokens, u.IsSimple := fun t ht =>
    List.forall_mem_cons.2 ⟨ht, hl⟩
  unfold between? at h
  split at h
  next =>
    cases h
    exact hl
  next =>
    split at h
    next =>
      cases h
      exact hl
    next =>
      split at h
      case h_1 =>
        cases h
        exact hl
      case h_2 | h_3 | h_4 | h_5 | h_6 | h_7 =>
        cases h
        exact hcons _ trivial
      case h_8 => cases h

theorem Simple.step (hl : l.Simple) (h : step? l c = some l') : l'.Simple := by
  rw [step?] at h
  split at h
  next letters _ =>
    split at h
    next =>
      cases h
      exact List.forall_mem_cons.2 ⟨trivial, hl⟩
    next =>
      obtain ⟨m, -, rfl⟩ := Option.map_eq_some_iff.1 h
      exact hl
  next =>
    obtain ⟨m, -, rfl⟩ := Option.map_eq_some_iff.1 h
    exact hl
  next =>
    split at h
    next =>
      cases h
      exact hl
    next =>
      obtain ⟨k, hk, h⟩ := Option.bind_eq_some_iff.1 h
      exact (hl.flush hk).between h
  next => exact hl.between h

end Lexer

theorem isSimple_of_tokens? {text : List Char} {tokens : List Token}
    (h : tokens? text = some tokens) :
    ∀ t ∈ tokens, t.IsSimple := by
  obtain ⟨l, hl, h⟩ := Option.bind_eq_some_iff.1 h
  obtain ⟨k, hk, rfl⟩ := Option.map_eq_some_iff.1 h
  have hstart : Lexer.start.Simple := fun _ ht => absurd ht List.not_mem_nil
  have hl : l.Simple := of_foldlM (fun _ _ _ _ h hl => hl.step h) hl hstart
  intro t ht
  exact hl.flush hk t (List.mem_reverse.1 ht)

theorem isOrdered_of_isScalar {x : Json} (h : x.isScalar = true) : x.isOrdered = true := by
  cases x with
  | null | bool b | number n | string s => rfl
  | array items | object members => cases h

theorem isOrdered_put {members : Members} (h : (Json.object members).isOrdered = true)
    (key : String) {x : Json} (hx : x.isOrdered = true) :
    (Json.object (put key x members)).isOrdered = true := by
  obtain ⟨hs, hm⟩ := isOrdered_object.1 h
  refine isOrdered_object.2 ⟨hs.put key x, fun m hput => ?_⟩
  rcases mem_put hput with rfl | h
  · exact hx
  · exact hm m h

def Frame.Ordered : Frame → Prop
  | .array items => ∀ x ∈ items, x.isOrdered = true
  | .object members _ => (Json.object members).isOrdered = true

namespace Reader

variable {r r' : Reader} {t : Token} {stack : List Frame}

def Ordered : Reader → Prop
  | .value stack | .firstItem stack | .firstKey stack => ∀ f ∈ stack, f.Ordered
  | .afterItem items stack => ∀ f ∈ Frame.array items :: stack, f.Ordered
  | .nextKey members stack | .afterMember members stack | .colon members _ stack =>
    (Json.object members).isOrdered = true ∧ ∀ f ∈ stack, f.Ordered
  | .done x => x.isOrdered = true

theorem ordered_complete {x : Json} (hx : x.isOrdered = true) (hs : ∀ f ∈ stack, f.Ordered) :
    (complete x stack).Ordered := by
  cases stack with
  | nil => exact hx
  | cons f rest =>
      obtain ⟨hf, hrest⟩ := List.forall_mem_cons.1 hs
      cases f with
      | array items => exact List.forall_mem_cons.2 ⟨List.forall_mem_cons.2 ⟨hx, hf⟩, hrest⟩
      | object members key => exact ⟨isOrdered_put hf key hx, hrest⟩

theorem ordered_startValue (ht : t.IsSimple) (hs : ∀ f ∈ stack, f.Ordered)
    (h : startValue? stack t = some r) : r.Ordered := by
  cases t with
  | scalar x =>
      cases h
      exact ordered_complete (isOrdered_of_isScalar ht) hs
  | text s =>
      cases h
      exact ordered_complete rfl hs
  | openArray | openObject =>
      rw [startValue?] at h
      split at h
      next =>
        cases h
        exact hs
      next => cases h
  | closeArray | closeObject | comma | colon => cases h

theorem Ordered.step (hr : r.Ordered) (ht : t.IsSimple) (h : step? r t = some r') :
    r'.Ordered := by
  cases r with
  | value stack => exact ordered_startValue ht hr h
  | firstItem stack =>
      have hfirst : ∀ f ∈ Frame.array [] :: stack, f.Ordered :=
        List.forall_mem_cons.2 ⟨fun _ hx => absurd hx List.not_mem_nil, hr⟩
      cases t with
      | closeArray =>
          cases h
          exact ordered_complete rfl hr
      | openArray | openObject | closeObject | comma | colon | scalar x | text s =>
          exact ordered_startValue ht hfirst h
  | afterItem items stack =>
      cases t with
      | comma =>
          cases h
          exact hr
      | closeArray =>
          cases h
          obtain ⟨hitems, hs⟩ := List.forall_mem_cons.1 hr
          have hx : (Json.array items.reverse).isOrdered = true :=
            isOrdered_array.2 fun x hx => hitems x (List.mem_reverse.1 hx)
          exact ordered_complete hx hs
      | openArray | openObject | closeObject | colon | scalar x | text s => cases h
  | firstKey stack =>
      cases t with
      | closeObject =>
          cases h
          exact ordered_complete rfl hr
      | text key =>
          cases h
          exact ⟨rfl, hr⟩
      | openArray | closeArray | openObject | comma | colon | scalar x => cases h
  | nextKey members stack =>
      cases t with
      | text key =>
          cases h
          exact hr
      | openArray | closeArray | openObject | closeObject | comma | colon | scalar x => cases h
  | colon members key stack =>
      cases t with
      | colon =>
          cases h
          exact List.forall_mem_cons.2 hr
      | openArray | closeArray | openObject | closeObject | comma | scalar x | text s => cases h
  | afterMember members stack =>
      cases t with
      | comma =>
          cases h
          exact hr
      | closeObject =>
          cases h
          exact ordered_complete hr.1 hr.2
      | openArray | closeArray | openObject | colon | scalar x | text s => cases h
  | done x => cases t <;> cases h

end Reader

theorem isOrdered_of_parse? {text : String} {x : Json} (h : parse? text = some x) :
    x.isOrdered = true := by
  obtain ⟨tokens, htokens, h⟩ := Option.bind_eq_some_iff.1 h
  have ht := isSimple_of_tokens? htokens
  rw [ofTokens?] at h
  split at h
  next y hy =>
    cases h
    have hstart : (Reader.value []).Ordered := fun _ hf => absurd hf List.not_mem_nil
    have hdone : (Reader.done x).Ordered :=
      of_foldlM (fun t hm _ _ h hr => hr.step (ht t hm) h) hy hstart
    exact hdone
  next => cases h

theorem hasDistinctKeys_of_isOrdered {x : Json} (h : x.isOrdered = true) :
    x.hasDistinctKeys = true := by
  induction hn : sizeOf x using Nat.strongRecOn generalizing x with
  | ind n ih =>
      subst hn
      have hpart : ∀ {y}, Part y x → y.hasDistinctKeys = true := fun hp =>
        ih _ hp.sizeOf_lt (hp.isOrdered h) rfl
      cases x with
      | array items => exact distinctInItems_iff.2 fun y hy => hpart (.item hy)
      | object members =>
          have hs := (isOrdered_object.1 h).1
          exact hasDistinctKeys_object.2 ⟨hs.nodup, fun m hm => hpart (.member hm)⟩
      | null | bool b | number n | string s => rfl

end SchemaCheck.Json
