import Mathlib.Data.List.Basic
import SchemaCheck.Proofs.Json.Location

namespace SchemaCheck.Pointer

def replaceChar (c : Char) (replacement cs : List Char) : List Char :=
  cs.flatMap fun d => if d = c then replacement else [d]

/-- Every occurrence of two characters in a row is replaced, from the left. -/
def replacePair (a b replacement : Char) : List Char → List Char
  | c :: d :: rest =>
    if c = a ∧ d = b then replacement :: replacePair a b replacement rest
    else c :: replacePair a b replacement (d :: rest)
  | cs => cs

theorem replacePair_cons_of_ne {a b replacement c : Char} (h : c ≠ a) (rest : List Char) :
    replacePair a b replacement (c :: rest) = c :: replacePair a b replacement rest := by
  cases rest with
  | nil => rfl
  | cons d more => rw [replacePair, if_neg fun hc => h hc.1]

theorem replacePair_cons_of_head {a b replacement c : Char} {rest : List Char}
    (h : rest.head? ≠ some b) :
    replacePair a b replacement (c :: rest) = c :: replacePair a b replacement rest := by
  cases rest with
  | nil => rfl
  | cons d more => rw [replacePair, if_neg fun hc => h (by rw [hc.2]; rfl)]

theorem head?_replacePair {a b replacement e : Char} {cs : List Char} (h : cs.head? ≠ some e)
    (hr : replacement ≠ e) : (replacePair a b replacement cs).head? ≠ some e := by
  match cs with
  | [] | [c] => exact h
  | c :: d :: rest =>
      rw [replacePair]
      split
      · simpa using hr
      · simpa using h

theorem escapeChars_eq_replace (cs : List Char) :
    escapeChars cs = replaceChar '/' ['~', '1'] (replaceChar '~' ['~', '0'] cs) := by
  fun_induction escapeChars cs with
  | case1 => rfl
  | case2 rest ih => simp [ih, replaceChar]
  | case3 rest ih => simp [ih, replaceChar]
  | case4 c rest ht hs ih =>
      have hc : c ≠ '~' := ht
      have hc' : c ≠ '/' := hs
      simp [ih, replaceChar, hc, hc']

/-- The other order would read ~01 as a solidus. -/
theorem unescapeChars_eq_replace (cs : List Char) :
    unescapeChars cs = replacePair '~' '0' '~' (replacePair '~' '1' '/' cs) := by
  fun_induction unescapeChars cs with
  | case1 => rfl
  | case2 rest ih =>
      have hinner : replacePair '~' '1' '/' ('~' :: '0' :: rest) =
          '~' :: '0' :: replacePair '~' '1' '/' rest := by
        rw [replacePair_cons_of_head (by simp), replacePair_cons_of_ne (by decide)]
      rw [hinner, replacePair, if_pos ⟨rfl, rfl⟩, ih]
  | case3 rest ih =>
      rw [replacePair, if_pos ⟨rfl, rfl⟩, replacePair_cons_of_ne (by decide), ih]
  | case4 c rest h0 h1 ih =>
      by_cases hc : c = '~'
      · subst hc
        have hn : ∀ d, (∀ more, rest ≠ d :: more) → rest.head? ≠ some d := by
          intro d hd he
          obtain ⟨more, hm⟩ := List.head?_eq_some_iff.1 he
          exact hd more hm
        rw [replacePair_cons_of_head (hn '1' fun more he => h1 more rfl he),
          replacePair_cons_of_head (head?_replacePair (hn '0' fun more he => h0 more rfl he)
            (by decide)), ih]
      · rw [replacePair_cons_of_ne hc, replacePair_cons_of_ne hc, ih]

/-- Every tilde is followed by 0 or 1. -/
def WellEscaped (cs : List Char) : Prop :=
  ∀ before after, cs = before ++ '~' :: after → after.head? = some '0' ∨ after.head? = some '1'

theorem wellEscaped_nil : WellEscaped [] := by
  simp [WellEscaped]

theorem wellEscaped_cons_iff {c : Char} {rest : List Char} : WellEscaped (c :: rest) ↔
    (c = '~' → rest.head? = some '0' ∨ rest.head? = some '1') ∧ WellEscaped rest := by
  constructor
  · intro h
    refine ⟨?_, fun before after hr => h (c :: before) after (by rw [hr, List.cons_append])⟩
    rintro rfl
    exact h [] rest rfl
  · rintro ⟨hc, hr⟩ before after h
    cases before with
    | nil =>
        cases h
        exact hc rfl
    | cons d more =>
        cases h
        exact hr more after rfl

namespace WellEscaped

theorem append {cs ds : List Char} (h : WellEscaped cs) (h' : WellEscaped ds) :
    WellEscaped (cs ++ ds) := by
  induction cs with
  | nil => exact h'
  | cons c rest ih =>
      obtain ⟨hc, hr⟩ := wellEscaped_cons_iff.1 h
      refine wellEscaped_cons_iff.2 ⟨fun ht => ?_, ih hr⟩
      cases rest with
      | nil => simpa using hc ht
      | cons d more => exact hc ht

theorem of_append (cs : List Char) {ds : List Char} (h : WellEscaped (cs ++ ds)) :
    WellEscaped ds := by
  rintro before after rfl
  exact h (cs ++ before) after (List.append_assoc ..).symm

/-- A solidus cannot belong to an escape, so what stands before it is well escaped by itself. -/
theorem of_append_solidus {cs ds : List Char} (h : WellEscaped (cs ++ '/' :: ds)) :
    WellEscaped cs := by
  rintro before after rfl
  have hs := h before (after ++ '/' :: ds) (by simp)
  cases after with
  | nil => simp at hs
  | cons c rest => simpa using hs

theorem of_mem_joined {f : List Char} {fs : List (List Char)}
    (h : WellEscaped (Text.joined '/' fs)) (hf : f ∈ fs) : WellEscaped f := by
  induction fs with
  | nil => cases hf
  | cons g more ih =>
      by_cases hm : more = []
      · subst hm
        obtain rfl := List.mem_singleton.1 hf
        exact h
      · rw [Text.joined_cons _ _ hm] at h
        rcases List.mem_cons.1 hf with rfl | hf
        · exact h.of_append_solidus
        · have hmore : WellEscaped ((g ++ ['/']) ++ Text.joined '/' more) := by
            simpa using h
          exact ih (hmore.of_append _) hf

end WellEscaped

theorem escapeChars_unescapeChars {cs : List Char} (h : WellEscaped cs) (hs : '/' ∉ cs) :
    escapeChars (unescapeChars cs) = cs := by
  fun_induction unescapeChars cs with
  | case1 => rfl
  | case2 rest ih =>
      have hw : WellEscaped rest := WellEscaped.of_append ['~', '0'] h
      rw [escapeChars, ih hw (by simpa using hs)]
  | case3 rest ih =>
      have hw : WellEscaped rest := WellEscaped.of_append ['~', '1'] h
      rw [escapeChars, ih hw (by simpa using hs)]
  | case4 c rest h0 h1 ih =>
      have hw : WellEscaped rest := WellEscaped.of_append [c] h
      have hc : c ≠ '~' := by
        intro ht
        rcases (wellEscaped_cons_iff.1 h).1 ht with hd | hd
        · obtain ⟨more, hm⟩ := List.head?_eq_some_iff.1 hd
          exact h0 more ht hm
        · obtain ⟨more, hm⟩ := List.head?_eq_some_iff.1 hd
          exact h1 more ht hm
      have hc' : c ≠ '/' := fun he => hs (by simp [he])
      have he : escapeChars (c :: unescapeChars rest) = c :: escapeChars (unescapeChars rest) := by
        rw [escapeChars]
        · exact hc
        · exact hc'
      rw [he, ih hw fun hr => hs (List.mem_cons_of_mem _ hr)]

theorem toList_build (parent : String) (segments : List String) :
    (build parent segments).toList =
      parent.toList ++ segments.flatMap fun s => '/' :: escapeChars s.toList := by
  induction segments generalizing parent with
  | nil => simp [build]
  | cons segment rest ih =>
      have hb : build parent (segment :: rest) = build (child parent segment) rest := rfl
      rw [hb, ih, toList_child, List.flatMap_cons, List.append_assoc]

theorem wellEscaped_escapeChars (cs : List Char) : WellEscaped (escapeChars cs) := by
  fun_induction escapeChars cs with
  | case1 => exact wellEscaped_nil
  | case2 rest ih => simp [wellEscaped_cons_iff, ih]
  | case3 rest ih => simp [wellEscaped_cons_iff, ih]
  | case4 c rest ht _ ih => exact wellEscaped_cons_iff.2 ⟨fun hc => absurd hc ht, ih⟩

theorem wellEscaped_build {parent : String} (segments : List String)
    (h : WellEscaped parent.toList) : WellEscaped (build parent segments).toList := by
  induction segments generalizing parent with
  | nil => exact h
  | cons segment rest ih =>
      apply ih
      rw [toList_child]
      exact h.append (wellEscaped_cons_iff.2 ⟨nofun, wellEscaped_escapeChars _⟩)

theorem build_split {path : String} (hl : path = "#" ∨ "#/".toList <+: path.toList)
    (hw : WellEscaped path.toList) : build "#" (split path) = path := by
  rcases hl with rfl | ⟨cs, hp⟩
  · rfl
  · have hp : path.toList = '#' :: '/' :: cs := hp.symm
    have hcs : WellEscaped (Text.joined '/' (Text.fields (· = '/') cs)) := by
      rw [Text.joined_fields]
      rw [hp] at hw
      exact WellEscaped.of_append ['#', '/'] hw
    -- each field holds no solidus and ends no escape, so it is escaped again to what it was
    have hfields : ∀ f ∈ Text.fields (· = '/') cs, escapeChars (unescapeChars f) = f := by
      intro f hf
      refine escapeChars_unescapeChars (hcs.of_mem_joined hf) fun hs => ?_
      simpa using Text.separates_of_mem_fields hf '/' hs
    have hsplit : split path =
        (Text.fields (· = '/') cs).map fun f => String.ofList (unescapeChars f) := by
      rw [split, hp]
      rfl
    apply String.toList_injective
    calc
      (build "#" (split path)).toList
          = '#' :: (Text.fields (· = '/') cs).flatMap ('/' :: ·) := by
            rw [toList_build, hsplit, List.flatMap_map]
            refine congrArg ('#' :: ·) (List.flatMap_congr fun f hf => ?_)
            rw [String.toList_ofList, hfields f hf]
      _ = '#' :: '/' :: cs := by
            rw [Text.flatMap_cons_eq_joined '/' (Text.fields_ne_nil _ cs), Text.joined_fields]
      _ = path.toList := hp.symm

theorem build_split_iff {path : String} : build "#" (split path) = path ↔
    (path = "#" ∨ "#/".toList <+: path.toList) ∧ WellEscaped path.toList := by
  constructor
  · intro h
    have hl : isLocal (build "#" (split path)) = true := isLocal_build _ rfl
    have hw : WellEscaped (build "#" (split path)).toList :=
      wellEscaped_build _ (by simp [wellEscaped_cons_iff, wellEscaped_nil])
    rw [h] at hl hw
    exact ⟨isLocal_iff.1 hl, hw⟩
  · rintro ⟨hl, hw⟩
    exact build_split hl hw

/-- Splitting undoes building from any path. Building undoes splitting exactly on the paths of the
document whose tildes all begin an escape. A path that is built from the keys and indices that lead
to a value resolves to it. -/
theorem build_faithful :
    (∀ (parent : String) (segments : List String),
      split (build parent segments) = split parent ++ segments) ∧
    (∀ path : String, build "#" (split path) = path ↔
      (path = "#" ∨ "#/".toList <+: path.toList) ∧ WellEscaped path.toList) ∧
    ∀ document : Json, document.Addressable → ∀ (location : List String) (x : Json),
      document.Leads location x → resolve? document (build "#" location) = some x := by
  refine ⟨split_build, fun path => build_split_iff, ?_⟩
  intro document hd location x hl
  have hroot : resolve? document "#" = some document := by
    rw [resolve?, if_pos (by decide)]
    rfl
  exact hl.resolve? hd hroot

def escapedKeys : Json := .object [("a/~b", .array [.null, .bool true])]

theorem build_faithful_escapedKeys :
    split (build "#" ["a/~b", "1"]) = ["a/~b", "1"] ∧
      build "#" (split "#/a~1~0b/1") = "#/a~1~0b/1" ∧
      escapedKeys.Leads ["a/~b", "1"] (.bool true) ∧
      resolve? escapedKeys (build "#" ["a/~b", "1"]) = some (.bool true) := by
  have hl : escapedKeys.Leads ["a/~b", "1"] (.bool true) :=
    .step (.member (List.mem_singleton_self _)) (.step (.item (i := 1) rfl) (.here _))
  refine ⟨build_faithful.1 "#" ["a/~b", "1"], ?_, hl, ?_⟩
  · refine (build_faithful.2.1 _).2 ⟨.inr ⟨"a~1~0b/1".toList, by decide⟩, ?_⟩
    simp [wellEscaped_cons_iff, wellEscaped_nil]
  · exact build_faithful.2.2 escapedKeys ⟨by decide, by decide⟩ _ _ hl

end SchemaCheck.Pointer
