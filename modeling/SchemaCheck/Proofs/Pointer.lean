import SchemaCheck.Pointer

namespace SchemaCheck.Pointer

theorem notMem_escapeChars (cs : List Char) : '/' ∉ escapeChars cs := by
  fun_induction escapeChars cs with
  | case1 => exact List.not_mem_nil
  | case2 rest ih => simpa using ih
  | case3 rest ih => simpa using ih
  | case4 c rest _ hc ih => simpa using ⟨fun h => hc h.symm, ih⟩

theorem unescapeChars_escapeChars (cs : List Char) : unescapeChars (escapeChars cs) = cs := by
  fun_induction escapeChars cs with
  | case1 => rfl
  | case2 rest ih => rw [unescapeChars, ih]
  | case3 rest ih => rw [unescapeChars, ih]
  | case4 c rest ht _ ih =>
      have hc : unescapeChars (c :: escapeChars rest) = c :: unescapeChars (escapeChars rest) := by
        rw [unescapeChars] <;> intro _ h <;> exact absurd h ht
      rw [hc, ih]

theorem unescape_escape (segment : String) : unescape (escape segment) = segment := by
  rw [unescape, escape, String.toList_ofList, unescapeChars_escapeChars, String.ofList_toList]

theorem escape_injective {s t : String} (h : escape s = escape t) : s = t := by
  rw [← unescape_escape s, h, unescape_escape]

theorem toList_child (parent segment : String) :
    (child parent segment).toList = parent.toList ++ '/' :: escapeChars segment.toList := by
  simp [child, escape]

theorem child_injective {parent s t : String} (h : child parent s = child parent t) : s = t := by
  have hl := congrArg String.toList h
  rw [toList_child, toList_child] at hl
  obtain ⟨-, he⟩ := List.cons.inj (List.append_cancel_left hl)
  exact escape_injective (by rw [escape, escape, he])

theorem isEmpty_child (parent segment : String) : (child parent segment).isEmpty = false := by
  rw [Bool.eq_false_iff, ne_eq, String.isEmpty_iff]
  intro he
  have hl := congrArg String.toList he
  simp [toList_child] at hl

/-- The path goes at least one segment deeper. -/
def Below (parent path : String) : Prop :=
  ∃ rest, path.toList = parent.toList ++ '/' :: rest

theorem below_child (parent segment : String) : Below parent (child parent segment) :=
  ⟨_, toList_child parent segment⟩

theorem Below.of_child {parent segment path : String} (h : Below (child parent segment) path) :
    Below parent path := by
  obtain ⟨rest, h⟩ := h
  exact ⟨escapeChars segment.toList ++ '/' :: rest, by rw [h, toList_child]; simp⟩

theorem not_below_child (parent s t : String) : ¬Below (child parent s) (child parent t) := by
  rintro ⟨rest, h⟩
  rw [toList_child, toList_child, List.append_assoc] at h
  obtain ⟨-, he⟩ := List.cons.inj (List.append_cancel_left h)
  exact notMem_escapeChars t.toList (he ▸ List.mem_append_right _ (List.mem_cons_self ..))

theorem withoutHash_append (cs ds : List Char) :
    withoutHash (cs ++ '/' :: ds) = withoutHash cs ++ '/' :: ds := by
  cases cs with
  | nil => rfl
  | cons c rest =>
      by_cases hc : c = '#'
      · subst hc
        rfl
      · have hw : ∀ es, withoutHash (c :: es) = c :: es := by
          intro es
          rw [withoutHash]
          rintro _ h
          exact hc (List.cons.inj h).1
        rw [List.cons_append, hw, hw, List.cons_append]

theorem rawSegments_append (cs : List Char) {ds : List Char} (h : '/' ∉ ds) :
    rawSegments (cs ++ '/' :: ds) = rawSegments cs ++ [ds] := by
  have hd : Text.fields (fun c => decide (c = '/')) ds = [ds] :=
    Text.fields_of_forall fun c hc => decide_eq_false fun he => h (he ▸ hc)
  have happend : ∀ es, Text.fields (fun c => decide (c = '/')) (es ++ '/' :: ds) =
      Text.fields (fun c => decide (c = '/')) es ++ [ds] := fun es => by
    rw [Text.fields_append es ds (by decide), hd]
  cases cs with
  | nil => exact hd
  | cons c rest =>
      by_cases hc : c = '/'
      · subst hc
        exact happend rest
      · have hr : ∀ es, rawSegments (c :: es) =
            Text.fields (fun c => decide (c = '/')) (c :: es) := by
          intro es
          rw [rawSegments]
          · exact List.cons_ne_nil _ _
          · intro _ he
            exact hc (List.cons.inj he).1
        rw [List.cons_append, hr, hr]
        exact happend (c :: rest)

theorem split_child (parent segment : String) :
    split (child parent segment) = split parent ++ [segment] := by
  rw [split, toList_child, withoutHash_append, rawSegments_append _ (notMem_escapeChars _),
    List.map_append, List.map_singleton, unescapeChars_escapeChars, String.ofList_toList]
  rfl

theorem split_build (parent : String) (segments : List String) :
    split (build parent segments) = split parent ++ segments := by
  induction segments generalizing parent with
  | nil => exact (List.append_nil _).symm
  | cons segment rest ih =>
      have hb : build parent (segment :: rest) = build (child parent segment) rest := rfl
      rw [hb, ih, split_child, List.append_assoc, List.singleton_append]

theorem isLocal_child {parent : String} (segment : String) (h : isLocal parent = true) :
    isLocal (child parent segment) = true := by
  rw [isLocal] at h ⊢
  rw [toList_child]
  split at h
  next hp => rw [hp]; rfl
  next hp => rw [hp]; rfl
  next => cases h

theorem isLocal_build {parent : String} (segments : List String) (h : isLocal parent = true) :
    isLocal (build parent segments) = true := by
  induction segments generalizing parent with
  | nil => exact h
  | cons segment rest ih => exact ih (isLocal_child segment h)

theorem isLocal_cases {path : String} (h : isLocal path = true) :
    path = "#" ∨ ∃ cs, path.toList = '#' :: '/' :: cs := by
  rw [isLocal] at h
  split at h
  next hp => exact .inl (String.toList_injective hp)
  next cs hp => exact .inr ⟨cs, hp⟩
  next => cases h

theorem isLocal_iff {path : String} :
    isLocal path = true ↔ path = "#" ∨ "#/".toList <+: path.toList := by
  constructor
  · intro h
    rcases isLocal_cases h with h | ⟨cs, h⟩
    · exact .inl h
    · exact .inr ⟨cs, h.symm⟩
  · rintro (rfl | ⟨cs, h⟩)
    · rfl
    · rw [isLocal, ← h]
      rfl

theorem unescapeChars_eq_self {cs : List Char} (ht : '~' ∉ unescapeChars cs)
    (hs : '/' ∉ unescapeChars cs) : unescapeChars cs = cs := by
  fun_induction unescapeChars cs with
  | case1 => rfl
  | case2 rest ih => exact absurd (List.mem_cons_self ..) ht
  | case3 rest ih => exact absurd (List.mem_cons_self ..) hs
  | case4 c rest _ _ ih =>
      rw [ih (fun h => ht (List.mem_cons_of_mem _ h)) fun h => hs (List.mem_cons_of_mem _ h)]

theorem toList_of_split {path segment : String} {rest : List String} (hl : isLocal path = true)
    (h : split path = segment :: rest) (ht : '~' ∉ segment.toList) (hs : '/' ∉ segment.toList) :
    (rest = [] ∧ path.toList = '#' :: '/' :: segment.toList) ∨
      ('#' :: '/' :: segment.toList ++ ['/']) <+: path.toList := by
  rcases isLocal_cases hl with rfl | ⟨cs, hp⟩
  · cases h
  · have hfields : (Text.fields (fun c => decide (c = '/')) cs).map
        (fun p => String.ofList (unescapeChars p)) = segment :: rest := by
      rw [← h, split, hp]
      rfl
    have hjoined := Text.joined_fields '/' cs
    generalize Text.fields (fun c => decide (c = '/')) cs = parts at hfields hjoined
    obtain ⟨f, more, rfl, hf, hmore⟩ := List.map_eq_cons_iff.1 hfields
    have hsegment : unescapeChars f = segment.toList := by rw [← hf, String.toList_ofList]
    have hplain := unescapeChars_eq_self (hsegment ▸ ht) (hsegment ▸ hs)
    rw [hplain] at hsegment
    subst hsegment
    by_cases hm : more = []
    · subst hm
      left
      exact ⟨hmore.symm, by rw [hp, ← hjoined]; rfl⟩
    · right
      rw [hp, ← hjoined, Text.joined_cons _ _ hm]
      exact ⟨Text.joined '/' more, by simp⟩

end SchemaCheck.Pointer
