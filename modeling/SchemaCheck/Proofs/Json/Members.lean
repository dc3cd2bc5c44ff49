import SchemaCheck.Json.Basic

namespace SchemaCheck.Json

theorem mem_of_lookup {key : String} {x : Json} {members : Members}
    (h : members.lookup key = some x) : (key, x) ∈ members := by
  obtain ⟨l₁, l₂, rfl, -⟩ := List.lookup_eq_some_iff.1 h
  simp

theorem lookup_of_mem {β : Type} {entries : List (String × β)} {key : String} {b : β}
    (hd : (entries.map (·.1)).Nodup) (h : (key, b) ∈ entries) : entries.lookup key = some b := by
  induction entries with
  | nil => cases h
  | cons e rest ih =>
      obtain ⟨k, c⟩ := e
      rw [List.map_cons, List.nodup_cons] at hd
      rw [List.lookup_cons]
      rcases List.mem_cons.1 h with he | hm
      · cases he
        rw [beq_self_eq_true]
      · have hk : key ≠ k := by
          rintro rfl
          exact hd.1 (List.mem_map.2 ⟨_, hm, rfl⟩)
        rw [beq_eq_false_iff_ne.2 hk]
        exact ih hd.2 hm

theorem lookup_filter {β : Type} (keep : String → Bool) (key : String)
    (entries : List (String × β)) : (entries.filter fun e => keep e.1).lookup key =
      if keep key = true then entries.lookup key else none := by
  induction entries with
  | nil => simp
  | cons e rest ih =>
      obtain ⟨k, b⟩ := e
      rw [List.filter_cons, List.lookup_cons]
      by_cases he : key = k
      · subst he
        by_cases hk : keep key = true
        · simp [hk]
        · simp [hk, ih]
      · have hne : (key == k) = false := beq_eq_false_iff_ne.2 he
        split
        · rw [List.lookup_cons, hne, ih]
        · rw [hne, ih]

theorem hasKey_eq_contains (key : String) (members : Members) :
    hasKey key members = (keys members).contains key := by
  induction members with
  | nil => rfl
  | cons m rest ih =>
      rw [hasKey, keys] at ih ⊢
      rw [List.lookup_cons, List.map_cons, List.contains_cons, ← ih]
      cases key == m.1 <;> rfl

theorem lookup_put (key other : String) (value : Json) (members : Members) :
    (put key value members).lookup other =
      if other = key then some value else members.lookup other := by
  by_cases h : other = key
  · subst h
    rw [if_pos rfl, lookup_put_self]
  · rw [if_neg h, lookup_put_of_ne h]

theorem mem_put {m : String × Json} {key : String} {value : Json} {members : Members}
    (h : m ∈ put key value members) : m = (key, value) ∨ m ∈ members := by
  induction members with
  | nil =>
      left
      simpa [put] using h
  | cons n rest ih =>
      obtain ⟨k, v⟩ := n
      rw [put] at h
      split at h
      · rcases List.mem_cons.1 h with h | h
        · exact .inl h
        · exact .inr (List.mem_cons_of_mem _ h)
      · split at h
        · rcases List.mem_cons.1 h with h | h
          · exact .inl h
          · exact .inr h
        · rcases List.mem_cons.1 h with rfl | h
          · exact .inr (List.mem_cons_self ..)
          · exact (ih h).imp id (List.mem_cons_of_mem _)

theorem mem_put_of_ne {m : String × Json} {key : String} {value : Json} {members : Members}
    (h : m ∈ members) (hk : m.1 ≠ key) : m ∈ put key value members := by
  induction members with
  | nil => cases h
  | cons n rest ih =>
      obtain ⟨k, v⟩ := n
      rw [put]
      rcases List.mem_cons.1 h with rfl | h
      · rw [if_neg fun he => hk he.symm]
        split <;> simp
      · split
        · exact List.mem_cons_of_mem _ h
        · split
          · exact List.mem_cons_of_mem _ (List.mem_cons_of_mem _ h)
          · exact List.mem_cons_of_mem _ (ih h)

theorem mem_put_iff {m : String × Json} {key : String} {value : Json} {members : Members}
    (hk : key ∉ keys members) : m ∈ put key value members ↔ m = (key, value) ∨ m ∈ members := by
  constructor
  · exact mem_put
  · rintro (rfl | h)
    · exact mem_of_lookup (lookup_put_self key value members)
    · exact mem_put_of_ne h fun he => hk (he ▸ List.mem_map_of_mem h)

theorem lookup_drop (keys : List String) (key : String) (members : Members) :
    (drop keys members).lookup key = if key ∈ keys then none else members.lookup key := by
  induction members with
  | nil => simp [drop]
  | cons m rest ih =>
      obtain ⟨k, v⟩ := m
      rw [drop] at ih ⊢
      by_cases hk : k ∈ keys
      · rw [List.filter_cons_of_neg (by simpa using hk), ih, List.lookup_cons]
        by_cases he : key = k
        · subst he
          simp [hk]
        · rw [beq_eq_false_iff_ne.2 he]
      · rw [List.filter_cons_of_pos (by simpa using hk), List.lookup_cons, List.lookup_cons, ih]
        by_cases he : key = k
        · subst he
          simp [hk]
        · rw [beq_eq_false_iff_ne.2 he]

/-- The first value stands directly in the second. -/
inductive Part : Json → Json → Prop
  | item {x : Json} {items : List Json} (h : x ∈ items) : Part x (.array items)
  | member {key : String} {x : Json} {members : Members} (h : (key, x) ∈ members) :
    Part x (.object members)

theorem Part.sizeOf_lt {x y : Json} (h : Part x y) : sizeOf x < sizeOf y := by
  cases h with
  | item h =>
      have := List.sizeOf_lt_of_mem h
      simp only [array.sizeOf_spec]
      omega
  | member h =>
      have := List.sizeOf_lt_of_mem h
      simp only [Prod.mk.sizeOf_spec] at this
      simp only [object.sizeOf_spec]
      omega

theorem of_foldlM {α β : Type} {step : β → α → Option β} {Good : β → Prop} {entries : List α}
    (hs : ∀ a ∈ entries, ∀ {b c : β}, step b a = some c → Good b → Good c) {b c : β}
    (h : entries.foldlM step b = some c) (hb : Good b) : Good c := by
  induction entries generalizing b with
  | nil =>
      cases h
      exact hb
  | cons a rest ih =>
      rw [List.foldlM_cons] at h
      obtain ⟨d, hd, h⟩ := Option.bind_eq_some_iff.1 h
      exact ih (fun a ha => hs a (List.mem_cons_of_mem _ ha)) h (hs a (List.mem_cons_self ..) hd hb)

theorem foldlM_cons_of_eq {α β : Type} {step : β → α → Option β} {a : α} {b c : β}
    (h : step b a = some c) (rest : List α) : (a :: rest).foldlM step b = rest.foldlM step c := by
  rw [List.foldlM_cons, h]
  rfl

theorem foldlM_append_of_eq {α β : Type} {step : β → α → Option β} {entries : List α} {b c : β}
    (h : entries.foldlM step b = some c) (more : List α) :
    (entries ++ more).foldlM step b = more.foldlM step c := by
  rw [List.foldlM_append, h]
  rfl

end SchemaCheck.Json
