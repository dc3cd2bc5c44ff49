namespace SchemaCheck.Text

/-- The stretches between separators. Two separators in a row have an empty field between them. -/
def fields (separates : Char → Bool) : List Char → List (List Char)
  | [] => [[]]
  | c :: rest =>
    if separates c then [] :: fields separates rest
    else
      match fields separates rest with
      | [] => [[c]]
      | f :: more => (c :: f) :: more

/-- The fields between blanks and line ends, of which any number may stand together. -/
def words (cs : List Char) : List (List Char) :=
  (fields (fun c => c = ' ' || c = '\n') cs).filter (· ≠ [])

def joined (separator : Char) : List (List Char) → List Char
  | [] => []
  | [f] => f
  | f :: more => f ++ separator :: joined separator more

theorem fields_ne_nil (separates : Char → Bool) (cs : List Char) : fields separates cs ≠ [] := by
  cases cs with
  | nil => simp [fields]
  | cons c rest =>
    unfold fields
    split
    · simp
    · split <;> simp

theorem joined_cons (separator : Char) (f : List Char) {more : List (List Char)} (h : more ≠ []) :
    joined separator (f :: more) = f ++ separator :: joined separator more := by
  cases more with
  | nil => exact absurd rfl h
  | cons g gs => rfl

theorem joined_fields (separator : Char) (cs : List Char) :
    joined separator (fields (· = separator) cs) = cs := by
  induction cs with
  | nil => rfl
  | cons c rest ih =>
    unfold fields
    by_cases h : c = separator
    · rw [if_pos (by simpa using h), joined_cons _ _ (fields_ne_nil _ _), ih, h]
      rfl
    · rw [if_neg (by simpa using h)]
      generalize hf : fields (fun x => decide (x = separator)) rest = parts at ih
      match parts with
      | [] => exact absurd hf (fields_ne_nil _ _)
      | [f] =>
        simp only [joined] at ih ⊢
        rw [ih]
      | f :: g :: gs =>
        simp only [joined] at ih ⊢
        rw [List.cons_append, ih]

theorem fields_of_forall {separates : Char → Bool} {cs : List Char}
    (h : ∀ c ∈ cs, separates c = false) : fields separates cs = [cs] := by
  induction cs with
  | nil => rfl
  | cons c rest ih =>
      have hc : ¬separates c = true := by simp [h c (List.mem_cons_self ..)]
      rw [fields, if_neg hc, ih fun d hd => h d (List.mem_cons_of_mem _ hd)]

theorem fields_append {separates : Char → Bool} (cs : List Char) {c : Char} (ds : List Char)
    (h : separates c = true) :
    fields separates (cs ++ c :: ds) = fields separates cs ++ fields separates ds := by
  induction cs with
  | nil => simp [fields, h]
  | cons b rest ih =>
      rw [List.cons_append, fields, fields, ih]
      by_cases hb : separates b = true
      · rw [if_pos hb, if_pos hb, List.cons_append]
      · rw [if_neg hb, if_neg hb]
        cases hf : fields separates rest with
        | nil => exact absurd hf (fields_ne_nil separates rest)
        | cons f more => rfl

theorem separates_of_mem_fields {separates : Char → Bool} {cs f : List Char}
    (h : f ∈ fields separates cs) : ∀ c ∈ f, separates c = false := by
  fun_induction fields separates cs generalizing f with
  | case1 =>
      obtain rfl := List.mem_singleton.1 h
      simp
  | case2 c rest _ ih =>
      rcases List.mem_cons.1 h with rfl | h
      · simp
      · exact ih h
  | case3 c rest _ hf => exact absurd hf (fields_ne_nil separates rest)
  | case4 c rest hc g more hf ih =>
      rw [hf] at ih
      rcases List.mem_cons.1 h with rfl | h
      · exact List.forall_mem_cons.2 ⟨by simpa using hc, ih (List.mem_cons_self ..)⟩
      · exact ih (List.mem_cons_of_mem _ h)

theorem flatMap_cons_eq_joined (separator : Char) {fs : List (List Char)} (h : fs ≠ []) :
    fs.flatMap (separator :: ·) = separator :: joined separator fs := by
  induction fs with
  | nil => exact absurd rfl h
  | cons f more ih =>
      by_cases hm : more = []
      · subst hm
        simp [joined]
      · rw [List.flatMap_cons, ih hm, joined_cons separator f hm, List.cons_append]

end SchemaCheck.Text
