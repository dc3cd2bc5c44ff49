import Mathlib.Data.List.Induction
import Mathlib.Data.List.Nodup
import SchemaCheck.Proofs.Pointer
import SchemaCheck.Proofs.Schema.Context

namespace SchemaCheck.Schema.Context

/-- How one context is made from another. -/
inductive Move
  | descend (segments : List String)
  | enter (reference : String)

def Move.reference? : Move → Option String
  | descend _ => none
  | enter reference => some reference

/-- A reference that is not a path of the document is never entered. -/
def move (c : Context) : Move → Except Error Context
  | .descend segments => c.descend segments
  | .enter reference =>
    match foreign? reference with
    | some feature => .error (.unsupported c.path feature)
    | none => c.enter reference

def run (c : Context) (moves : List Move) : Except Error Context := moves.foldlM move c

def references (moves : List Move) : List String := moves.filterMap Move.reference?

/-- The segments of the steps down since a reference was entered last. -/
def segmentsSince (moves : List Move) : List String :=
  moves.foldl (fun segments m =>
    match m with
    | .descend more => segments ++ more
    | .enter _ => []) []

/-- A compilation follows a reference by a move, and drops the context if there is no target. -/
theorem follow_eq_move (c : Context) (reference : String) :
    c.follow reference = c.move (.enter reference) >>= fun inner =>
      match c.resolve? reference with
      | some target => .ok (inner, target)
      | none => .error (.unresolvable c.path reference) := by
  rw [follow, move]
  cases foreign? reference with
  | none => rfl
  | some feature => rfl

/-- Compiling a node asks for other nodes in contexts that are one move away. -/
theorem compileNode_eq_moves (c : Context) (node : Json) :
    compileNode c node = compileStep c.path
      (fun segments x => c.move (.descend segments) >>= fun d => compileNode d x)
      (fun reference => c.move (.enter reference) >>= fun d =>
        match c.resolve? reference with
        | some target => compileNode d target
        | none => .error (.unresolvable c.path reference))
      node := by
  rw [compileNode_eq]
  congr 1
  funext reference
  rw [targetOf, follow_eq_move]
  cases c.move (.enter reference) with
  | error e => rfl
  | ok d => cases c.resolve? reference <;> rfl

theorem foreign?_eq_none_iff {reference : String} :
    foreign? reference = none ↔ Pointer.isLocal reference = true := by
  constructor
  · exact isLocal_of_foreign?
  · intro h
    rw [foreign?, if_pos h]

variable {c d : Context}

theorem move_descend_eq_ok_iff {segments : List String} :
    c.move (.descend segments) = .ok d ↔ c.depth < c.limit ∧
      d = { c with path := Pointer.build c.path segments, depth := c.depth + 1 } := by
  constructor
  · exact descend_eq_ok
  · rintro ⟨hl, rfl⟩
    exact if_pos hl

theorem move_enter_eq_ok_iff {reference : String} :
    c.move (.enter reference) = .ok d ↔
      Pointer.isLocal reference = true ∧ reference ∉ c.entered ∧ c.depth < c.limit ∧
        d = { c with
          path := reference, entered := c.entered ++ [reference], depth := c.depth + 1 } := by
  rw [← foreign?_eq_none_iff, move]
  cases hf : foreign? reference with
  | some feature => simp
  | none =>
      simp only [true_and]
      constructor
      · exact enter_eq_ok
      · rintro ⟨hn, hl, rfl⟩
        rw [enter, if_neg (by simpa using hn), if_pos hl]

theorem references_append_descend (moves : List Move) (segments : List String) :
    references (moves ++ [.descend segments]) = references moves := by
  simp [references, Move.reference?]

theorem references_append_enter (moves : List Move) (reference : String) :
    references (moves ++ [.enter reference]) = references moves ++ [reference] := by
  simp [references, Move.reference?]

theorem segmentsSince_append_descend (moves : List Move) (segments : List String) :
    segmentsSince (moves ++ [.descend segments]) = segmentsSince moves ++ segments := by
  simp [segmentsSince]

theorem segmentsSince_append_enter (moves : List Move) (reference : String) :
    segmentsSince (moves ++ [.enter reference]) = [] := by
  simp [segmentsSince]

/-- The context records the moves from the start to it. -/
structure Records (limit : Nat) (moves : List Move) (c : Context) : Prop where
  depth : c.depth = moves.length
  depth_le : c.depth ≤ limit
  nodup : c.entered.Nodup
  entered : c.entered = references moves
  isPath : ∀ reference ∈ c.entered, reference = "#" ∨ "#/".toList <+: reference.toList
  path : c.path = Pointer.build (c.entered.getLastD "#") (segmentsSince moves)

theorem records_start (root : Json) (definitions : Json.Members) (options : Options) :
    Records options.maxDepth [] (.start root definitions options) where
  depth := rfl
  depth_le := Nat.zero_le _
  nodup := List.nodup_nil
  entered := rfl
  isPath := by simp [start]
  path := rfl

theorem Records.move {limit : Nat} {moves : List Move} {m : Move} (h : Records limit moves c)
    (hlimit : c.limit = limit) (hm : c.move m = .ok d) : Records limit (moves ++ [m]) d := by
  subst hlimit
  cases m with
  | descend segments =>
      obtain ⟨hl, rfl⟩ := move_descend_eq_ok_iff.1 hm
      refine ⟨?_, hl, h.nodup, ?_, h.isPath, ?_⟩
      · simp [h.depth]
      · rw [references_append_descend]
        exact h.entered
      · simp only [h.path, segmentsSince_append_descend, Pointer.build, List.foldl_append]
  | enter reference =>
      obtain ⟨hp, hn, hl, rfl⟩ := move_enter_eq_ok_iff.1 hm
      refine ⟨?_, hl, ?_, ?_, ?_, ?_⟩
      · simp [h.depth]
      · refine List.nodup_append.2 ⟨h.nodup, List.nodup_singleton _, fun r hr s hs he => hn ?_⟩
        rwa [← List.mem_singleton.1 hs, ← he]
      · simp only [h.entered, references_append_enter]
      · intro r hr
        rcases List.mem_append.1 hr with hr | hr
        · exact h.isPath r hr
        · rw [List.mem_singleton.1 hr]
          exact Pointer.isLocal_iff.1 hp
      · simp only [segmentsSince_append_enter, List.getLastD_concat]
        rfl

theorem run_append_singleton (c : Context) (moves : List Move) (m : Move) :
    run c (moves ++ [m]) = run c moves >>= fun d => d.move m := by
  rw [run, List.foldlM_append]
  congr
  funext d
  rw [List.foldlM_cons]
  cases d.move m <;> rfl

theorem run_snoc {moves : List Move} (h : run c moves = .ok d) (m : Move) :
    run c (moves ++ [m]) = d.move m := by
  rw [run_append_singleton, h]
  rfl

theorem move_keeps {m : Move} (h : c.move m = .ok d) :
    d.root = c.root ∧ d.definitions = c.definitions ∧ d.limit = c.limit := by
  cases m with
  | descend segments =>
      obtain ⟨-, rfl⟩ := move_descend_eq_ok_iff.1 h
      exact ⟨rfl, rfl, rfl⟩
  | enter reference =>
      obtain ⟨-, -, -, rfl⟩ := move_enter_eq_ok_iff.1 h
      exact ⟨rfl, rfl, rfl⟩

section Runs

variable {root : Json} {definitions : Json.Members} {options : Options} {moves : List Move}

theorem run_keeps (h : run c moves = .ok d) :
    d.root = c.root ∧ d.definitions = c.definitions ∧ d.limit = c.limit := by
  induction moves using List.reverseRecOn generalizing d with
  | nil =>
      cases h
      exact ⟨rfl, rfl, rfl⟩
  | append_singleton rest m ih =>
      rw [run_append_singleton] at h
      obtain ⟨e, he, hm⟩ := bind_eq_ok h
      obtain ⟨hr, hd, hl⟩ := ih he
      obtain ⟨hr', hd', hl'⟩ := move_keeps hm
      exact ⟨hr'.trans hr, hd'.trans hd, hl'.trans hl⟩

theorem records_run (h : run (.start root definitions options) moves = .ok c) :
    Records options.maxDepth moves c := by
  induction moves using List.reverseRecOn generalizing c with
  | nil =>
      cases h
      exact records_start root definitions options
  | append_singleton rest m ih =>
      rw [run_append_singleton] at h
      obtain ⟨e, he, hm⟩ := bind_eq_ok h
      exact (ih he).move (run_keeps he).2.2 hm

theorem depth_lt_of_run (h : run (.start root definitions options) moves = .ok c)
    (hl : moves.length < options.maxDepth) : c.depth < c.limit := by
  rw [(records_run h).depth, (run_keeps h).2.2]
  exact hl

theorem exists_run (hl : moves.length ≤ options.maxDepth) (hn : (references moves).Nodup)
    (hp : ∀ reference ∈ references moves, Pointer.isLocal reference = true) :
    ∃ c, run (.start root definitions options) moves = .ok c := by
  induction moves using List.reverseRecOn with
  | nil => exact ⟨_, rfl⟩
  | append_singleton rest m ih =>
      rw [List.length_append, List.length_singleton] at hl
      cases m with
      | descend segments =>
          rw [references_append_descend] at hn hp
          obtain ⟨c, hc⟩ := ih (by omega) hn hp
          have hd := depth_lt_of_run hc hl
          exact ⟨_, (run_snoc hc _).trans (move_descend_eq_ok_iff.2 ⟨hd, rfl⟩)⟩
      | enter reference =>
          rw [references_append_enter] at hn hp
          obtain ⟨hrest, -, hnew⟩ := List.nodup_append.1 hn
          obtain ⟨c, hc⟩ := ih (by omega) hrest fun r h => hp r (List.mem_append_left _ h)
          have he : reference ∉ c.entered := by
            rw [(records_run hc).entered]
            exact fun h => hnew reference h reference (List.mem_singleton_self _) rfl
          have hlocal := hp reference (List.mem_append_right _ (List.mem_singleton_self _))
          have hd := depth_lt_of_run hc hl
          exact ⟨_, (run_snoc hc _).trans (move_enter_eq_ok_iff.2 ⟨hlocal, he, hd, rfl⟩)⟩

end Runs

theorem Records.unique {limit : Nat} {moves : List Move} (hc : Records limit moves c)
    (hd : Records limit moves d)
    (hk : d.root = c.root ∧ d.definitions = c.definitions ∧ d.limit = c.limit) : d = c := by
  obtain ⟨hroot, hdefinitions, hlimit⟩ := hk
  have hdepth : d.depth = c.depth := hd.depth.trans hc.depth.symm
  have hentered : d.entered = c.entered := hd.entered.trans hc.entered.symm
  have hpath : d.path = c.path := by
    rw [hd.path, hc.path, hentered]
  cases c
  cases d
  simp_all

/-- The moves lead from the start to a context if and only if it records them: its depth is their
number and within the limit, it lists the references that they enter, each a path of the document
and none twice, and its path is made of the last of these and the segments since. -/
theorem run_start_eq_ok_iff (root : Json) (definitions : Json.Members) (options : Options)
    (moves : List Move) (c : Context) :
    run (.start root definitions options) moves = .ok c ↔
      Records options.maxDepth moves c ∧ c.root = root ∧ c.definitions = definitions ∧
        c.limit = options.maxDepth := by
  constructor
  · intro h
    exact ⟨records_run h, run_keeps h⟩
  · rintro ⟨h, hroot, hdefinitions, hlimit⟩
    have hpaths : ∀ r ∈ references moves, Pointer.isLocal r = true :=
      fun r hr => Pointer.isLocal_iff.2 (h.isPath r (h.entered ▸ hr))
    obtain ⟨d, hd⟩ : ∃ d, run (.start root definitions options) moves = .ok d :=
      exists_run (h.depth ▸ h.depth_le) (h.entered ▸ h.nodup) hpaths
    obtain ⟨hr, hdef, hl⟩ := run_keeps hd
    have he := h.unique (records_run hd)
      ⟨hr.trans hroot.symm, hdef.trans hdefinitions.symm, hl.trans hlimit.symm⟩
    rw [hd, he]

end SchemaCheck.Schema.Context
