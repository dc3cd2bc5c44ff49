import SchemaCheck.Proofs.Json.Nesting
import SchemaCheck.Proofs.Schema.Result

namespace SchemaCheck.Schema

namespace Context

variable {c d : Context} {reference : String} {e : Error}

theorem descend_eq_ok {segments : List String} (h : c.descend segments = .ok d) :
    c.depth < c.limit ∧
      d = { c with path := Pointer.build c.path segments, depth := c.depth + 1 } := by
  rw [descend] at h
  split at h
  next hl =>
    cases h
    exact ⟨hl, rfl⟩
  next => cases h

theorem descend_eq_error {segments : List String} (h : c.descend segments = .error e) :
    c.limit ≤ c.depth ∧ e = .tooDeep (Pointer.build c.path segments) c.limit := by
  rw [descend] at h
  split at h
  next => cases h
  next hl =>
    cases h
    exact ⟨Nat.le_of_not_lt hl, rfl⟩

theorem enter_eq_ok (h : c.enter reference = .ok d) :
    reference ∉ c.entered ∧ c.depth < c.limit ∧
      d = { c with
        path := reference, entered := c.entered ++ [reference], depth := c.depth + 1 } := by
  rw [enter] at h
  split at h
  next => cases h
  next hn =>
    split at h
    next hl =>
      cases h
      exact ⟨by simpa using hn, hl, rfl⟩
    next => cases h

theorem enter_eq_error (h : c.enter reference = .error e) :
    (reference ∈ c.entered ∧ e = .cycle c.path reference) ∨
      (c.limit ≤ c.depth ∧ e = .tooDeep c.path c.limit) := by
  rw [enter] at h
  split at h
  next hm =>
    cases h
    exact .inl ⟨by simpa using hm, rfl⟩
  next =>
    split at h
    next => cases h
    next hl =>
      cases h
      exact .inr ⟨Nat.le_of_not_lt hl, rfl⟩

theorem resolve?_of_definitions (h : c.definitions = []) :
    c.resolve? reference = Pointer.resolve? c.root reference := by
  have hnone : c.definition? reference = none := by
    rw [definition?, h]
    split
    · split <;> rfl
    · rfl
  rw [resolve?, hnone, Option.or_none]

def target? (c : Context) (reference : String) : Option Json :=
  if Pointer.isLocal reference then c.resolve? reference else none

theorem target?_congr (hr : d.root = c.root) (hd : d.definitions = c.definitions) :
    d.target? = c.target? := by
  funext reference
  simp only [target?, resolve?, definition?, hr, hd]

theorem target?_of_descend {segments : List String} (h : c.descend segments = .ok d) :
    d.target? = c.target? := by
  obtain ⟨-, rfl⟩ := descend_eq_ok h
  exact target?_congr rfl rfl

theorem target?_of_enter (h : c.enter reference = .ok d) : d.target? = c.target? := by
  obtain ⟨-, -, rfl⟩ := enter_eq_ok h
  exact target?_congr rfl rfl

theorem isLocal_of_foreign? (h : foreign? reference = none) :
    Pointer.isLocal reference = true := by
  by_cases hl : Pointer.isLocal reference = true
  · exact hl
  · rw [foreign?, if_neg hl] at h
    split at h
    · cases h
    · split at h <;> cases h

theorem follow_eq_ok {target : Json} (h : c.follow reference = .ok (d, target)) :
    c.enter reference = .ok d ∧ c.target? reference = some target := by
  obtain ⟨he, hr⟩ := enter_of_follow h
  refine ⟨he, ?_⟩
  rw [follow] at h
  split at h
  next => cases h
  next hf => rw [target?, if_pos (isLocal_of_foreign? hf), hr]

theorem follow_eq_error (h : c.follow reference = .error e) :
    (∃ feature, foreign? reference = some feature ∧ e = .unsupported c.path feature) ∨
      c.enter reference = .error e ∨
      (c.resolve? reference = none ∧ e = .unresolvable c.path reference) := by
  rw [follow] at h
  split at h
  next feature hf =>
    cases h
    exact .inl ⟨feature, hf, rfl⟩
  next =>
    cases he : c.enter reference with
    | error e' =>
        rw [he] at h
        cases h
        exact .inr (.inl rfl)
    | ok d =>
        rw [he] at h
        cases hr : c.resolve? reference with
        | some target => simp [hr, bind, Except.bind] at h
        | none =>
            simp only [hr, bind, Except.bind, Except.error.injEq] at h
            exact .inr (.inr ⟨rfl, h.symm⟩)

theorem path_of_follow_error (h : c.follow reference = .error e) : e.path = c.path := by
  rcases follow_eq_error h with ⟨feature, -, rfl⟩ | h | ⟨-, rfl⟩
  · rfl
  · rcases enter_eq_error h with ⟨-, rfl⟩ | ⟨-, rfl⟩ <;> rfl
  · rfl

theorem code_of_follow_error (h : c.follow reference = .error e) : e.code ≠ .malformedNode := by
  rcases follow_eq_error h with ⟨feature, -, rfl⟩ | h | ⟨-, rfl⟩
  · nofun
  · rcases enter_eq_error h with ⟨-, rfl⟩ | ⟨-, rfl⟩ <;> nofun
  · nofun

theorem isLocal_of_follow {target : Json} (h : c.follow reference = .ok (d, target)) :
    Pointer.isLocal d.path = true := by
  obtain ⟨he, ht⟩ := follow_eq_ok h
  obtain ⟨-, -, rfl⟩ := enter_eq_ok he
  rw [target?] at ht
  split at ht
  next hl => exact hl
  next => cases ht

theorem of_resolve? {Good : Json → Prop}
    (hp : ∀ {x y : Json}, Json.Part x y → Good y → Good x) {c : Context} (hroot : Good c.root)
    (hd : ∀ m ∈ c.definitions, Good m.2) {x : Json} (h : c.resolve? reference = some x) :
    Good x := by
  rw [resolve?] at h
  cases hr : Pointer.resolve? c.root reference with
  | some y =>
      rw [hr, Option.some_or] at h
      cases h
      exact Json.of_resolve? hp hr hroot
  | none =>
      rw [hr, Option.none_or] at h
      rw [definition?] at h
      split at h
      · split at h
        · exact hd _ (Json.mem_of_lookup h)
        · cases h
      · cases h

end Context

theorem exists_descend {c : Context} (h : 0 < c.levelsLeft) (segments : List String) :
    ∃ d, c.descend segments = .ok d ∧ d.levelsLeft + 1 = c.levelsLeft := by
  have hd : c.depth < c.limit := by
    rw [Context.levelsLeft] at h
    omega
  refine ⟨_, if_pos hd, ?_⟩
  simp only [Context.levelsLeft]
  omega

theorem childOf_of_levels {c : Context} {n : Nat} (h : n < c.levelsLeft) {x : Json}
    {P : Validator → Prop}
    (hx : ∀ d : Context, n ≤ d.levelsLeft → ∃ u, compileNode d x = .ok u ∧ P u)
    (segments : List String) : ∃ u, childOf c segments x = .ok u ∧ P u := by
  obtain ⟨d, hd, hl⟩ := exists_descend (Nat.zero_lt_of_lt h) segments
  obtain ⟨u, hu, hP⟩ := hx d (by omega)
  refine ⟨u, ?_, hP⟩
  rw [childOf, hd]
  exact hu

end SchemaCheck.Schema
