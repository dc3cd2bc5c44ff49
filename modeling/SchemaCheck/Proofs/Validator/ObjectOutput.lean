import Mathlib.Data.List.Nodup
import SchemaCheck.Proofs.Json.DistinctKeys
import SchemaCheck.Proofs.Validator.Acceptance
import SchemaCheck.Proofs.Validator.Defaults

namespace SchemaCheck

open Json (Members Sorted put)

/-- What the field makes of the members: the value under its name as it comes out, or its
default. -/
def Field.output (f : Field) (members : Members) : Option Json :=
  match members.lookup f.name with
  | some x => f.validator.eval x
  | none => f.validator.defaultValue

def UnknownKeys.output : UnknownKeys → Json → Option Json
  | .reject, _ => none
  | .accept, x => some x
  | .validate v, x => v.eval x

def outputAt (fields : List Field) (unknown : UnknownKeys) (members : Members) (key : String) :
    Option Json :=
  match fields.find? (·.name = key) with
  | some f => f.output members
  | none => (members.lookup key).bind unknown.output

section Names

variable {fields : List Field} {key : String}

theorem hasName_eq_false_iff :
    Field.hasName fields key = false ↔ fields.find? (·.name = key) = none := by
  rw [List.find?_eq_none, Field.hasName, List.any_eq_false]

theorem find?_of_mem (hd : (fields.map (·.name)).Nodup) {f : Field} (hf : f ∈ fields) :
    fields.find? (·.name = f.name) = some f := by
  have hs : (fields.find? (·.name = f.name)).isSome = true :=
    List.find?_isSome.2 ⟨f, hf, by simp⟩
  obtain ⟨g, hg⟩ := Option.isSome_iff_exists.1 hs
  have hn : g.name = f.name := by simpa using List.find?_some hg
  rw [hg, List.inj_on_of_nodup_map hd (List.mem_of_find?_eq_some hg) hf hn]

end Names

theorem lookup_evalFields {fields : List Field} (hd : (fields.map (·.name)).Nodup)
    {members output output' : Members} (ho : Sorted output)
    (h : evalFields fields members output = some output') :
    Sorted output' ∧ ∀ key, output'.lookup key = match fields.find? (·.name = key) with
      | some f => (f.output members).or (output.lookup key)
      | none => output.lookup key := by
  induction fields generalizing output with
  | nil =>
      cases h
      exact ⟨ho, fun key => rfl⟩
  | cons f rest ih =>
      obtain ⟨name, required, v⟩ := f
      obtain ⟨hn, hrest⟩ := List.nodup_cons.1 hd
      have hlater : rest.find? (·.name = name) = none := by
        rw [List.find?_eq_none]
        intro g hg he
        exact hn (List.mem_map.2 ⟨g, hg, by simpa using he⟩)
      -- what is put under the name stays there, since no later field has that name
      have hput : ∀ {y : Json}, (Field.mk name required v).output members = some y →
          evalFields rest members (put name y output) = some output' →
          Sorted output' ∧ ∀ key, output'.lookup key =
            match (Field.mk name required v :: rest).find? (·.name = key) with
            | some f => (f.output members).or (output.lookup key)
            | none => output.lookup key := by
        intro y hy h
        obtain ⟨hs, hl⟩ := ih hrest (ho.put name y) h
        refine ⟨hs, fun key => ?_⟩
        rw [hl, List.find?_cons]
        by_cases he : name = key
        · subst he
          simp [hlater, hy, Json.lookup_put_self]
        · simp [he, Json.lookup_put_of_ne (Ne.symm he)]
      rw [evalFields] at h
      cases hl : members.lookup name with
      | some x =>
          rw [hl] at h
          obtain ⟨y, hy, h⟩ := Option.bind_eq_some_iff.1 h
          exact hput (by simp [Field.output, hl, hy]) h
      | none =>
          rw [hl] at h
          cases hv : v.defaultValue with
          | some d =>
              simp only [hv] at h
              exact hput (by simp [Field.output, hl, hv]) h
          | none =>
              simp only [hv] at h
              split at h
              next => cases h
              next =>
                obtain ⟨hs, hkey⟩ := ih hrest ho h
                refine ⟨hs, fun key => ?_⟩
                rw [hkey, List.find?_cons]
                by_cases he : name = key
                · subst he
                  simp [hlater, Field.output, hl, hv]
                · simp [he]

theorem lookup_evalMembers {eval : Json → Option Json} {others : Members}
    (hd : (Json.keys others).Nodup) {output output' : Members} (ho : Sorted output)
    (h : evalMembers eval output others = some output') :
    Sorted output' ∧ ∀ key,
      output'.lookup key = ((others.lookup key).bind eval).or (output.lookup key) := by
  induction others generalizing output with
  | nil =>
      cases h
      exact ⟨ho, fun key => rfl⟩
  | cons m rest ih =>
      obtain ⟨k, x⟩ := m
      obtain ⟨hk, hrest⟩ := List.nodup_cons.1 hd
      obtain ⟨y, hy, h⟩ := Option.bind_eq_some_iff.1 h
      obtain ⟨hs, hl⟩ := ih hrest (ho.put k y) h
      refine ⟨hs, fun key => ?_⟩
      rw [hl, List.lookup_cons]
      by_cases he : key = k
      · subst he
        have hnone : rest.lookup key = none := by
          refine Option.eq_none_iff_forall_ne_some.2 fun z hz => ?_
          exact hk (Json.mem_keys.2 ⟨z, hz⟩)
        simp [hnone, hy, Json.lookup_put_self]
      · rw [beq_eq_false_iff_ne.2 he, Json.lookup_put_of_ne he]

theorem lookup_unknown_eval {unknown : UnknownKeys} {others : Members}
    (hd : (Json.keys others).Nodup) {output output' : Members} (ho : Sorted output)
    (h : unknown.eval output others = some output') :
    Sorted output' ∧ ∀ key,
      output'.lookup key = ((others.lookup key).bind unknown.output).or (output.lookup key) := by
  cases unknown with
  | reject =>
      cases others with
      | nil =>
          cases h
          exact ⟨ho, fun key => rfl⟩
      | cons m rest => cases h
  | accept =>
      rw [UnknownKeys.eval, ← evalMembers_some] at h
      exact lookup_evalMembers hd ho h
  | validate v => exact lookup_evalMembers hd ho h

theorem unknown_accepts_iff_output {unknown : UnknownKeys} {others : Members} :
    unknown.Accepts others ↔ ∀ m ∈ others, (unknown.output m.2).isSome = true := by
  cases unknown with
  | reject =>
      constructor
      · rintro rfl
        exact List.forall_mem_nil _
      · intro h
        refine List.eq_nil_iff_forall_not_mem.2 fun m hm => ?_
        cases h m hm
  | accept => exact iff_of_true trivial fun _ _ => rfl
  | validate v => exact Iff.rfl

section Object

variable {fields : List Field} {unknown : UnknownKeys} {checks : List (Check ObjectRule)}
variable {members : Members}

theorem eval_object_eq_some (hd : (fields.map (·.name)).Nodup) (hm : (Json.keys members).Nodup)
    {y : Json} (h : (Shape.object fields unknown checks).eval (.object members) = some y) :
    ∃ output, y = .object output ∧ Sorted output ∧
      ∀ key, output.lookup key = outputAt fields unknown members key := by
  obtain ⟨named, hnamed, h⟩ := Option.bind_eq_some_iff.1 h
  obtain ⟨output, hothers, h⟩ := Option.bind_eq_some_iff.1 h
  obtain ⟨hs, hn⟩ := lookup_evalFields hd (show Sorted [] from .nil) hnamed
  have hk : (Json.keys (members.filter fun m => !Field.hasName fields m.1)).Nodup :=
    (List.filter_sublist.map _).nodup hm
  obtain ⟨hs', ho⟩ := lookup_unknown_eval hk hs hothers
  refine ⟨output, (keepIf_eq_some h).symm, hs', fun key => ?_⟩
  rw [ho, hn, Json.lookup_filter (!Field.hasName fields ·), outputAt]
  cases hf : fields.find? (·.name = key) with
  | some f =>
      have hname : Field.hasName fields key = true := by
        rw [← Bool.not_eq_false, hasName_eq_false_iff, hf]
        exact nofun
      simp [hname]
  | none => simp [hasName_eq_false_iff.2 hf]

end Object

end SchemaCheck
