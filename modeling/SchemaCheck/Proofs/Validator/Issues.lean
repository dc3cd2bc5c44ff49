import Mathlib.Tactic.Tauto
import SchemaCheck.Proofs.Json.Location
import SchemaCheck.Proofs.Validator.Children
import SchemaCheck.Validator.Run

namespace SchemaCheck

/-- The run adds to the log, and nothing but issues of that kind. -/
def Adds (P : Issue → Prop) {α : Type} (r : α × Log) (log : Log) : Prop :=
  ∃ found, r.2 = log ++ found ∧ ∀ i ∈ found, P i

namespace Adds

variable {α β : Type} {P Q : Issue → Prop} {r : α × Log} {log : Log}

theorem nothing (a : α) (log : Log) : Adds P (a, log) log := ⟨[], by simp, by simp⟩

theorem report (a : α) (log : Log) {path : String} {code : IssueCode} {message : String}
    (h : P (.at_ path code message)) : Adds P (a, log.report path code message) log :=
  ⟨[.at_ path code message], rfl, by simpa using h⟩

theorem trans {s : β × Log} (h : Adds P r log) (hs : Adds P s r.2) : Adds P s log := by
  obtain ⟨found, hr, hf⟩ := h
  obtain ⟨more, hm, hg⟩ := hs
  refine ⟨found ++ more, by rw [hm, hr, List.append_assoc], fun i hi => ?_⟩
  rcases List.mem_append.1 hi with hi | hi
  · exact hf i hi
  · exact hg i hi

theorem bind (h : Adds P r log) {k : α → Log → β × Log} (hk : ∀ a log, Adds P (k a log) log) :
    Adds P (k r.1 r.2) log :=
  h.trans (hk r.1 r.2)

theorem map (h : Adds P r log) (f : α → β) : Adds P (f r.1, r.2) log :=
  h.bind fun a log => nothing (f a) log

theorem mono (h : Adds P r log) (hpq : ∀ i, P i → Q i) : Adds Q r log := by
  obtain ⟨found, hr, hf⟩ := h
  exact ⟨found, hr, fun i hi => hpq i (hf i hi)⟩

theorem mem_of_mem (h : Adds P r log) {i : Issue} (hi : i ∈ log) : i ∈ r.2 := by
  obtain ⟨found, hr, -⟩ := h
  exact hr ▸ List.mem_append_left _ hi

theorem mem_iff (h : Adds P r log) {i : Issue} (hi : ¬P i) : i ∈ r.2 ↔ i ∈ log := by
  refine ⟨fun hm => ?_, h.mem_of_mem⟩
  obtain ⟨found, hr, hf⟩ := h
  rw [hr] at hm
  exact (List.mem_append.1 hm).resolve_right fun hm => hi (hf i hm)

end Adds

def missing (path name : String) : Issue := ⟨Pointer.child path name, .required, "Required"⟩

theorem missing_eq (path name : String) :
    Issue.at_ (Pointer.child path name) .required "Required" = missing path name := by
  rw [Issue.at_, Pointer.isEmpty_child, if_neg (by decide), missing]

/-- The issue is about the value at the path, and not about a key that it lacks. -/
inductive Faults (path : String) : Issue → Prop
  | report {code : IssueCode} (h : code ≠ .required) (message : String) :
    Faults path (.at_ path code message)

theorem not_faults_missing (path name : String) : ¬Faults path (missing path name) := by
  intro h
  generalize hi : missing path name = i at h
  cases h with
  | report h message => exact h (congrArg Issue.code hi).symm

theorem checks_add {ρ α β : Type} [Rule ρ α] (hcode : ∀ r : ρ, Rule.code r ≠ .required)
    (checks : List (Check ρ)) (path : String) (x : α) (b : β) (log : Log) :
    Adds (Faults path) (b, log ++ Check.issues checks path x) log := by
  refine ⟨Check.issues checks path x, rfl, fun i hi => ?_⟩
  obtain ⟨c, -, hc⟩ := List.mem_filterMap.1 hi
  rw [Check.issue?] at hc
  split at hc
  · cases hc
  · cases hc
    exact .report (hcode c.rule) _

theorem StringRule.code_ne_required (r : StringRule) : Rule.code r ≠ .required := by
  cases r <;> nofun

theorem NumberRule.code_ne_required (r : NumberRule) : Rule.code r ≠ .required := by
  cases r <;> nofun

theorem ArrayRule.code_ne_required (r : ArrayRule) : Rule.code r ≠ .required := by
  cases r <;> nofun

theorem ObjectRule.code_ne_required (r : ObjectRule) : Rule.code r ≠ .required := by
  cases r <;> nofun

section Lists

variable {P : Issue → Prop} {path : String}

theorem visitItems_adds {visit : Visit} (i : Nat) (items : List Json)
    (hv : ∀ j y, items[j]? = some y → ∀ log,
      Adds P (visit (Pointer.child path (toString (i + j))) y log) log) (log : Log) :
    Adds P (visitItems visit path i items log) log := by
  induction items generalizing i log with
  | nil => exact .nothing [] log
  | cons x rest ih =>
      have hr : ∀ j y, rest[j]? = some y → ∀ log,
          Adds P (visit (Pointer.child path (toString (i + 1 + j))) y log) log := by
        intro j y hj
        rw [Nat.add_right_comm]
        exact hv (j + 1) y hj
      rw [visitItems]
      exact (hv 0 x rfl log).bind fun y log => (ih (i + 1) hr log).bind fun ys log =>
        .nothing (y :: ys) log

theorem visitMembers_adds {visit : Visit} (output members : Json.Members)
    (hv : ∀ m ∈ members, ∀ log, Adds P (visit (Pointer.child path m.1) m.2 log) log) (log : Log) :
    Adds P (visitMembers visit path output members log) log := by
  induction members generalizing output log with
  | nil => exact .nothing output log
  | cons m rest ih =>
      obtain ⟨key, x⟩ := m
      have hr := fun output => ih output fun m hm => hv m (List.mem_cons_of_mem _ hm)
      exact (hv _ (List.mem_cons_self ..) log).bind fun y log => hr (Json.put key y output) log

def AddsBelow (P : Issue → Prop) (path : String) (x : Json) (v : Validator) : Prop :=
  ∀ segment y, Json.PartAt x segment y →
    ∀ log, Adds P (v.run (Pointer.child path segment) y log) log

theorem runPositions_adds {vs : List Validator} (i : Nat) (items : List Json)
    (hv : ∀ v ∈ vs, ∀ j y, items[j]? = some y → ∀ log,
      Adds P (v.run (Pointer.child path (toString (i + j))) y log) log) (log : Log) :
    Adds P (runPositions vs path i items log) log := by
  induction vs generalizing i items log with
  | nil => cases items <;> exact .nothing [] log
  | cons v vs ih =>
      cases items with
      | nil => exact .nothing [] log
      | cons x rest =>
          have hr : ∀ w ∈ vs, ∀ j y, rest[j]? = some y → ∀ log,
              Adds P (w.run (Pointer.child path (toString (i + 1 + j))) y log) log := by
            intro w hw j y hj
            rw [Nat.add_right_comm]
            exact hv w (List.mem_cons_of_mem _ hw) (j + 1) y hj
          rw [runPositions]
          exact (hv v (List.mem_cons_self ..) 0 x rfl log).bind fun y log =>
            (ih (i + 1) rest hr log).bind fun ys log => .nothing (y :: ys) log

theorem runFields_adds {fields : List Field} {members : Json.Members}
    (hv : ∀ f ∈ fields, AddsBelow P path (.object members) f.validator)
    (hm : ∀ name, members.lookup name = none → P (missing path name)) (output : Json.Members)
    (log : Log) : Adds P (runFields fields path members output log) log := by
  induction fields generalizing output log with
  | nil => exact .nothing output log
  | cons f rest ih =>
      obtain ⟨name, required, v⟩ := f
      have hr := ih fun f hf => hv f (List.mem_cons_of_mem _ hf)
      have hf : AddsBelow P path (.object members) v :=
        hv ⟨name, required, v⟩ (List.mem_cons_self ..)
      rw [runFields]
      cases hl : members.lookup name with
      | some x =>
          exact (hf name x (.member (Json.mem_of_lookup hl)) log).bind fun y log =>
            hr (Json.put name y output) log
      | none =>
          cases v.defaultValue with
          | some d => exact hr (Json.put name d output) log
          | none =>
              cases required with
              | false => exact hr output log
              | true =>
                  have hreport : Adds P (output,
                      log.report (Pointer.child path name) .required "Required") log :=
                    .report output log (missing_eq path name ▸ hm name hl)
                  exact hreport.bind fun output log => hr output log

theorem unknown_run_adds {unknown : UnknownKeys} {others : Json.Members}
    (hv : ∀ v ∈ unknown.validators, AddsBelow P path (.object others) v)
    (hu : ∀ i, Faults path i → P i) (output : Json.Members) (log : Log) :
    Adds P (unknown.run path output others log) log := by
  cases unknown with
  | reject =>
      rw [UnknownKeys.run]
      split
      · exact .nothing output log
      · exact .report output log (hu _ (.report (by decide) _))
  | accept => exact .nothing _ log
  | validate v =>
      have hm := hv v (List.mem_singleton_self v)
      exact visitMembers_adds output others (fun m h => hm m.1 m.2 (.member h)) log

theorem runBranches_adds {vs : List Validator} {x : Json}
    (hv : ∀ v ∈ vs, ∀ log, Adds P (v.run path x log) log) (log : Log) :
    Adds P (runBranches vs path x log) log := by
  induction vs generalizing log with
  | nil => exact .nothing [] log
  | cons v vs ih =>
      have hr := ih fun w hw => hv w (List.mem_cons_of_mem _ hw)
      rw [runBranches]
      exact (hv v (List.mem_cons_self ..) log).bind fun y log => (hr log).bind fun ys log =>
        .nothing (y :: ys) log

end Lists

/-- A kind of issues of a value at a path that has all that is reported about the value itself, and
all that its parts have. -/
structure Reportable (P : String → Json → Issue → Prop) : Prop where
  faults {path : String} {x : Json} {i : Issue} (h : Faults path i) : P path x i
  missing {path name : String} {members : Json.Members} (h : members.lookup name = none) :
    P path (.object members) (missing path name)
  part {path segment : String} {x y : Json} {i : Issue} (h : Json.PartAt x segment y)
    (hi : P (Pointer.child path segment) y i) : P path x i

def Validator.AddsOnly (P : String → Json → Issue → Prop) (v : Validator) : Prop :=
  ∀ path x log, Adds (P path x) (v.run path x log) log

theorem Validator.AddsOnly.below {P : String → Json → Issue → Prop} {v : Validator}
    (h : v.AddsOnly P) (hP : Reportable P) (path : String) (x : Json) :
    AddsBelow (P path x) path x v :=
  fun _ y hy log => (h _ y log).mono fun _ => hP.part hy

theorem Reportable.shape_run_adds {P : String → Json → Issue → Prop} (hP : Reportable P)
    {shape : Shape} (hv : ∀ v ∈ shape.validators, v.AddsOnly P) (path : String) (x : Json)
    (log : Log) : Adds (P path x) (shape.run path x log) log := by
  have hreport : ∀ (y : Json) (code : IssueCode) (message : String), code ≠ .required →
      Adds (P path x) (y, log.report path code message) log :=
    fun y code message hc => .report y log (hP.faults (.report hc message))
  have hkeep : ∀ (ok : Bool) (code : IssueCode) (message : String), code ≠ .required →
      Adds (P path x) (if ok then (x, log) else (x, log.report path code message)) log := by
    intro ok code message hc
    cases ok
    · exact hreport x code message hc
    · exact .nothing x log
  have hchecks : ∀ i, Faults path i → P path x i := fun _ => hP.faults
  cases shape with
  | any => exact .nothing x log
  | never => exact hreport x _ _ (by decide)
  | boolean =>
      cases x with
      | bool b => exact .nothing _ log
      | null | number n | string s | array items | object members =>
          exact hreport _ _ _ (by decide)
  | null => exact hkeep x.isNull _ _ (by decide)
  | literal value => exact hkeep (Json.sameValue value x) _ _ (by decide)
  | among values => exact hkeep (x.amongValues values) _ _ (by decide)
  | string checks =>
      cases x with
      | string s => exact (checks_add StringRule.code_ne_required checks path s _ log).mono hchecks
      | null | bool b | number n | array items | object members =>
          exact hreport _ _ _ (by decide)
  | number integer checks =>
      cases x with
      | number n =>
          simp only [Shape.run]
          split
          · exact hreport _ _ _ (by decide)
          · exact (checks_add NumberRule.code_ne_required checks path _ _ log).mono hchecks
      | null | bool b | string s | array items | object members =>
          exact hreport _ _ _ (by decide)
  | array element checks =>
      cases x with
      | array items =>
          have he : AddsBelow (P path (.array items)) path (.array items) element :=
            (hv element (List.mem_singleton_self element)).below hP path (.array items)
          have hitems : ∀ j y, items[j]? = some y → ∀ log, Adds (P path (.array items))
              (element.run (Pointer.child path (toString (0 + j))) y log) log := by
            intro j y hj
            rw [Nat.zero_add]
            exact he _ y (.item hj)
          have hc := checks_add ArrayRule.code_ne_required checks path items () log
          rw [Shape.run]
          exact (hc.mono hchecks).bind fun _ log =>
            (visitItems_adds 0 items hitems log).map Json.array
      | null | bool b | number n | string s | object members => exact hreport _ _ _ (by decide)
  | tuple positions =>
      cases x with
      | array items =>
          have hitems : ∀ v ∈ positions, ∀ j y, items[j]? = some y → ∀ log,
              Adds (P path (.array items))
                (v.run (Pointer.child path (toString (0 + j))) y log) log := by
            intro v hm j y hj
            rw [Nat.zero_add]
            exact (hv v hm).below hP path (.array items) _ y (.item hj)
          simp only [Shape.run]
          split
          · exact (runPositions_adds 0 items hitems log).map Json.array
          · split <;> exact hreport _ _ _ (by decide)
      | null | bool b | number n | string s | object members => exact hreport _ _ _ (by decide)
  | object fields unknown checks =>
      cases x with
      | object members =>
          have hf : ∀ f ∈ fields,
              AddsBelow (P path (.object members)) path (.object members) f.validator := fun f hf =>
            (hv f.validator (List.mem_append_left _ (List.mem_map_of_mem hf))).below hP path _
          have hu : ∀ v ∈ unknown.validators, AddsBelow (P path (.object members)) path
              (.object (members.filter fun m => !Field.hasName fields m.1)) v := by
            intro v hm segment y hy
            cases hy with
            | member hy =>
                exact (hv v (List.mem_append_right _ hm)).below hP path (.object members) segment y
                  (.member (List.mem_filter.1 hy).1)
          rw [Shape.run]
          exact (runFields_adds hf (fun _ => hP.missing) [] log).bind fun output log =>
            (unknown_run_adds hu hchecks output log).bind fun output log =>
              (checks_add ObjectRule.code_ne_required checks path _ _ log).mono hchecks
      | null | bool b | number n | string s | array items => exact hreport _ _ _ (by decide)
  | union alternatives =>
      simp only [Shape.run]
      split
      · exact .nothing _ log
      · exact hreport _ _ _ (by decide)
  | exclusiveUnion alternatives =>
      simp only [Shape.run]
      split
      · exact .nothing _ log
      · exact hreport _ _ _ (by decide)
      · exact hreport _ _ _ (by decide)
  | intersection branches =>
      exact (runBranches_adds (fun v hm log => hv v hm path x log) log).map (mergeOutputs x)

theorem modifiers_add (allowed : Option (List Json)) (excluded : Bool) (path : String)
    (x y : Json) (log : Log) :
    Adds (Faults path)
      (let found := match allowed with
        | some values =>
          if x.amongValues values then log
          else log.report path .invalidEnumValue (enumMessage values)
        | none => log
       if excluded then (y, found.report path .forbidden "Value must not match the excluded schema")
       else (y, found))
      log := by
  have hexcluded : ∀ log : Log, Adds (Faults path)
      (if excluded then (y, log.report path .forbidden "Value must not match the excluded schema")
       else (y, log)) log := by
    intro log
    cases excluded
    · exact .nothing y log
    · exact .report y log (.report (by decide) _)
  cases allowed with
  | none => exact hexcluded log
  | some values =>
      have hallowed : Adds (Faults path)
          (y, if x.amongValues values then log
            else log.report path .invalidEnumValue (enumMessage values)) log := by
        cases x.amongValues values
        · exact .report y log (.report (by decide) _)
        · exact .nothing y log
      exact hallowed.bind fun _ log => hexcluded log

theorem run_adds_to_shape (v : Validator) (path : String) {x : Json}
    (hx : (x.isNull && v.nullable) = false) (log : Log) :
    Adds (Faults path) (v.run path x log) (v.shape.run path x log).2 := by
  obtain ⟨shape, nullable, defaultValue, description, title, allowed, excluded⟩ := v
  have hn : ¬(x.isNull && nullable) = true := by simpa using hx
  simp only [Validator.run, if_neg hn]
  split
  · exact .nothing _ _
  · exact modifiers_add allowed (acceptedBy excluded x) path x _ _

theorem Reportable.run_adds {P : String → Json → Issue → Prop} (hP : Reportable P)
    (v : Validator) : v.AddsOnly P := by
  induction v using Validator.induction with
  | step v ih =>
      intro path x log
      cases hn : x.isNull && v.nullable with
      | true =>
          obtain ⟨shape, nullable, defaultValue, description, title, allowed, excluded⟩ := v
          simp only [Validator.run, if_pos hn]
          exact .nothing _ log
      | false =>
          have hs := hP.shape_run_adds (fun w hw => ih w (List.mem_append_left _ hw)) path x log
          have hm := run_adds_to_shape v path hn log
          exact hs.trans (hm.mono fun i => hP.faults)

def Deeper (path : String) (i : Issue) : Prop := i.code = .required → Pointer.Below path i.path

theorem reportable_deeper : Reportable fun path _ i => Deeper path i where
  faults h := by
    cases h with
    | report h message => exact fun hc => absurd hc h
  missing _ := fun _ => Pointer.below_child ..
  part _ hi := fun hc => (hi hc).of_child

theorem adds_other (v : Validator) (path name segment : String) (x : Json) (log : Log) :
    Adds (· ≠ missing path name) (v.run (Pointer.child path segment) x log) log := by
  refine (reportable_deeper.run_adds v (Pointer.child path segment) x log).mono ?_
  rintro i hi rfl
  exact Pointer.not_below_child path segment name (hi rfl)

def Field.Reports (f : Field) (name : String) : Prop :=
  f.name = name ∧ f.required = true ∧ f.validator.defaultValue = none

theorem mem_runFields_iff {path name : String} {members : Json.Members} (fields : List Field)
    (output : Json.Members) (log : Log) :
    missing path name ∈ (runFields fields path members output log).2 ↔
      missing path name ∈ log ∨ members.lookup name = none ∧ ∃ f ∈ fields, f.Reports name := by
  induction fields generalizing output log with
  | nil => simp [runFields]
  | cons f rest ih =>
      obtain ⟨key, required, v⟩ := f
      have hskip : ¬(members.lookup name = none ∧ Field.Reports ⟨key, required, v⟩ name) →
          ((members.lookup name = none ∧ ∃ f ∈ rest, f.Reports name) ↔
            members.lookup name = none ∧ ∃ f ∈ ⟨key, required, v⟩ :: rest, f.Reports name) := by
        intro hn
        simp only [List.mem_cons, exists_eq_or_imp]
        tauto
      rw [runFields]
      cases hl : members.lookup key with
      | some x =>
          have hv := (adds_other v path name key x log).mem_iff (i := missing path name) (by simp)
          rw [← hskip, ← hv]
          · exact ih _ _
          · rintro ⟨hn, rfl, -⟩
            cases hn.symm.trans hl
      | none =>
          cases hd : v.defaultValue with
          | some d =>
              rw [← hskip]
              · exact ih _ log
              · rintro ⟨-, -, -, hn⟩
                cases hn.symm.trans hd
          | none =>
              cases required with
              | false =>
                  rw [← hskip]
                  · exact ih output log
                  · rintro ⟨-, -, hr, -⟩
                    cases hr
              | true =>
                  refine (ih output _).trans ?_
                  rw [Log.report, missing_eq, List.mem_append, List.mem_singleton]
                  by_cases he : key = name
                  · subst he
                    simp [hl, hd, Field.Reports]
                  · have hne : missing path name ≠ missing path key := fun h =>
                      he (Pointer.child_injective (congrArg Issue.path h)).symm
                    have hno : ¬Field.Reports ⟨key, true, v⟩ name := fun h => he h.1
                    rw [hskip fun h => hno h.2]
                    simp [hne]

/-- An object reports a key as missing exactly if a field without a default demands it. -/
theorem mem_run_object_iff {v : Validator} {fields : List Field} {unknown : UnknownKeys}
    {checks : List (Check ObjectRule)} (hs : v.shape = .object fields unknown checks)
    (path name : String) (members : Json.Members) :
    missing path name ∈ (v.run path (.object members) []).2 ↔
      members.lookup name = none ∧ ∃ f ∈ fields, f.Reports name := by
  have hfault := not_faults_missing path name
  have hmodifiers := (run_adds_to_shape v path (x := .object members) rfl []).mem_iff hfault
  have hunknown : ∀ output others log,
      missing path name ∈ (unknown.run path output others log).2 ↔ missing path name ∈ log :=
    fun output others log => (unknown_run_adds (P := (· ≠ missing path name))
      (fun w _ segment y _ log => adds_other w path name segment y log)
      (fun i hi he => hfault (he ▸ hi)) output log).mem_iff (by simp)
  have hchecks := fun output log => (checks_add ObjectRule.code_ne_required checks path
    members.length (Json.object output) log).mem_iff hfault
  rw [hmodifiers, hs, Shape.run]
  refine (hchecks _ _).trans ((hunknown _ _ _).trans ((mem_runFields_iff fields [] []).trans ?_))
  simp

theorem mem_issues_iff (v : Validator) (x : Json) (i : Issue) :
    (∃ e, v.parse x = .error e ∧ i ∈ e.issues) ↔ i ∈ (v.run "" x []).2 := by
  have hp : v.parse x = if (v.run "" x []).2.isEmpty then .ok (v.run "" x []).1
      else .error ⟨(v.run "" x []).2⟩ := rfl
  rw [hp]
  constructor
  · rintro ⟨e, he, hi⟩
    split at he
    · cases he
    · cases he
      exact hi
  · intro hi
    have hn : (v.run "" x []).2.isEmpty = false :=
      List.isEmpty_eq_false_iff.2 (List.ne_nil_of_mem hi)
    exact ⟨⟨(v.run "" x []).2⟩, by rw [hn, if_neg (by decide)], hi⟩

end SchemaCheck
