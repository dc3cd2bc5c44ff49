import SchemaCheck.Proofs.Validator.Evaluation
import SchemaCheck.Proofs.Validator.Issues

namespace SchemaCheck

def Issue.words (i : Issue) : IssueCode × String := (i.code, i.message)

/-- Whatever the log, both runs return the same and append to it, and they append the same words. -/
def Alike {α : Type} (f g : Log → α × Log) : Prop :=
  ∃ a found other, (∀ log, f log = (a, log ++ found)) ∧ (∀ log, g log = (a, log ++ other)) ∧
    found.map Issue.words = other.map Issue.words

namespace Alike

variable {α β : Type} {f g : Log → α × Log}

theorem nothing (a : α) : Alike (fun log => (a, log)) (fun log => (a, log)) :=
  ⟨a, [], [], by simp, by simp, rfl⟩

theorem report (a : α) (path other : String) (code : IssueCode) (message : String) :
    Alike (fun log => (a, log.report path code message))
      (fun log => (a, log.report other code message)) :=
  ⟨a, [.at_ path code message], [.at_ other code message], fun _ => rfl, fun _ => rfl, rfl⟩

theorem bind (h : Alike f g) {k l : α → Log → β × Log} (hk : ∀ a, Alike (k a) (l a)) :
    Alike (fun log => k (f log).1 (f log).2) (fun log => l (g log).1 (g log).2) := by
  obtain ⟨a, found, other, hf, hg, hw⟩ := h
  obtain ⟨b, more, rest, hkf, hlg, hv⟩ := hk a
  refine ⟨b, found ++ more, other ++ rest, fun log => ?_, fun log => ?_, ?_⟩
  · simp only [hf, hkf, List.append_assoc]
  · simp only [hg, hlg, List.append_assoc]
  · rw [List.map_append, List.map_append, hw, hv]

theorem map (h : Alike f g) (k : α → β) :
    Alike (fun log => (k (f log).1, (f log).2)) (fun log => (k (g log).1, (g log).2)) :=
  h.bind fun a => nothing (k a)

end Alike

theorem alike_checks {ρ α β : Type} [Rule ρ α] (checks : List (Check ρ)) (path other : String)
    (x : α) (b : β) :
    Alike (fun log => (b, log ++ Check.issues checks path x))
      (fun log => (b, log ++ Check.issues checks other x)) := by
  refine ⟨b, _, _, fun _ => rfl, fun _ => rfl, ?_⟩
  rw [Check.issues, Check.issues, List.map_filterMap, List.map_filterMap]
  congr 1
  funext c
  rw [Check.issue?, Check.issue?]
  split <;> rfl

section Lists

variable {visit : Visit} (hv : ∀ path other x, Alike (visit path x) (visit other x))
include hv

theorem visitItems_alike (path other : String) (i : Nat) (items : List Json) :
    Alike (visitItems visit path i items) (visitItems visit other i items) := by
  induction items generalizing i with
  | nil => exact .nothing []
  | cons x rest ih =>
      exact (hv _ _ x).bind fun y => (ih (i + 1)).bind fun ys => .nothing (y :: ys)

theorem visitMembers_alike (path other : String) (output members : Json.Members) :
    Alike (visitMembers visit path output members) (visitMembers visit other output members) := by
  induction members generalizing output with
  | nil => exact .nothing output
  | cons m rest ih =>
      obtain ⟨key, x⟩ := m
      exact (hv _ _ x).bind fun y => ih (Json.put key y output)

end Lists

def Validator.RunsAlike (v : Validator) : Prop :=
  ∀ path other x, Alike (v.run path x) (v.run other x)

theorem runPositions_alike {vs : List Validator} (hv : ∀ v ∈ vs, v.RunsAlike) (path other : String)
    (i : Nat) (items : List Json) :
    Alike (runPositions vs path i items) (runPositions vs other i items) := by
  induction vs generalizing i items with
  | nil => cases items <;> exact .nothing []
  | cons v vs ih =>
      cases items with
      | nil => exact .nothing []
      | cons x rest =>
          have hr := ih (fun w hw => hv w (List.mem_cons_of_mem _ hw)) (i + 1) rest
          exact (hv v (List.mem_cons_self ..) _ _ x).bind fun y => hr.bind fun ys =>
            .nothing (y :: ys)

theorem runFields_alike {fields : List Field} (hv : ∀ f ∈ fields, f.validator.RunsAlike)
    (path other : String) (members output : Json.Members) :
    Alike (runFields fields path members output) (runFields fields other members output) := by
  induction fields generalizing output with
  | nil => exact .nothing output
  | cons f rest ih =>
      obtain ⟨name, required, v⟩ := f
      have hr := ih fun f hf => hv f (List.mem_cons_of_mem _ hf)
      have hf : v.RunsAlike := hv ⟨name, required, v⟩ (List.mem_cons_self ..)
      change Alike (fun log => runFields _ path members output log)
        (fun log => runFields _ other members output log)
      simp only [runFields]
      cases members.lookup name with
      | some x => exact (hf _ _ x).bind fun y => hr (Json.put name y output)
      | none =>
          cases v.defaultValue with
          | some d => exact hr (Json.put name d output)
          | none =>
              cases required with
              | false => exact hr output
              | true => exact (Alike.report output _ _ .required "Required").bind hr

theorem unknown_run_alike {unknown : UnknownKeys} (hv : ∀ v ∈ unknown.validators, v.RunsAlike)
    (path other : String) (output others : Json.Members) :
    Alike (unknown.run path output others) (unknown.run other output others) := by
  cases unknown with
  | reject =>
      change Alike (fun log => UnknownKeys.run .reject path output others log)
        (fun log => UnknownKeys.run .reject other output others log)
      simp only [UnknownKeys.run]
      cases others.isEmpty
      · exact .report output path other _ _
      · exact .nothing output
  | accept => exact .nothing (putAll output others)
  | validate v =>
      exact visitMembers_alike (hv v (List.mem_singleton_self v)) path other output others

theorem runBranches_alike {vs : List Validator} (hv : ∀ v ∈ vs, v.RunsAlike) (path other : String)
    (x : Json) : Alike (runBranches vs path x) (runBranches vs other x) := by
  induction vs with
  | nil => exact .nothing []
  | cons v vs ih =>
      have hr := ih fun w hw => hv w (List.mem_cons_of_mem _ hw)
      exact (hv v (List.mem_cons_self ..) path other x).bind fun y => hr.bind fun ys =>
        .nothing (y :: ys)

theorem shape_run_alike {shape : Shape} (hv : ∀ v ∈ shape.validators, v.RunsAlike)
    (path other : String) (x : Json) : Alike (shape.run path x) (shape.run other x) := by
  change Alike (fun log => shape.run path x log) (fun log => shape.run other x log)
  have hkeep : ∀ (ok : Bool) (code : IssueCode) (message : String),
      Alike (fun log => if ok then (x, log) else (x, log.report path code message))
        (fun log => if ok then (x, log) else (x, log.report other code message)) := by
    intro ok code message
    cases ok
    · exact .report x path other code message
    · exact .nothing x
  cases shape with
  | any => exact .nothing x
  | never => exact .report x path other _ _
  | boolean =>
      cases x with
      | bool b => exact .nothing _
      | null | number n | string s | array items | object members =>
          exact .report _ path other _ _
  | null => exact hkeep x.isNull _ _
  | literal value => exact hkeep (Json.sameValue value x) _ _
  | among values => exact hkeep (x.amongValues values) _ _
  | string checks =>
      cases x with
      | string s => exact alike_checks checks path other s _
      | null | bool b | number n | array items | object members =>
          exact .report _ path other _ _
  | number integer checks =>
      cases x with
      | number n =>
          simp only [Shape.run]
          cases integer && !n.isIntegral
          · exact alike_checks checks path other n.toBinary64 _
          · exact .report _ path other _ _
      | null | bool b | string s | array items | object members =>
          exact .report _ path other _ _
  | array element checks =>
      cases x with
      | array items =>
          have he : element.RunsAlike := hv element (List.mem_singleton_self element)
          exact (alike_checks checks path other items ()).bind fun _ =>
            (visitItems_alike he path other 0 items).map Json.array
      | null | bool b | number n | string s | object members => exact .report _ path other _ _
  | tuple positions =>
      cases x with
      | array items =>
          simp only [Shape.run]
          by_cases hl : items.length = positions.length
          · simp only [if_pos hl]
            exact (runPositions_alike hv path other 0 items).map Json.array
          · simp only [if_neg hl]
            exact .report _ path other _ _
      | null | bool b | number n | string s | object members => exact .report _ path other _ _
  | object fields unknown checks =>
      cases x with
      | object members =>
          have hf : ∀ f ∈ fields, f.validator.RunsAlike := fun f hf =>
            hv f.validator (List.mem_append_left _ (List.mem_map_of_mem hf))
          have hu : ∀ v ∈ unknown.validators, v.RunsAlike := fun v hm =>
            hv v (List.mem_append_right _ hm)
          exact (runFields_alike hf path other members []).bind fun output =>
            (unknown_run_alike hu path other output _).bind fun output =>
              alike_checks checks path other members.length (Json.object output)
      | null | bool b | number n | string s | array items => exact .report _ path other _ _
  | union alternatives =>
      have hu : ∀ path, firstOutput? alternatives path x = evalFirst alternatives x := fun path =>
        firstOutput?_eq_evalFirst (fun v _ => run_agrees v) path x
      simp only [Shape.run, hu]
      cases evalFirst alternatives x with
      | some y => exact .nothing y
      | none => exact .report x path other _ _
  | exclusiveUnion alternatives =>
      have hu : ∀ path, outputs alternatives path x = evalEach alternatives x := fun path =>
        outputs_eq_evalEach (fun v _ => run_agrees v) path x
      simp only [Shape.run, hu]
      rcases evalEach alternatives x with _ | ⟨y, _ | ⟨z, rest⟩⟩
      · exact .report x path other _ _
      · exact .nothing y
      · exact .report x path other _ _
  | intersection branches =>
      exact (runBranches_alike hv path other x).map (mergeOutputs x)

theorem modifiers_alike (allowed : Option (List Json)) (excluded : Bool) (path other : String)
    (x y : Json) :
    Alike
      (fun log =>
        let found := match allowed with
          | some values =>
            if x.amongValues values then log
            else log.report path .invalidEnumValue (enumMessage values)
          | none => log
        if excluded then
          (y, found.report path .forbidden "Value must not match the excluded schema")
        else (y, found))
      (fun log =>
        let found := match allowed with
          | some values =>
            if x.amongValues values then log
            else log.report other .invalidEnumValue (enumMessage values)
          | none => log
        if excluded then
          (y, found.report other .forbidden "Value must not match the excluded schema")
        else (y, found)) := by
  have hexcluded : Alike
      (fun log => if excluded then
        (y, log.report path .forbidden "Value must not match the excluded schema") else (y, log))
      (fun log => if excluded then
        (y, log.report other .forbidden "Value must not match the excluded schema")
        else (y, log)) := by
    cases excluded
    · exact .nothing y
    · exact .report y path other _ _
  cases allowed with
  | none => exact hexcluded
  | some values =>
      have hallowed : Alike
          (fun log => (y, if x.amongValues values then log
            else log.report path .invalidEnumValue (enumMessage values)))
          (fun log => (y, if x.amongValues values then log
            else log.report other .invalidEnumValue (enumMessage values))) := by
        cases x.amongValues values
        · exact .report y path other _ _
        · exact .nothing y
      exact hallowed.bind fun _ => hexcluded

/-- Whether the modifiers are looked at depends on what the shape has added, not on the log. -/
theorem run_alike (v : Validator) : v.RunsAlike := by
  induction v using Validator.induction with
  | step v ih =>
      obtain ⟨shape, nullable, defaultValue, description, title, allowed, excluded⟩ := v
      intro path other x
      obtain ⟨y, found, others, hf, ho, hw⟩ :=
        shape_run_alike (fun w hw => ih w (List.mem_append_left _ hw)) path other x
      change Alike (fun log => Validator.run _ path x log) (fun log => Validator.run _ other x log)
      simp only [Validator.run, hf, ho]
      by_cases hn : (x.isNull && nullable) = true
      · simp only [if_pos hn]
        exact .nothing Json.null
      · simp only [if_neg hn]
        have hlonger : ∀ (log : Log) (i : Issue) (rest : Log),
            log.length < (log ++ i :: rest).length := by simp
        cases found with
        | nil =>
            cases others with
            | nil =>
                simp only [List.append_nil, Nat.lt_irrefl, if_false]
                exact modifiers_alike allowed (acceptedBy excluded x) path other x y
            | cons i rest => cases hw
        | cons i rest =>
            cases others with
            | nil => cases hw
            | cons j more =>
                simp only [if_pos (hlonger _ _ _)]
                exact ⟨y, _, _, fun _ => rfl, fun _ => rfl, hw⟩

/-- The issue stands at the path or below. The empty path is shown as a solidus. -/
def StandsUnder (path : String) (i : Issue) : Prop :=
  (if path.isEmpty then "/" else path).toList <+: i.path.toList

theorem shown_isPrefix_child (path segment : String) :
    (if path.isEmpty then "/" else path).toList <+: (Pointer.child path segment).toList := by
  rw [Pointer.toList_child]
  by_cases hp : path.isEmpty = true
  · rw [if_pos hp, String.isEmpty_iff.1 hp]
    exact List.prefix_append ['/'] _
  · rw [if_neg hp]
    exact List.prefix_append ..

theorem reportable_standsUnder : Reportable fun path _ i => StandsUnder path i where
  faults h := by
    cases h with
    | report h message => exact List.prefix_refl _
  missing {path name _} _ := shown_isPrefix_child path name
  part {path segment _ _ i} _ hi := by
    rw [StandsUnder, Pointer.isEmpty_child, if_neg (by decide)] at hi
    exact (shown_isPrefix_child path segment).trans hi

/-- A run appends to the log what it would find from an empty one. Neither its value nor the words
of these issues depend on the path, at or below which all of them stand. -/
theorem run_appends (v : Validator) (path : String) (x : Json) (log : Log) :
    v.run path x log = ((v.run path x []).1, log ++ (v.run path x []).2) ∧
      (∀ other, (v.run other x []).1 = (v.run path x []).1 ∧
        (v.run other x []).2.map Issue.words = (v.run path x []).2.map Issue.words) ∧
      ∀ i ∈ (v.run path x []).2,
        (if path.isEmpty then "/" else path).toList <+: i.path.toList := by
  refine ⟨?_, fun other => ?_, fun i hi => ?_⟩
  · obtain ⟨y, found, -, hf, -, -⟩ := run_alike v path path x
    rw [hf, hf [], List.nil_append]
  · obtain ⟨y, found, others, ho, hf, hw⟩ := run_alike v other path x
    rw [ho, hf]
    exact ⟨rfl, hw⟩
  · obtain ⟨found, hr, hfound⟩ := reportable_standsUnder.run_adds v path x []
    rw [hr, List.nil_append] at hi
    exact hfound i hi

end SchemaCheck
