import SchemaCheck.Proofs.Json.Members
import SchemaCheck.Proofs.Validator.Children
import SchemaCheck.Validator.Run

namespace SchemaCheck

def keepIf {α : Type} (ok : Bool) (a : α) : Option α := if ok then some a else none

def Check.allHold {ρ α : Type} [Rule ρ α] (checks : List (Check ρ)) (x : α) : Bool :=
  checks.all (·.holds x)

def allows : Option (List Json) → Json → Bool
  | none, _ => true
  | some values, x => x.amongValues values

/-- The only output of a list, if it has exactly one. -/
def only? : List Json → Option Json
  | [y] => some y
  | _ => none

def evalMembers (eval : Json → Option Json) : Json.Members → Json.Members → Option Json.Members
  | output, [] => some output
  | output, (key, x) :: rest => (eval x).bind fun y => evalMembers eval (Json.put key y output) rest

mutual

def Validator.eval : Validator → Json → Option Json
  | ⟨shape, nullable, _, _, _, allowed, excluded⟩, x =>
    if x.isNull && nullable then some .null
    else (shape.eval x).bind fun y => keepIf (allows allowed x && !excludes excluded x) y

def excludes : Option Validator → Json → Bool
  | none, _ => false
  | some v, x => (v.eval x).isSome

def Shape.eval : Shape → Json → Option Json
  | .any, x => some x
  | .never, _ => none
  | .boolean, x =>
    match x with
    | .bool _ => some x
    | _ => none
  | .null, x => keepIf x.isNull x
  | .literal value, x => keepIf (Json.sameValue value x) x
  | .among values, x => keepIf (x.amongValues values) x
  | .string checks, x =>
    match x with
    | .string s => keepIf (Check.allHold checks s) x
    | _ => none
  | .number integer checks, x =>
    match x with
    | .number n => keepIf ((!integer || n.isIntegral) && Check.allHold checks n.toBinary64) x
    | _ => none
  | .array element checks, x =>
    match x with
    | .array items => (keepIf (Check.allHold checks items) ()).bind fun _ =>
      (items.mapM element.eval).map .array
    | _ => none
  | .tuple positions, x =>
    match x with
    | .array items => (evalPositions positions items).map .array
    | _ => none
  | .object fields unknown checks, x =>
    match x with
    | .object members =>
      (evalFields fields members []).bind fun output =>
        (unknown.eval output (members.filter fun m => !Field.hasName fields m.1)).bind fun output =>
          keepIf (Check.allHold checks members.length) (.object output)
    | _ => none
  | .union alternatives, x => evalFirst alternatives x
  | .exclusiveUnion alternatives, x => only? (evalEach alternatives x)
  | .intersection branches, x => (evalAll branches x).map (mergeOutputs x)

/-- As many items as positions, each accepted at its own. -/
def evalPositions : List Validator → List Json → Option (List Json)
  | [], [] => some []
  | v :: vs, x :: rest =>
    (v.eval x).bind fun y => (evalPositions vs rest).bind fun ys => some (y :: ys)
  | _, _ => none

def evalFields : List Field → Json.Members → Json.Members → Option Json.Members
  | [], _, output => some output
  | ⟨name, required, v⟩ :: rest, members, output =>
    match members.lookup name with
    | some x => (v.eval x).bind fun y => evalFields rest members (Json.put name y output)
    | none =>
      match v.defaultValue with
      | some d => evalFields rest members (Json.put name d output)
      | none => if required then none else evalFields rest members output

def UnknownKeys.eval : UnknownKeys → Json.Members → Json.Members → Option Json.Members
  | .reject, output, others => keepIf others.isEmpty output
  | .accept, output, others => some (putAll output others)
  | .validate v, output, others => evalMembers v.eval output others

def evalFirst : List Validator → Json → Option Json
  | [], _ => none
  | v :: rest, x => (v.eval x).or (evalFirst rest x)

def evalEach : List Validator → Json → List Json
  | [], _ => []
  | v :: rest, x => (v.eval x).toList ++ evalEach rest x

/-- What the branches make of the value, if all accept it. -/
def evalAll : List Validator → Json → Option (List Json)
  | [], _ => some []
  | v :: rest, x => (v.eval x).bind fun y => (evalAll rest x).bind fun ys => some (y :: ys)

end

theorem lookup_putMissing (output members : Json.Members) (key : String) :
    (putMissing output members).lookup key = (output.lookup key).or (members.lookup key) := by
  induction members generalizing output with
  | nil => simp [putMissing]
  | cons m rest ih =>
      obtain ⟨k, x⟩ := m
      rw [putMissing, List.foldl_cons, ← putMissing, ih, List.lookup_cons]
      by_cases hk : key = k
      · subst hk
        rw [beq_self_eq_true]
        cases h : output.lookup key with
        | some y => simp [Json.hasKey, h]
        | none => simp [Json.hasKey, h, Json.lookup_put_self]
      · rw [beq_eq_false_iff_ne.2 hk]
        split
        · rfl
        · rw [Json.lookup_put_of_ne hk]

theorem mergeOutputs_object (x : Json) (first : Json.Members) (rest : List Json) :
    ∃ output, mergeOutputs x (.object first :: rest) = .object output ∧
      ∀ key, output.lookup key =
        (first :: rest.filterMap Json.object?).findSome? fun members => members.lookup key := by
  rw [mergeOutputs]
  induction rest generalizing first with
  | nil => exact ⟨first, rfl, fun key => by simp⟩
  | cons y rest ih =>
      rw [List.foldl_cons]
      cases y with
      | object next =>
          obtain ⟨output, ho, hl⟩ := ih (putMissing first next)
          refine ⟨output, ho, fun key => ?_⟩
          rw [hl, List.findSome?_cons, lookup_putMissing]
          cases h : first.lookup key with
          | some z => simp [h]
          | none => simp [h, Json.object?, List.findSome?_cons]
      | null | bool b | number n | string s | array items => exact ih first

theorem mergeOutputs_of_not_object (x : Json) {y : Json} (h : ∀ members, y ≠ .object members)
    (rest : List Json) : mergeOutputs x (y :: rest) = y := by
  rw [mergeOutputs]
  induction rest with
  | nil => rfl
  | cons z rest ih =>
      have hy : mergeOutput y z = y := by
        cases y with
        | object members => exact absurd rfl (h members)
        | null | bool b | number n | string s | array items => rfl
      rw [List.foldl_cons, hy, ih]

/-- A run that starts from `log` and is worth `o`. -/
def Agrees {α : Type} (r : α × Log) (log : Log) : Option α → Prop
  | some a => r = (a, log)
  | none => log.length < r.2.length

namespace Agrees

variable {α β : Type} {r : α × Log} {log : Log} {o : Option α}

theorem ok (a : α) (log : Log) : Agrees (a, log) log (some a) := rfl

theorem length_le (h : Agrees r log o) : log.length ≤ r.2.length := by
  cases o with
  | none => exact Nat.le_of_lt h
  | some a => exact Nat.le_of_eq (congrArg (·.2.length) (show r = (a, log) from h).symm)

theorem bind (h : Agrees r log o) {k : α → Log → β × Log} {f : α → Option β}
    (hk : ∀ a log, Agrees (k a log) log (f a)) : Agrees (k r.1 r.2) log (o.bind f) := by
  cases o with
  | none => exact Nat.lt_of_lt_of_le h (hk r.1 r.2).length_le
  | some a =>
      rw [show r = (a, log) from h]
      exact hk a log

theorem map (h : Agrees r log o) (f : α → β) : Agrees (f r.1, r.2) log (o.map f) := by
  rw [Option.map_eq_bind]
  exact h.bind fun a log => ok (f a) log

end Agrees

theorem Log.length_report (log : Log) (path : String) (code : IssueCode) (message : String) :
    log.length < (log.report path code message).length := by
  simp [Log.report]

theorem agrees_report {α : Type} (a : α) (log : Log) (path : String) (code : IssueCode)
    (message : String) : Agrees (a, log.report path code message) log none :=
  log.length_report path code message

theorem agrees_keepIf {α : Type} (ok : Bool) (a : α) (log : Log) (path : String)
    (code : IssueCode) (message : String) :
    Agrees (if ok then (a, log) else (a, log.report path code message)) log (keepIf ok a) := by
  cases ok
  · exact agrees_report a log path code message
  · exact Agrees.ok a log

theorem agrees_checks {ρ α β : Type} [Rule ρ α] (checks : List (Check ρ)) (path : String) (x : α)
    (b : β) (log : Log) :
    Agrees (b, log ++ Check.issues checks path x) log (keepIf (Check.allHold checks x) b) := by
  cases h : Check.allHold checks x with
  | true =>
      have hn : Check.issues checks path x = [] :=
        (Check.issues_eq_nil_iff checks path x).2 (List.all_eq_true.1 h)
      rw [hn, List.append_nil]
      exact Agrees.ok b log
  | false =>
      have hn : Check.issues checks path x ≠ [] := by
        intro hn
        have := List.all_eq_true.2 ((Check.issues_eq_nil_iff checks path x).1 hn)
        simp [Check.allHold, this] at h
      have := List.length_pos_iff.2 hn
      simp only [Agrees, keepIf, Bool.false_eq_true, if_false, List.length_append]
      omega

theorem visitItems_agrees {visit : Visit} {eval : Json → Option Json}
    (hv : ∀ path x log, Agrees (visit path x log) log (eval x)) (path : String) (i : Nat)
    (items : List Json) (log : Log) :
    Agrees (visitItems visit path i items log) log (items.mapM eval) := by
  induction items generalizing i log with
  | nil => exact Agrees.ok [] log
  | cons x rest ih =>
      rw [visitItems, List.mapM_cons]
      exact (hv _ x log).bind fun y log => (ih (i + 1) log).bind fun ys log =>
        Agrees.ok (y :: ys) log

theorem visitMembers_agrees {visit : Visit} {eval : Json → Option Json}
    (hv : ∀ path x log, Agrees (visit path x log) log (eval x)) (path : String)
    (output members : Json.Members) (log : Log) :
    Agrees (visitMembers visit path output members log) log (evalMembers eval output members) := by
  induction members generalizing output log with
  | nil => exact Agrees.ok output log
  | cons m rest ih =>
      obtain ⟨key, x⟩ := m
      exact (hv _ x log).bind fun y log => ih (Json.put key y output) log

def Validator.RunAgrees (v : Validator) : Prop :=
  ∀ path x log, Agrees (v.run path x log) log (v.eval x)

theorem runPositions_agrees {vs : List Validator} (hv : ∀ v ∈ vs, v.RunAgrees) (path : String)
    (i : Nat) {items : List Json} (hl : items.length = vs.length) (log : Log) :
    Agrees (runPositions vs path i items log) log (evalPositions vs items) := by
  induction vs generalizing i items log with
  | nil =>
      cases items with
      | nil => exact Agrees.ok [] log
      | cons x rest => simp at hl
  | cons v vs ih =>
      cases items with
      | nil => simp at hl
      | cons x rest =>
          have hl : rest.length = vs.length := by simpa using hl
          have hr := ih (fun w hw => hv w (by simp [hw])) (i + 1) hl
          rw [runPositions, evalPositions]
          exact (hv v (by simp) _ x log).bind fun y log => (hr log).bind fun ys log =>
            Agrees.ok (y :: ys) log

theorem evalPositions_of_length_ne {vs : List Validator} {items : List Json}
    (hl : items.length ≠ vs.length) : evalPositions vs items = none := by
  induction vs generalizing items with
  | nil =>
      cases items with
      | nil => simp at hl
      | cons x rest => rfl
  | cons v vs ih =>
      cases items with
      | nil => rfl
      | cons x rest =>
          have hl : rest.length ≠ vs.length := by simpa using hl
          simp [evalPositions, ih hl]

theorem runFields_agrees {fields : List Field} (hv : ∀ f ∈ fields, f.validator.RunAgrees)
    (path : String) (members output : Json.Members) (log : Log) :
    Agrees (runFields fields path members output log) log (evalFields fields members output) := by
  induction fields generalizing output log with
  | nil => exact Agrees.ok output log
  | cons f rest ih =>
      obtain ⟨name, required, v⟩ := f
      have hr := ih fun f hf => hv f (by simp [hf])
      simp only [runFields, evalFields]
      cases members.lookup name with
      | some x =>
          have hm := hv ⟨name, required, v⟩ (by simp)
          exact (hm _ x log).bind fun y log => hr (Json.put name y output) log
      | none =>
          cases v.defaultValue with
          | some d => exact hr (Json.put name d output) log
          | none =>
              cases required with
              | false => exact hr output log
              | true =>
                  have hl := log.length_report (Pointer.child path name) .required "Required"
                  exact Nat.lt_of_lt_of_le hl (hr output _).length_le

theorem unknown_run_agrees {unknown : UnknownKeys} (hv : ∀ v ∈ unknown.validators, v.RunAgrees)
    (path : String) (output others : Json.Members) (log : Log) :
    Agrees (unknown.run path output others log) log (unknown.eval output others) := by
  cases unknown with
  | reject => exact agrees_keepIf others.isEmpty output log path _ _
  | accept => exact Agrees.ok (putAll output others) log
  | validate v =>
      exact visitMembers_agrees (hv v (by simp [UnknownKeys.validators])) path output others log

theorem runBranches_agrees {vs : List Validator} (hv : ∀ v ∈ vs, v.RunAgrees) (path : String)
    (x : Json) (log : Log) : Agrees (runBranches vs path x log) log (evalAll vs x) := by
  induction vs generalizing log with
  | nil => exact Agrees.ok [] log
  | cons v vs ih =>
      have hr := ih fun w hw => hv w (by simp [hw])
      rw [runBranches, evalAll]
      exact (hv v (by simp) path x log).bind fun y log => (hr log).bind fun ys log =>
        Agrees.ok (y :: ys) log

theorem eval_of_isEmpty {v : Validator} (hv : v.RunAgrees) (path : String) (x : Json) :
    v.eval x = if (v.run path x []).2.isEmpty then some (v.run path x []).1 else none := by
  have h := hv path x []
  cases he : v.eval x with
  | some y =>
      rw [he] at h
      rw [show v.run path x [] = (y, []) from h]
      rfl
  | none =>
      rw [he] at h
      have hn : (v.run path x []).2 ≠ [] := List.length_pos_iff.1 h
      rw [if_neg (by simpa using hn)]

theorem firstOutput?_eq_evalFirst {vs : List Validator} (hv : ∀ v ∈ vs, v.RunAgrees)
    (path : String) (x : Json) : firstOutput? vs path x = evalFirst vs x := by
  induction vs with
  | nil => rfl
  | cons v vs ih =>
      rw [firstOutput?, evalFirst, ih fun w hw => hv w (by simp [hw]),
        eval_of_isEmpty (hv v (by simp)) path x]
      rcases v.run path x [] with ⟨y, found⟩
      cases found <;> rfl

theorem outputs_eq_evalEach {vs : List Validator} (hv : ∀ v ∈ vs, v.RunAgrees)
    (path : String) (x : Json) : outputs vs path x = evalEach vs x := by
  induction vs with
  | nil => rfl
  | cons v vs ih =>
      rw [outputs, evalEach, ih fun w hw => hv w (by simp [hw]),
        eval_of_isEmpty (hv v (by simp)) path x]
      rcases v.run path x [] with ⟨y, found⟩
      cases found <;> rfl

theorem acceptedBy_eq_excludes {excluded : Option Validator}
    (hv : ∀ v ∈ excluded.toList, v.RunAgrees) (x : Json) :
    acceptedBy excluded x = excludes excluded x := by
  cases excluded with
  | none => rfl
  | some v =>
      rw [acceptedBy, excludes, eval_of_isEmpty (hv v (by simp)) "" x]
      cases (v.run "" x []).2.isEmpty <;> rfl

theorem shape_run_agrees {shape : Shape} (hv : ∀ v ∈ shape.validators, v.RunAgrees) (path : String)
    (x : Json) (log : Log) : Agrees (shape.run path x log) log (shape.eval x) := by
  cases shape with
  | any => exact Agrees.ok x log
  | never => exact agrees_report x log path _ _
  | boolean =>
      cases x with
      | bool b => exact Agrees.ok _ log
      | null | number n | string s | array items | object members =>
          exact agrees_report _ log path _ _
  | null => exact agrees_keepIf x.isNull x log path _ _
  | literal value => exact agrees_keepIf (Json.sameValue value x) x log path _ _
  | among values => exact agrees_keepIf (x.amongValues values) x log path _ _
  | string checks =>
      cases x with
      | string s => exact agrees_checks checks path s _ log
      | null | bool b | number n | array items | object members =>
          exact agrees_report _ log path _ _
  | number integer checks =>
      cases x with
      | number n =>
          simp only [Shape.run, Shape.eval]
          cases integer <;> cases n.isIntegral
          · exact agrees_checks checks path n.toBinary64 _ log
          · exact agrees_checks checks path n.toBinary64 _ log
          · exact agrees_report _ log path _ _
          · exact agrees_checks checks path n.toBinary64 _ log
      | null | bool b | string s | array items | object members =>
          exact agrees_report _ log path _ _
  | array element checks =>
      cases x with
      | array items =>
          have he : element.RunAgrees := hv element (by simp [Shape.validators])
          rw [Shape.run, Shape.eval]
          exact (agrees_checks checks path items () log).bind fun _ log =>
            (visitItems_agrees he path 0 items log).map Json.array
      | null | bool b | number n | string s | object members => exact agrees_report _ log path _ _
  | tuple positions =>
      cases x with
      | array items =>
          simp only [Shape.run, Shape.eval]
          by_cases hl : items.length = positions.length
          · rw [if_pos hl]
            exact (runPositions_agrees hv path 0 hl log).map Json.array
          · rw [if_neg hl, evalPositions_of_length_ne hl]
            exact agrees_report _ log path _ _
      | null | bool b | number n | string s | object members => exact agrees_report _ log path _ _
  | object fields unknown checks =>
      cases x with
      | object members =>
          have hf : ∀ f ∈ fields, f.validator.RunAgrees := fun f hf =>
            hv f.validator (List.mem_append_left _ (List.mem_map_of_mem hf))
          have hu : ∀ v ∈ unknown.validators, v.RunAgrees := fun v hm =>
            hv v (by simp [Shape.validators, hm])
          rw [Shape.run, Shape.eval]
          exact (runFields_agrees hf path members [] log).bind fun output log =>
            (unknown_run_agrees hu path output _ log).bind fun output log =>
              agrees_checks checks path members.length (Json.object output) log
      | null | bool b | number n | string s | array items => exact agrees_report _ log path _ _
  | union alternatives =>
      have hu : firstOutput? alternatives path x = evalFirst alternatives x :=
        firstOutput?_eq_evalFirst hv path x
      simp only [Shape.run, Shape.eval, hu]
      cases evalFirst alternatives x with
      | some y => exact Agrees.ok y log
      | none => exact agrees_report x log path _ _
  | exclusiveUnion alternatives =>
      have hu : outputs alternatives path x = evalEach alternatives x :=
        outputs_eq_evalEach hv path x
      simp only [Shape.run, Shape.eval, hu]
      rcases evalEach alternatives x with _ | ⟨y, _ | ⟨z, rest⟩⟩
      · exact agrees_report x log path _ _
      · exact Agrees.ok y log
      · exact agrees_report x log path _ _
  | intersection branches => exact (runBranches_agrees hv path x log).map (mergeOutputs x)

theorem modifiers_agree (allowed : Option (List Json)) (excluded : Bool) (path : String)
    (x y : Json) (log : Log) :
    Agrees
      (let found := match allowed with
        | some values =>
          if x.amongValues values then log
          else log.report path .invalidEnumValue (enumMessage values)
        | none => log
       if excluded then (y, found.report path .forbidden "Value must not match the excluded schema")
       else (y, found))
      log (keepIf (allows allowed x && !excluded) y) := by
  cases allowed with
  | none =>
      cases excluded
      · exact Agrees.ok y log
      · exact agrees_report y log path _ _
  | some values =>
      have hl := log.length_report path .invalidEnumValue (enumMessage values)
      simp only [allows]
      cases x.amongValues values <;> cases excluded
      · exact hl
      · exact Nat.lt_trans hl (Log.length_report _ path _ _)
      · exact Agrees.ok y log
      · exact agrees_report y log path _ _

/-- The modifiers are looked at only if the shape found nothing wrong, which shows in the length of
the log. -/
theorem run_agrees (v : Validator) : v.RunAgrees := by
  induction v using Validator.induction with
  | step v ih =>
      obtain ⟨shape, nullable, defaultValue, description, title, allowed, excluded⟩ := v
      intro path x log
      have hs := shape_run_agrees (fun w hw => ih w (List.mem_append_left _ hw)) path x log
      have he := acceptedBy_eq_excludes (fun w hw => ih w (List.mem_append_right _ hw)) x
      simp only [Validator.run, Validator.eval, he]
      by_cases hn : (x.isNull && nullable) = true
      · rw [if_pos hn, if_pos hn]
        exact Agrees.ok _ log
      · rw [if_neg hn, if_neg hn]
        cases ho : shape.eval x with
        | none =>
            have hl : log.length < (shape.run path x log).2.length := by
              rw [ho] at hs
              exact hs
            rw [if_pos hl]
            exact hl
        | some y =>
            have hr : shape.run path x log = (y, log) := by
              rw [ho] at hs
              exact hs
            rw [hr, if_neg (Nat.lt_irrefl _)]
            exact modifiers_agree allowed (excludes excluded x) path x y log

namespace Validator

theorem parse_of_eval_eq_some {v : Validator} {x y : Json} (h : v.eval x = some y) :
    v.parse x = .ok y := by
  have hr := run_agrees v "" x []
  rw [h] at hr
  simp only [parse, show v.run "" x [] = (y, []) from hr]
  rfl

theorem parse_of_eval_eq_none {v : Validator} {x : Json} (h : v.eval x = none) :
    ∃ e : ValidationError, v.parse x = .error e ∧ e.issues ≠ [] := by
  have hr := run_agrees v "" x []
  rw [h] at hr
  have hn : (v.run "" x []).2 ≠ [] := List.length_pos_iff.1 hr
  refine ⟨⟨(v.run "" x []).2⟩, ?_, hn⟩
  simp only [parse]
  rw [if_neg (by simpa using hn)]

theorem isValid_eq_isSome_eval (v : Validator) (x : Json) : v.isValid x = (v.eval x).isSome := by
  cases h : v.eval x with
  | some y => rw [isValid, parse_of_eval_eq_some h]; rfl
  | none =>
      obtain ⟨e, he, -⟩ := parse_of_eval_eq_none h
      rw [isValid, he]
      rfl

/-- Parsing gives a value exactly if evaluation does, and then the same one. Otherwise it gives
issues, and at least one. -/
theorem parse_refines_eval (v : Validator) (x : Json) :
    (∀ y, v.parse x = .ok y ↔ v.eval x = some y) ∧
      ((∃ e : ValidationError, v.parse x = .error e ∧ e.issues ≠ []) ↔ v.eval x = none) := by
  cases h : v.eval x with
  | some y =>
      have hp := parse_of_eval_eq_some h
      simp [hp]
  | none =>
      obtain ⟨e, he, hn⟩ := parse_of_eval_eq_none h
      simp [he, hn]

end Validator

end SchemaCheck
