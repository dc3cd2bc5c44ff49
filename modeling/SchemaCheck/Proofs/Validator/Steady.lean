import SchemaCheck.Proofs.Schema.WellFormed
import SchemaCheck.Proofs.Validator.ObjectOutput

namespace SchemaCheck

open Json (Members)
open Check (rules)
open Rule (AllHold)

/-- No alternatives, and no rule that what is filled in could break. -/
def Shape.IsSteady : Shape → Prop
  | .array _ checks => .uniqueItems ∉ rules checks
  | .object _ _ checks => ∀ n, .maxProperties n ∉ rules checks
  | .union _ => False
  | .exclusiveUnion _ => False
  | .intersection _ => False
  | _ => True

/-- The defaults of the fields are the outputs for themselves, too. -/
structure Validator.IsSteady (v : Validator) : Prop where
  shape : v.shape.IsSteady
  allowed : v.allowed = none
  excluded : v.excluded = none
  default : ∀ f ∈ v.shape.fields, ∀ d, f.validator.defaultValue = some d →
    f.validator.parse d = .ok d

/-- An output is the output for itself. -/
def Settles (eval : Json → Option Json) : Prop :=
  ∀ x y, x.hasDistinctKeys = true → eval x = some y → eval y = some y

theorem Settles.of_eq {eval : Json → Option Json} (h : ∀ x y, eval x = some y → x = y) :
    Settles eval := by
  intro x y _ hy
  obtain rfl := h x y hy
  exact hy

theorem mapM_eq_self {eval : Json → Option Json} {ys : List Json}
    (h : ∀ y ∈ ys, eval y = some y) : ys.mapM eval = some ys := by
  induction ys with
  | nil => rfl
  | cons y rest ih =>
      rw [List.forall_mem_cons] at h
      rw [List.mapM_cons, h.1, ih h.2]
      rfl

theorem allHold_of_length {checks : List (Check ArrayRule)} (hu : .uniqueItems ∉ rules checks)
    {xs ys : List Json} (hl : xs.length = ys.length) (h : AllHold (rules checks) xs) :
    AllHold (rules checks) ys := by
  intro r hr
  have hx := h r hr
  cases r with
  | minItems n | maxItems n =>
      change decide _ = true at hx ⊢
      rwa [← hl]
  | uniqueItems => exact absurd hr hu

theorem settles_array {element : Validator} {checks : List (Check ArrayRule)}
    (hu : .uniqueItems ∉ rules checks) (he : Settles element.eval) :
    Settles (Shape.array element checks).eval := by
  intro x y hx h
  cases x with
  | array items =>
      obtain ⟨_, hchecks, h⟩ := Option.bind_eq_some_iff.1 h
      obtain ⟨ys, hys, rfl⟩ := Option.map_eq_some_iff.1 h
      have hall := forall₂_of_mapM hys
      have hself : ∀ y ∈ ys, element.eval y = some y := by
        intro y hy
        obtain ⟨x, hm, hxy⟩ := exists_of_forall₂_left hall.flip hy
        exact he x y (Json.Part.hasDistinctKeys (.item hm) hx) hxy
      have hrules : AllHold (rules checks) items :=
        Check.allHold_iff.1 (isSome_keepIf.1 (Option.isSome_of_eq_some hchecks))
      have hrules' := Check.allHold_iff.2 (allHold_of_length hu hall.length_eq hrules)
      rw [Shape.eval, hrules', mapM_eq_self hself]
      rfl
  | null | bool b | number n | string s | object members => cases h

theorem settles_positions {vs : List Validator} (hv : ∀ v ∈ vs, Settles v.eval)
    {xs ys : List Json} (hx : ∀ x ∈ xs, x.hasDistinctKeys = true)
    (h : evalPositions vs xs = some ys) : evalPositions vs ys = some ys := by
  induction vs generalizing xs ys with
  | nil =>
      cases xs with
      | nil =>
          cases h
          rfl
      | cons x rest => cases h
  | cons v vs ih =>
      cases xs with
      | nil => cases h
      | cons x rest =>
          rw [List.forall_mem_cons] at hv hx
          obtain ⟨y, hy, h⟩ := Option.bind_eq_some_iff.1 h
          obtain ⟨zs, hzs, h⟩ := Option.bind_eq_some_iff.1 h
          cases h
          rw [evalPositions, hv.1 x y hx.1 hy, ih hv.2 hx.2 hzs]
          rfl

theorem settles_tuple {vs : List Validator} (hv : ∀ v ∈ vs, Settles v.eval) :
    Settles (Shape.tuple vs).eval := by
  intro x y hx h
  cases x with
  | array items =>
      obtain ⟨ys, hys, rfl⟩ := Option.map_eq_some_iff.1 h
      have hitems : ∀ x ∈ items, x.hasDistinctKeys = true :=
        fun x hm => Json.Part.hasDistinctKeys (.item hm) hx
      rw [Shape.eval, settles_positions hv hitems hys]
      rfl
  | null | bool b | number n | string s | object members => cases h

section Object

variable {fields : List Field} {unknown : UnknownKeys} {checks : List (Check ObjectRule)}
variable {members output : Members}

/-- An output so far as its keys tell: of a field, what it makes of its value is what it makes of
the output, and so for the values under unknown keys. -/
structure Settled (fields : List Field) (unknown : UnknownKeys) (members output : Members) :
    Prop where
  lookup : ∀ key, output.lookup key = outputAt fields unknown members key
  field : ∀ f ∈ fields, ∀ y, f.output members = some y → f.validator.eval y = some y
  missing : ∀ f ∈ fields, f.output members = none →
    members.lookup f.name = none ∧ f.validator.defaultValue = none
  unknown : ∀ m ∈ members, Field.hasName fields m.1 = false → ∃ y,
    unknown.output m.2 = some y ∧ unknown.output y = some y

theorem unknown_output_settles (hu : ∀ v ∈ unknown.validators, Settles v.eval) {x y : Json}
    (hx : x.hasDistinctKeys = true) (h : unknown.output x = some y) :
    unknown.output y = some y := by
  cases unknown with
  | reject => cases h
  | accept => rfl
  | validate v => exact hu v (List.mem_singleton_self v) x y hx h

namespace Settled

theorem of_accepts (hf : ∀ f ∈ fields, Settles f.validator.eval ∧
      ∀ d, f.validator.defaultValue = some d → f.validator.eval d = some d)
    (hu : ∀ v ∈ unknown.validators, Settles v.eval)
    (hm : ∀ m ∈ members, m.2.hasDistinctKeys = true)
    (hfields : ∀ f ∈ fields, f.Accepts members)
    (hunknown : unknown.Accepts (members.filter fun m => !Field.hasName fields m.1))
    (hl : ∀ key, output.lookup key = outputAt fields unknown members key) :
    Settled fields unknown members output where
  lookup := hl
  field := by
    intro f hmem y hy
    rw [Field.output] at hy
    split at hy
    next x hx => exact (hf f hmem).1 x y (hm _ (Json.mem_of_lookup hx)) hy
    next => exact (hf f hmem).2 y hy
  missing := by
    intro f hmem hn
    rw [Field.output] at hn
    split at hn
    next x hx =>
      have ha : (f.validator.eval x).isSome = true := (hfields f hmem).present x hx
      rw [hn] at ha
      cases ha
    next hx => exact ⟨hx, hn⟩
  unknown := by
    intro m hmem hname
    have ho := unknown_accepts_iff_output.1 hunknown m
      (List.mem_filter.2 ⟨hmem, by simpa using hname⟩)
    obtain ⟨y, hy⟩ := Option.isSome_iff_exists.1 ho
    exact ⟨y, hy, unknown_output_settles hu (hm m hmem) hy⟩

variable (h : Settled fields unknown members output)
include h

theorem lookup_field (hd : (fields.map (·.name)).Nodup) {f : Field} (hf : f ∈ fields) :
    output.lookup f.name = f.output members := by
  rw [h.lookup, outputAt, find?_of_mem hd hf]

theorem outputAt_eq (key : String) :
    outputAt fields unknown output key = output.lookup key := by
  cases hf : fields.find? (·.name = key) with
  | some f =>
      have hmem := List.mem_of_find?_eq_some hf
      obtain rfl : f.name = key := by simpa using List.find?_some hf
      have hkey : output.lookup f.name = f.output members := by
        rw [h.lookup, outputAt, hf]
      have hself : f.output output = output.lookup f.name := by
        rw [Field.output, hkey]
        cases ho : f.output members with
        | some y => exact h.field f hmem y ho
        | none => exact (h.missing f hmem ho).2
      rw [outputAt, hf]
      exact hself
  | none =>
      have hname := hasName_eq_false_iff.2 hf
      have hkey : output.lookup key = (members.lookup key).bind unknown.output := by
        rw [h.lookup, outputAt, hf]
      have hself : (output.lookup key).bind unknown.output = output.lookup key := by
        rw [hkey]
        cases hx : members.lookup key with
        | none => rfl
        | some x =>
            obtain ⟨y, hy, hself⟩ := h.unknown _ (Json.mem_of_lookup hx) hname
            simp [hy, hself]
      rw [outputAt, hf]
      exact hself

theorem fields_accept (hd : (fields.map (·.name)).Nodup)
    (ha : ∀ f ∈ fields, f.Accepts members) : ∀ f ∈ fields, f.Accepts output := by
  intro f hf
  have hl := h.lookup_field hd hf
  constructor
  · intro y hy
    exact Option.isSome_of_eq_some (h.field f hf y (hl ▸ hy))
  · intro hn hr
    exact (ha f hf).absent (h.missing f hf (hl ▸ hn)).1 hr

theorem unknown_accepts (hs : Json.Sorted output) :
    unknown.Accepts (output.filter fun m => !Field.hasName fields m.1) := by
  rw [unknown_accepts_iff_output]
  intro m hm
  obtain ⟨hmem, hn⟩ := List.mem_filter.1 hm
  have hname : Field.hasName fields m.1 = false := by simpa using hn
  have hkey := h.lookup m.1
  rw [Json.lookup_of_mem hs.nodup hmem, outputAt, hasName_eq_false_iff.1 hname] at hkey
  obtain ⟨x, hx, hy⟩ := Option.bind_eq_some_iff.1 hkey.symm
  obtain ⟨y, hxy, hself⟩ := h.unknown _ (Json.mem_of_lookup hx) hname
  cases hy.symm.trans hxy
  exact Option.isSome_of_eq_some hself

theorem length_le (hm : (Json.keys members).Nodup) : members.length ≤ output.length := by
  have hsub : Json.keys members ⊆ Json.keys output := by
    intro key hk
    obtain ⟨x, hx⟩ := Json.mem_keys.1 hk
    refine Json.mem_keys.2 (Option.isSome_iff_exists.1 ?_)
    rw [h.lookup, outputAt]
    cases hf : fields.find? (·.name = key) with
    | some f =>
        obtain rfl : f.name = key := by simpa using List.find?_some hf
        refine Option.isSome_iff_ne_none.2 fun hn => ?_
        cases hx.symm.trans (h.missing f (List.mem_of_find?_eq_some hf) hn).1
    | none =>
        obtain ⟨y, hy, -⟩ := h.unknown _ (Json.mem_of_lookup hx) (hasName_eq_false_iff.2 hf)
        simp [hx, hy]
  have hle := hm.length_le_of_subset hsub
  rwa [Json.keys, Json.keys, List.length_map, List.length_map] at hle

end Settled

theorem allHold_of_le (hn : ∀ n, .maxProperties n ∉ rules checks) {count more : Nat}
    (hle : count ≤ more) (h : AllHold (rules checks) count) : AllHold (rules checks) more := by
  intro r hr
  cases r with
  | minProperties n =>
      have hc : n ≤ count := of_decide_eq_true (h _ hr)
      exact decide_eq_true (Nat.le_trans hc hle)
  | maxProperties n => exact absurd hr (hn n)

theorem settles_object (hd : (fields.map (·.name)).Nodup)
    (hn : ∀ n, .maxProperties n ∉ rules checks)
    (hf : ∀ f ∈ fields, Settles f.validator.eval ∧
      ∀ d, f.validator.defaultValue = some d → f.validator.eval d = some d)
    (hu : ∀ v ∈ unknown.validators, Settles v.eval) :
    Settles (Shape.object fields unknown checks).eval := by
  intro x y hx h
  cases x with
  | object members =>
      obtain ⟨hm, hmembers⟩ := Json.hasDistinctKeys_object.1 hx
      obtain ⟨_, he, hfields, hunknown, hrules⟩ :=
        Shape.accepts_object.1 (Option.isSome_of_eq_some h)
      cases he
      obtain ⟨output, rfl, hs, hl⟩ := eval_object_eq_some hd hm h
      have hsettled := Settled.of_accepts hf hu hmembers hfields hunknown hl
      have hagain : (Shape.object fields unknown checks).Accepts (.object output) :=
        Shape.accepts_object.2 ⟨output, rfl, hsettled.fields_accept hd hfields,
          hsettled.unknown_accepts hs, allHold_of_le hn (hsettled.length_le hm) hrules⟩
      obtain ⟨z, hz⟩ := Option.isSome_iff_exists.1 hagain
      obtain ⟨output', rfl, hs', hl'⟩ := eval_object_eq_some hd hs.nodup hz
      have heq : output' = output :=
        Json.eq_of_lookup_eq hs' hs fun key => (hl' key).trans (hsettled.outputAt_eq key)
      rw [hz, heq]
  | null | bool b | number n | string s | array items => cases h

end Object

theorem settles_shape {s : Shape} (hw : s.WellFormed) (hs : s.IsSteady)
    (hv : ∀ v ∈ s.validators, Settles v.eval)
    (hd : ∀ f ∈ s.fields, ∀ d, f.validator.defaultValue = some d →
      f.validator.eval d = some d) : Settles s.eval := by
  cases s with
  | any => exact .of_eq fun x y h => Option.some.inj h
  | never => exact .of_eq nofun
  | null | literal value | among values => exact .of_eq fun x y h => keepIf_eq_some h
  | boolean =>
      refine .of_eq fun x y h => ?_
      cases x with
      | bool b => exact Option.some.inj h
      | null | number n | string s | array items | object members => cases h
  | string checks =>
      refine .of_eq fun x y h => ?_
      cases x with
      | string s => exact keepIf_eq_some h
      | null | bool b | number n | array items | object members => cases h
  | number integer checks =>
      refine .of_eq fun x y h => ?_
      cases x with
      | number n => exact keepIf_eq_some h
      | null | bool b | string s | array items | object members => cases h
  | array element checks => exact settles_array hs (hv element (List.mem_singleton_self _))
  | tuple vs => exact settles_tuple hv
  | object fields unknown checks =>
      refine settles_object hw.1 hs (fun f hf => ⟨?_, hd f hf⟩) fun v hm => ?_
      · exact hv _ (List.mem_append_left _ (List.mem_map_of_mem hf))
      · exact hv v (List.mem_append_right _ hm)
  | union vs | exclusiveUnion vs | intersection vs => exact hs.elim

namespace Validator

theorem settles_eval {v : Validator} (hw : v.WellFormed) (hs : v.Everywhere IsSteady) :
    Settles v.eval := by
  induction v using Validator.induction with
  | step v ih =>
      have hshape : Settles v.shape.eval := by
        refine settles_shape hw.here.shape hs.here.shape (fun w hm => ?_) fun f hf d hd => ?_
        · have hm : w ∈ v.children := List.mem_append_left _ hm
          exact ih w hm (hw.child hm) (hs.child hm)
        · exact ((parse_refines_eval _ _).1 d).1 (hs.here.default f hf d hd)
      have ha := hs.here.allowed
      have he := hs.here.excluded
      obtain ⟨shape, nullable, defaultValue, description, title, allowed, excluded⟩ := v
      obtain rfl : allowed = none := ha
      obtain rfl : excluded = none := he
      have heval : ∀ x, Validator.eval ⟨shape, nullable, defaultValue, description, title, none,
          none⟩ x = if x.isNull && nullable then some .null else shape.eval x := by
        intro x
        rw [Validator.eval]
        simp [allows, excludes, keepIf]
      intro x y hx h
      rw [heval] at h ⊢
      split at h
      next hn =>
        cases h
        exact if_pos (Bool.and_eq_true_iff.2 ⟨rfl, (Bool.and_eq_true_iff.1 hn).2⟩)
      next =>
        split
        next hn =>
          cases y with
          | null => rfl
          | bool b | number n | string s | array items | object members => cases hn
        next => exact hshape x y hx h

end Validator

namespace Schema

/-- Where no alternatives overlap, parsing an output gives that output. -/
theorem parse_of_output {schema : Json} (hschema : schema.hasDistinctKeys = true)
    {definitions : Members} (hd : ∀ m ∈ definitions, m.2.hasDistinctKeys = true)
    {options : Options} {v : Validator} (hv : compile schema options definitions = .ok v)
    (hs : v.Everywhere Validator.IsSteady) {x y : Json} (hx : x.hasDistinctKeys = true)
    (h : v.parse x = .ok y) : v.parse y = .ok y := by
  have hw : v.WellFormed := wellFormed_of_compile hschema hd hv
  have hy : v.eval x = some y := ((v.parse_refines_eval x).1 y).1 h
  exact Validator.parse_of_eval_eq_some (Validator.settles_eval hw hs x y hx hy)

def jobsNode : Members :=
  [("additionalProperties", .object
      [("minProperties", .int 1),
        ("properties", .object
          [("limit", .object [("default", .int 3), ("type", .string "integer")])]),
        ("type", .string "object")]),
    ("type", .string "object")]

def jobLimit : Validator := (Validator.ofShape (.number true [])).withDefault (.int 3)

def job : Validator :=
  .ofShape (.object [⟨"limit", false, jobLimit⟩] .accept [⟨.minProperties 1, none⟩])

def jobs : Validator := .ofShape (.object [] (.validate job) [])

theorem isSteady_jobs : jobs.Everywhere Validator.IsSteady := by
  have hlimit : jobLimit.Everywhere Validator.IsSteady :=
    Validator.everywhere_of_leaf rfl ⟨trivial, rfl, rfl, List.forall_mem_nil _⟩
  have hjob : job.IsSteady := by
    refine ⟨by simp [job, Validator.ofShape, Shape.IsSteady, rules], rfl, rfl, fun f hf d hd => ?_⟩
    obtain rfl := List.mem_singleton.1 hf
    cases hd
    rfl
  refine Validator.everywhere_iff.2 ⟨⟨by simp [jobs, Validator.ofShape, Shape.IsSteady, rules],
    rfl, rfl, List.forall_mem_nil _⟩, fun v hv => ?_⟩
  obtain rfl := List.mem_singleton.1 hv
  refine Validator.everywhere_iff.2 ⟨hjob, fun v hv => ?_⟩
  obtain rfl := List.mem_singleton.1 hv
  exact hlimit

theorem parse_of_output_jobs : compile (.object jobsNode) {} [] = .ok jobs ∧
    jobs.parse (.object [("a", .object [("name", .string "x")])]) =
      .ok (.object [("a", .object [("limit", .int 3), ("name", .string "x")])]) ∧
    jobs.parse (.object [("a", .object [("limit", .int 3), ("name", .string "x")])]) =
      .ok (.object [("a", .object [("limit", .int 3), ("name", .string "x")])]) := by
  have hv : compile (.object jobsNode) {} [] = .ok jobs := by
    with_unfolding_all rfl
  have hy : jobs.parse (.object [("a", .object [("name", .string "x")])]) =
      .ok (.object [("a", .object [("limit", .int 3), ("name", .string "x")])]) := by
    rfl
  refine ⟨hv, hy, ?_⟩
  exact parse_of_output (by decide) (List.forall_mem_nil _) hv isSteady_jobs (by decide) hy

end Schema

end SchemaCheck
