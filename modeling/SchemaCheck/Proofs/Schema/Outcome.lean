import SchemaCheck.Proofs.Schema.MergedUnion

namespace SchemaCheck

open Json (Members)
open Schema (TypeName)

namespace Validator

/-- The modifiers other than null have nothing against the value. -/
def Passes (allowed : Option (List Json)) (excluded : Option Validator) (x : Json) : Prop :=
  allows allowed x = true ∧ ∀ w, excluded = some w → ¬ w.Accepts x

def Admits (v : Validator) (x : Json) : Prop := Passes v.allowed v.excluded x

def Listed (v : Validator) (x : Json) : Prop := ∃ values, v.allowed = some values ∧ x ∈ values

theorem admits_of_none {v : Validator} (ha : v.allowed = none) (hx : v.excluded = none) (x : Json) :
    v.Admits x := by
  simp [Admits, Passes, ha, hx, allows]

def isOverwritten (v : Validator) : Bool :=
  match v.shape with
  | .never => v.excluded.isSome
  | .literal _ => v.allowed.isSome
  | .among _ => v.allowed.isSome
  | _ => false

end Validator

namespace Schema

/-- The compilation succeeds just if `ok` holds, and then accepts the values of `P`. -/
structure Outcome (r : Result) (ok : Prop) (P : Json → Prop) (d : Option Json) : Prop where
  succeeds : (∃ u, r = .ok u) ↔ ok
  accepts : ∀ u, r = .ok u → ∀ x, u.Accepts x ↔ P x
  default : ∀ u, r = .ok u → u.defaultValue = d

namespace Outcome

variable {r : Result} {ok ok' : Prop} {P Q : Json → Prop} {d : Option Json}

theorem congr (h : Outcome r ok P d) (hok : ok ↔ ok') (hP : ∀ x, P x ↔ Q x) :
    Outcome r ok' Q d where
  succeeds := h.succeeds.trans hok
  accepts := fun u hu x => (h.accepts u hu x).trans (hP x)
  default := h.default

theorem of_ok {v : Validator} (hr : r = .ok v) (hok : ok) (ha : ∀ x, v.Accepts x ↔ P x)
    (hd : v.defaultValue = d) : Outcome r ok P d where
  succeeds := iff_of_true ⟨v, hr⟩ hok
  accepts := by
    intro u hu
    cases hr.symm.trans hu
    exact ha
  default := by
    intro u hu
    cases hr.symm.trans hu
    exact hd

theorem of_error {e : Error} (hr : r = .error e) (hok : ¬ ok) : Outcome r ok P d := by
  have hno : ∀ u, r ≠ .ok u := by
    intro u hu
    cases hr.symm.trans hu
  refine ⟨iff_of_false ?_ hok, fun u hu => absurd hu (hno u), fun u hu => absurd hu (hno u)⟩
  rintro ⟨u, hu⟩
  exact hno u hu

end Outcome

variable {path : String} {child : ChildCompiler} {follow : String → Result} {node : Members}

theorem setExcluded_restores {excluded : Option Validator} {v : Validator}
    (hx : node.lookup "not" = exportOption excluded)
    (he : ∀ w, excluded = some w → Restores child w) (hv : v.excluded = none) :
    ∃ other, setExcluded child node v = .ok { v with excluded := other } ∧
      ∀ x, (∀ w, other = some w → ¬ w.Accepts x) ↔ ∀ w, excluded = some w → ¬ w.Accepts x := by
  cases excluded with
  | none =>
      refine ⟨none, ?_, fun x => Iff.rfl⟩
      rw [setExcluded, hx, exportOption]
      cases v
      cases hv
      rfl
  | some w =>
      obtain ⟨u, hu, ha⟩ := he w rfl ["not"]
      refine ⟨some u, ?_, fun x => by simp [ha.accepts]⟩
      rw [setExcluded, hx, exportOption]
      change (child ["not"] w.toSchema >>= fun u => .ok { v with excluded := some u }) = _
      rw [hu]
      rfl

section Enum

variable {allowed : Option (List Json)} {v : Validator}
  (h : node.lookup "enum" = allowed.map .array)
include h

theorem refineEnum_ok (hv : v.allowed = none)
    (hok : ∀ values, allowed = some values → ∀ x ∈ values, v.Accepts x) :
    refineEnum path node v = .ok { v with allowed } := by
  cases allowed with
  | none =>
      rw [refineEnum, h]
      cases v
      cases hv
      rfl
  | some values =>
      have hf : values.find? (fun x => !v.isValid x) = none := by
        rw [List.find?_eq_none]
        intro x hx
        simpa using Validator.isValid_iff.2 (hok values rfl x hx)
      simp only [refineEnum, h, Option.map_some, hf]

theorem refineEnum_error (path : String) {values : List Json} (hv : allowed = some values)
    {x : Json} (hx : x ∈ values) (hr : ¬ v.Accepts x) : ∃ e, refineEnum path node v = .error e := by
  subst hv
  have hf : ∃ y, values.find? (fun x => !v.isValid x) = some y := by
    rw [← Option.isSome_iff_exists, List.find?_isSome]
    exact ⟨x, hx, by simpa using mt Validator.isValid_iff.1 hr⟩
  obtain ⟨y, hf⟩ := hf
  exact ⟨_, by simp only [refineEnum, h, Option.map_some, hf]; rfl⟩

end Enum

theorem compileMembers_of_form {form : Form} {v : Validator} (hf : Form.ofNode node = .ok form)
    (hr : ∀ reference, form ≠ .ref reference)
    (hb : compileForm path child follow node form = .ok v)
    (hn : node.lookup "nullable" = none) : compileMembers path child follow node =
      ((if form.isEnum then .ok v else refineEnum path node v : Result) >>=
        setExcluded child node) >>= fun v => .ok (withMetadata node v) := by
  rw [compileMembers_eq hf hr, hb]
  change (modify path child node form _ >>= fun v => .ok (withMetadata node v)) = _
  rw [modify_eq, setNullable, hn]
  rfl

theorem outcome_of_form {form : Form} {s : Shape} {n : Bool} {allowed : Option (List Json)}
    {excluded : Option Validator} (hf : Form.ofNode node = .ok form)
    (hr : ∀ reference, form ≠ .ref reference)
    (hb : compileForm path child follow node form =
      .ok { Validator.ofShape s with nullable := n })
    (hn : node.lookup "nullable" = none)
    (ha : form.isEnum = true ∧ allowed = none ∨
      form.isEnum = false ∧ node.lookup "enum" = allowed.map .array)
    (hx : node.lookup "not" = exportOption excluded)
    (he : ∀ w, excluded = some w → Restores child w) :
    Outcome (compileMembers path child follow node)
      (∀ values, allowed = some values → ∀ x ∈ values, (n = true ∧ x = .null) ∨ s.Accepts x)
      (fun x => (n = true ∧ x = .null) ∨ (s.Accepts x ∧ Validator.Passes allowed excluded x))
      (node.lookup "default") := by
  have hacc : ∀ x, ({ Validator.ofShape s with nullable := n } : Validator).Accepts x ↔
      (n = true ∧ x = .null) ∨ s.Accepts x := by
    intro x
    rw [Validator.accepts_iff]
    simp [Validator.ofShape, allows]
  have hc := compileMembers_of_form hf hr hb hn
  by_cases hok : ∀ values, allowed = some values →
      ∀ x ∈ values, (n = true ∧ x = .null) ∨ s.Accepts x
  · have hstep : (if form.isEnum then .ok { Validator.ofShape s with nullable := n }
        else refineEnum path node { Validator.ofShape s with nullable := n } : Result) =
          .ok { Validator.ofShape s with nullable := n, allowed } := by
      rcases ha with ⟨hi, rfl⟩ | ⟨hi, hl⟩
      · rw [if_pos hi]
        rfl
      · rw [if_neg (by simp [hi])]
        exact refineEnum_ok hl rfl fun values hv x hm => (hacc x).2 (hok values hv x hm)
    obtain ⟨other, hother, hpass⟩ := setExcluded_restores hx he
      (v := { Validator.ofShape s with nullable := n, allowed }) rfl
    have hu : compileMembers path child follow node = .ok (withMetadata node
        { Validator.ofShape s with nullable := n, allowed, excluded := other }) := by
      rw [hc, hstep]
      change (setExcluded child node _ >>= fun v => .ok (withMetadata node v)) = _
      rw [hother]
      rfl
    refine .of_ok hu hok (fun x => ?_) Option.or_none
    rw [Validator.accepts_iff]
    change (n = true ∧ x = .null) ∨ (s.Accepts x ∧ allows allowed x = true ∧
      ∀ w, other = some w → ¬ w.Accepts x) ↔ _
    rw [hpass]
    rfl
  · have herror : ∃ e, compileMembers path child follow node = .error e := by
      push Not at hok
      obtain ⟨values, hv, x, hm, hn, hs⟩ := hok
      rcases ha with ⟨-, rfl⟩ | ⟨hi, hl⟩
      · cases hv
      · have hno : ¬ ({ Validator.ofShape s with nullable := n } : Validator).Accepts x := by
          rw [hacc, not_or, not_and]
          exact ⟨hn, hs⟩
        obtain ⟨e, he⟩ := refineEnum_error hl path hv hm hno
        refine ⟨e, ?_⟩
        rw [hc, if_neg (by simp [hi]), he]
        rfl
    obtain ⟨e, he⟩ := herror
    exact .of_error he hok

end Schema

end SchemaCheck
