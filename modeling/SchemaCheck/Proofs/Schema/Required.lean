import SchemaCheck.Proofs.Schema.Modifiers
import SchemaCheck.Proofs.Schema.StrictFields
import SchemaCheck.Proofs.Validator.Issues

namespace SchemaCheck.Schema

open Json (Members)

/-- Nothing fills the name in: it is not declared, or declared without a default. -/
def Unfilled (child : ChildCompiler) (node : Members) (name : String) : Prop :=
  name ∉ Json.keys (declared node) ∨ ∃ x w, (name, x) ∈ declared node ∧
    child ["properties", name] x = .ok w ∧ w.defaultValue = none

section Fields

variable {path : String} {child : ChildCompiler} {node : Members} {required : List String}
  {fields : List Field} {name : String}

theorem reports_addRequired_iff :
    (∃ f ∈ addRequired fields required, f.Reports name) ↔
      (∃ f ∈ fields, f.Reports name) ∨ name ∈ required ∧ Field.hasName fields name = false := by
  induction required generalizing fields with
  | nil => simp [addRequired]
  | cons key rest ih =>
      rw [addRequired]
      split
      next hk =>
        rw [ih, List.mem_cons]
        by_cases he : name = key
        · subst he
          simp [hk]
        · simp [he]
      next hk =>
        rw [ih]
        have happ : (∃ f ∈ fields ++ [⟨key, true, .any⟩], f.Reports name) ↔
            (∃ f ∈ fields, f.Reports name) ∨ key = name := by
          simp [or_and_right, exists_or, Field.Reports, Validator.any, Validator.ofShape]
        have hname : Field.hasName (fields ++ [⟨key, true, .any⟩]) name = false ↔
            Field.hasName fields name = false ∧ key ≠ name := by
          simp [Field.hasName]
        rw [happ, hname, List.mem_cons]
        by_cases he : key = name
        · subst he
          simp [hk]
        · simp [he, Ne.symm he]

theorem reports_compileFields_iff (hn : name ∈ required)
    (h : compileFields path child required node = .ok fields) :
    (∃ f ∈ fields, f.Reports name) ↔ ∃ x w, (name, x) ∈ declared node ∧
      child ["properties", name] x = .ok w ∧ w.defaultValue = none := by
  have hpairs := compileProperties_eq_ok (compileFields_eq_ok h)
  constructor
  · rintro ⟨f, hf, hname, -, hd⟩
    obtain ⟨⟨key, x⟩, hm, hk, -, hv⟩ := exists_of_forall₂_left hpairs.flip hf
    obtain rfl : key = name := hk.symm.trans hname
    exact ⟨x, f.validator, hm, hv, hd⟩
  · rintro ⟨x, w, hm, hw, hd⟩
    obtain ⟨f, hf, hname, hreq, hv⟩ := exists_of_forall₂_left hpairs hm
    cases hw.symm.trans hv
    exact ⟨f, hf, hname, by rw [hreq]; exact List.contains_iff_mem.2 hn, hd⟩

theorem reports_compileObject_iff {v : Validator} (h : compileObject path child node = .ok v)
    (hr : name ∈ listedRequired node) :
    ∃ fields unknown checks, v = .ofShape (.object fields unknown checks) ∧
      ((∃ f ∈ fields, f.Reports name) ↔ Unfilled child node name) := by
  obtain ⟨fields, unknown, checks, hfields, -, rfl⟩ := compileObject_eq_ok h
  refine ⟨_, unknown, checks, rfl, ?_⟩
  rw [reports_addRequired_iff, reports_compileFields_iff hr hfields, Unfilled,
    ← hasName_compileFields_iff hfields, Bool.not_eq_true, or_comm]
  exact or_congr_left (and_iff_right hr)

end Fields

/-- An object without a required key is refused, and the key is reported as missing, exactly if
nothing fills it in. -/
theorem parse_reports_iff {c : Context} {node : Members} {v : Validator} {name : String}
    {members : Members} (hf : Form.ofNode node = .ok (.typed .object))
    (hv : compileNode c (.object node) = .ok v) (hr : name ∈ listedRequired node)
    (hx : members.lookup name = none) :
    (∃ e, v.parse (.object members) = .error e ∧
        ⟨Pointer.child "" name, .required, "Required"⟩ ∈ e.issues) ↔
      Unfilled (childOf c) node name := by
  obtain ⟨w, hw, hm⟩ := modified_of_compileNode hf nofun rfl hv
  obtain ⟨fields, unknown, checks, rfl, hreports⟩ := reports_compileObject_iff hw hr
  have hrun := mem_run_object_iff hm.shape "" name members
  rw [and_iff_right hx, hreports] at hrun
  exact (mem_issues_iff v (.object members) _).trans hrun

def threeKeys : Members :=
  [("properties", .object [("a", .object [("default", Json.int 1)]),
      ("b", .object [("type", .string "string")])]),
    ("required", .array [.string "a", .string "b", .string "c"]), ("type", .string "object")]

def threeFields : Validator :=
  .ofShape (.object [⟨"a", true, Validator.any.withDefault (Json.int 1)⟩,
    ⟨"b", true, .ofShape (.string [])⟩, ⟨"c", true, .any⟩] .accept [])

theorem compile_threeKeys :
    compile (.object threeKeys) { maxDepth := 1 } [] = .ok threeFields := by
  with_unfolding_all rfl

theorem parse_reports_iff_threeKeys :
    Form.ofNode threeKeys = .ok (.typed .object) ∧
      (∃ e, threeFields.parse (.object [("a", .null)]) = .error e ∧
        ⟨Pointer.child "" "b", .required, "Required"⟩ ∈ e.issues) ∧
      (∃ e, threeFields.parse (.object [("b", .null)]) = .error e ∧
        ⟨Pointer.child "" "c", .required, "Required"⟩ ∈ e.issues) ∧
      ¬∃ e, threeFields.parse (.object []) = .error e ∧
        ⟨Pointer.child "" "a", .required, "Required"⟩ ∈ e.issues := by
  have hb : childOf (.start (.object threeKeys) [] { maxDepth := 1 }) ["properties", "b"]
      (.object [("type", .string "string")]) = .ok (.ofShape (.string [])) := by
    with_unfolding_all rfl
  have ha : childOf (.start (.object threeKeys) [] { maxDepth := 1 }) ["properties", "a"]
      (.object [("default", Json.int 1)]) = .ok (Validator.any.withDefault (Json.int 1)) := by
    with_unfolding_all rfl
  refine ⟨rfl, ?_, ?_, ?_⟩
  · exact (parse_reports_iff rfl compile_threeKeys (by decide) rfl).2
      (.inr ⟨_, _, by simp [declared, threeKeys], hb, rfl⟩)
  · exact (parse_reports_iff rfl compile_threeKeys (by decide) rfl).2 (.inl (by decide))
  · intro h
    rcases (parse_reports_iff rfl compile_threeKeys (by decide) rfl).1 h with h | h
    · exact absurd h (by decide)
    · obtain ⟨x, w, hx, hw, hd⟩ := h
      have hx : x = .object [("default", Json.int 1)] := by
        simpa [declared, threeKeys] using hx
      subst hx
      cases ha.symm.trans hw
      cases hd

def filledKey : Members :=
  [("properties", .object [("a", .object [("default", Json.int 1)])]),
    ("required", .array [.string "a"]), ("type", .string "object")]

/-- The object without its required key is accepted. -/
theorem not_mandatory_filledKey :
    Form.ofNode filledKey = .ok (.typed .object) ∧ "a" ∈ listedRequired filledKey ∧
      ∃ v, compile (.object filledKey) { maxDepth := 1 } [] = .ok v ∧
        v.parse (.object []) = .ok (.object [("a", Json.int 1)]) := by
  refine ⟨rfl, by decide, .ofShape (.object [⟨"a", true, Validator.any.withDefault (Json.int 1)⟩]
    .accept []), ?_, ?_⟩
  · with_unfolding_all rfl
  · rfl

end SchemaCheck.Schema
