import SchemaCheck.Proofs.Schema.OtherDocuments
import SchemaCheck.Proofs.Schema.StrictFields

namespace SchemaCheck.Schema

open Json (Members hasKey)

/-- The second value is the first, or the first with more keys that are no keywords. -/
inductive Enlarges : Json → Json → Prop
  | refl (x : Json) : Enlarges x x
  | node {node more : Members}
      (kept : ∀ {key : String} {x : Json}, node.lookup key = some x → more.lookup key = some x)
      (same : SameAt keywords node more) : Enlarges (.object node) (.object more)

theorem enlarges_addEntries {node extra : Members}
    (h : ∀ m ∈ extra, m.1 ∉ keywords ∧ hasKey m.1 node = false) :
    Enlarges (.object node) (.object (addEntries node extra)) := by
  refine .node ?_ ?_
  · intro key x hl
    rw [lookup_addEntries_of_notMem, hl]
    intro he
    obtain ⟨m, hm, rfl⟩ := List.mem_map.1 he
    have hn := (h m hm).2
    rw [hasKey, hl] at hn
    cases hn
  · intro key hk
    rw [lookup_addEntries_of_notMem]
    intro he
    obtain ⟨m, hm, rfl⟩ := List.mem_map.1 he
    exact (h m hm).1 hk

namespace Enlarges

variable {x y : Json}

theorem readsAs (h : Enlarges x y) : ReadsAs x y := by
  cases h with
  | refl => exact .refl x
  | node _ same => exact .node same

theorem step? (h : Enlarges x y) {segment : String} {z : Json}
    (hz : Pointer.step? x segment = some z) : Pointer.step? y segment = some z := by
  cases h with
  | refl => exact hz
  | node kept _ => exact kept hz

/-- Only the whole document is not the same value in both. -/
theorem resolve? (h : Enlarges x y) {reference : String} {z : Json}
    (hz : Pointer.resolve? x reference = some z) :
    ∃ w, Pointer.resolve? y reference = some w ∧ ReadsAs z w := by
  rw [Pointer.resolve?] at hz ⊢
  split at hz
  next hl =>
    rw [if_pos hl]
    cases hs : Pointer.split reference with
    | nil =>
        rw [hs] at hz
        cases hz
        exact ⟨y, rfl, h.readsAs⟩
    | cons segment rest =>
        rw [hs, List.foldlM_cons] at hz
        obtain ⟨v, hv, hz⟩ := Option.bind_eq_some_iff.1 hz
        refine ⟨z, ?_, .refl z⟩
        rw [List.foldlM_cons, h.step? hv]
        exact hz
  next => cases hz

end Enlarges

section Prune

variable {node other : Members} (h : SameAt keywords node other)
include h

theorem SameAt.keeps : keeps node = keeps other := by
  funext name
  rw [Schema.keeps, Schema.keeps, listedRequired, listedRequired, h.lookup "required" (by decide)]

theorem SameAt.strictNode : SameAt keywords (strictNode node) (strictNode other) := by
  intro key hk
  by_cases hp : key = "properties"
  · subst hp
    have hl := h.lookup "properties" hk
    by_cases ho : ∃ properties, node.lookup "properties" = some (.object properties)
    · obtain ⟨properties, ho⟩ := ho
      rw [lookup_properties_strictNode_of_object ho,
        lookup_properties_strictNode_of_object (hl ▸ ho), h.keeps]
    · have hn : ∀ properties, node.lookup "properties" ≠ some (.object properties) :=
        fun properties he => ho ⟨properties, he⟩
      rw [lookup_properties_strictNode hn, lookup_properties_strictNode (hl ▸ hn), hl]
  · by_cases ha : key = "additionalProperties"
    · subst ha
      rw [lookup_additional_strictNode, lookup_additional_strictNode, h.lookup _ hk]
    · rw [lookup_strictNode hp ha, lookup_strictNode hp ha, h.lookup _ hk]

theorem SameAt.prune : ReadsAs (prune (.object node)) (prune (.object other)) := by
  have hroot : (isObjectSchema node && !combinatorKeys.any fun k => hasKey k node) =
      (isObjectSchema other && !combinatorKeys.any fun k => hasKey k other) := by
    simp only [isObjectSchema, combinatorKeys, List.any_cons, List.any_nil, hasKey,
      h.lookup "type" (by decide), h.lookup "properties" (by decide),
      h.lookup "anyOf" (by decide), h.lookup "oneOf" (by decide), h.lookup "allOf" (by decide),
      h.lookup "$ref" (by decide)]
  rw [Schema.prune, Schema.prune, hroot]
  split
  · exact .node h.strictNode
  · exact .node h

end Prune

theorem Enlarges.prune {x y : Json} (h : Enlarges x y) : ReadsAs (prune x) (prune y) := by
  cases h with
  | refl => exact .refl _
  | node _ same => exact same.prune

theorem Enlarges.supplied {x y : Json} (h : Enlarges x y) (options : Options)
    (definitions : Members) (reference : String) :
    Supplied True (Knows fun _ => True) ((Context.start x [] options).target? reference)
      ((Context.start y definitions options).target? reference) := by
  cases ht : (Context.start x [] options).target? reference with
  | none => exact .more trivial _
  | some z =>
      rw [Context.target?] at ht ⊢
      split at ht
      next hl =>
        rw [Context.resolve?_of_definitions rfl] at ht
        obtain ⟨w, hw, hzw⟩ := h.resolve? ht
        have hfound : (Context.start y definitions options).resolve? reference = some w := by
          rw [Context.resolve?, show (Context.start y definitions options).root = y from rfl, hw,
            Option.some_or]
        rw [if_pos hl, hfound]
        exact .found (fun _ _ => trivial) hzw
      next => cases ht

theorem compile_enlarged {x y : Json} {options : Options} (hxy : Enlarges x y)
    (h : ¬FailsWith .unresolvableRef (compile x options [])) (definitions : Members) :
    compile y options definitions = compile x options [] := by
  have hs := fun reference (_ : True) => hxy.supplied options definitions reference
  have hknows : ∀ z, Knows (fun _ => True) z := fun _ _ _ => trivial
  have hrun : (True ∧ FailsWith .unresolvableRef (compile x options [])) ∨
      compile x options [] = compile y options definitions := by
    rw [compile, compile]
    split
    · exact compileNode_beside hs hxy.prune (hknows _)
    · exact compileNode_beside hs hxy.readsAs (hknows _)
  exact (hrun.resolve_left fun hf => h hf.2).symm

/-- Unless a reference of the schema leads nowhere, the result depends neither on the definitions
nor on what else the root says. -/
theorem compile_unread (schema : Json) (options : Options)
    (h : ¬FailsWith .unresolvableRef (compile schema options [])) :
    (∀ definitions, compile schema options definitions = compile schema options []) ∧
      ∀ node extra, schema = .object node →
        (∀ m ∈ extra, m.1 ∉ keywords ∧ hasKey m.1 node = false) →
        ∀ definitions, compile (.object (addEntries node extra)) options definitions =
          compile schema options [] := by
  refine ⟨compile_enlarged (.refl schema) h, ?_⟩
  rintro node extra rfl hextra
  exact compile_enlarged (enlarges_addEntries hextra) h

def letterText : Members := [("maxLength", Json.int 1), ("type", .string "string")]

def letterDocument : Members :=
  [("$defs", .object [("letter", .object letterText)]), ("$ref", .string "#/$defs/letter")]

/-- Another definition of a letter is not read, and neither are two more keys of the document. -/
theorem compile_unread_letter :
    ¬FailsWith .unresolvableRef (compile (.object letterDocument) { maxDepth := 1 } []) ∧
      compile (.object letterDocument) { maxDepth := 1 } [("letter", .bool false)] =
        compile (.object letterDocument) { maxDepth := 1 } [] ∧
      compile (.object (addEntries letterDocument [("definitions", .bool true), ("$id", .null)]))
          { maxDepth := 1 } [("letter", .bool false)] =
        compile (.object letterDocument) { maxDepth := 1 } [] := by
  have hr : Context.resolve? (.start (.object letterDocument) [] { maxDepth := 1 })
      "#/$defs/letter" = some (.object letterText) := by
    rfl
  have hf : Context.foreign? "#/$defs/letter" = none := by
    rfl
  have hok : ∃ v, compile (.object letterDocument) { maxDepth := 1 } [] = .ok v := by
    have hnode : ∀ d : Context, compileNode d (.object letterText) =
        .ok (.ofShape (.string [⟨.maxLength 1, none⟩])) := by
      intro d
      rw [compileNode_eq]
      rfl
    have hstep : compile (.object letterDocument) { maxDepth := 1 } [] =
        targetOf (.start (.object letterDocument) [] { maxDepth := 1 }) "#/$defs/letter" := by
      rw [compile, if_neg (by decide), compileNode_eq]
      rfl
    rw [hstep, targetOf, Context.follow, hf, hr]
    exact ⟨_, hnode _⟩
  have h : ¬FailsWith .unresolvableRef
      (compile (.object letterDocument) { maxDepth := 1 } []) := by
    rintro ⟨e, he, -⟩
    obtain ⟨v, hv⟩ := hok
    rw [hv] at he
    cases he
  have hu := compile_unread (.object letterDocument) { maxDepth := 1 } h
  exact ⟨h, hu.1 _, hu.2 letterDocument _ rfl (by decide) _⟩

end SchemaCheck.Schema
