import SchemaCheck.Proofs.Pointer
import SchemaCheck.Proofs.Schema.Depth
import SchemaCheck.Proofs.Schema.Unread

namespace SchemaCheck.Schema

open Json (Members hasKey put)

def definitionKeys : List String := ["$defs", "definitions"]

theorem mem_definitionKeys {key : String} :
    key ∈ definitionKeys ↔ key = "$defs" ∨ key = "definitions" := by
  simp [definitionKeys]

def embed (definitions node : Members) : Members :=
  put "$defs" (.object definitions) (put "definitions" (.object definitions) node)

/-- The reference does not ask for the definitions as a whole, and if it leads into them, then to a
definition and no further. -/
def AsksByName (reference : String) : Prop :=
  reference ≠ "#/$defs" ∧ reference ≠ "#/definitions" ∧
    ("#/$defs/".toList <+: reference.toList ∨ "#/definitions/".toList <+: reference.toList →
      (Pointer.split reference).length = 2)

instance (reference : String) : Decidable (AsksByName reference) :=
  inferInstanceAs (Decidable (_ ≠ _ ∧ _ ≠ _ ∧ (_ ∨ _ → _ = _)))

def allReferences (node definitions : Members) : List String :=
  (Json.object node).references ++ definitions.flatMap (·.2.references)

section Resolution

variable {definitions node : Members}

theorem lookup_embed (definitions node : Members) (key : String) :
    (embed definitions node).lookup key =
      if key ∈ definitionKeys then some (.object definitions) else node.lookup key := by
  rw [embed, Json.lookup_put, Json.lookup_put]
  by_cases hd : key = "$defs"
  · rw [if_pos hd, if_pos (mem_definitionKeys.2 (.inl hd))]
  · by_cases hn : key = "definitions"
    · rw [if_neg hd, if_pos hn, if_pos (mem_definitionKeys.2 (.inr hn))]
    · rw [if_neg hd, if_neg hn, if_neg fun hk => (mem_definitionKeys.1 hk).elim hd hn]

theorem enlarges_embed (h : ∀ key ∈ definitionKeys, hasKey key node = false) :
    Enlarges (.object node) (.object (embed definitions node)) := by
  refine .node ?_ ?_
  · intro key x hl
    rw [lookup_embed, if_neg, hl]
    intro hk
    have hn := h key hk
    rw [hasKey, hl] at hn
    cases hn
  · intro key hk
    rw [lookup_embed, if_neg]
    intro hd
    revert key
    decide

theorem AsksByName.split {reference key : String} {rest : List String} (h : AsksByName reference)
    (hl : Pointer.isLocal reference = true) (hs : Pointer.split reference = key :: rest)
    (hk : key ∈ definitionKeys) : ∃ name, rest = [name] := by
  have hkey := mem_definitionKeys.1 hk
  have hplain : '~' ∉ key.toList ∧ '/' ∉ key.toList := by
    rcases hkey with rfl | rfl <;> decide
  obtain ⟨hd, hn, hlength⟩ := h
  have htwo : (Pointer.split reference).length = 2 := by
    rcases Pointer.toList_of_split hl hs hplain.1 hplain.2 with ⟨-, hr⟩ | hr
    · rcases hkey with rfl | rfl
      · exact absurd (String.toList_injective hr) hd
      · exact absurd (String.toList_injective hr) hn
    · rcases hkey with rfl | rfl
      · exact hlength (.inl hr)
      · exact hlength (.inr hr)
  rw [hs, List.length_cons] at htwo
  exact List.length_eq_one_iff.1 (Nat.succ.inj htwo)

theorem definition?_eq_none {c : Context} {reference : String}
    (h : ∀ key name, Pointer.split reference = [key, name] → key ∉ definitionKeys) :
    c.definition? reference = none := by
  rw [Context.definition?]
  split
  next key name hs =>
    exact if_neg fun hk => h key name hs (mem_definitionKeys.2 hk)
  next => rfl

theorem resolve?_embed (options : Options)
    (h : ∀ key ∈ definitionKeys, hasKey key node = false) {reference : String}
    (hr : AsksByName reference) (hl : Pointer.isLocal reference = true)
    (hroot : Pointer.split reference ≠ []) :
    (Context.start (.object (embed definitions node)) [] options).resolve? reference =
      (Context.start (.object node) definitions options).resolve? reference := by
  obtain ⟨key, rest, hs⟩ := List.exists_cons_of_ne_nil hroot
  rw [Context.resolve?_of_definitions rfl, Context.resolve?, Pointer.resolve?, Pointer.resolve?,
    if_pos hl, if_pos hl]
  rw [show (Context.start (.object node) definitions options).root = .object node from rfl,
    show (Context.start (.object (embed definitions node)) [] options).root =
      .object (embed definitions node) from rfl, hs, List.foldlM_cons, List.foldlM_cons,
    Pointer.step?, Pointer.step?, lookup_embed]
  by_cases hk : key ∈ definitionKeys
  · -- the document has nothing under the key, so the name is looked up among the definitions
    obtain ⟨name, rfl⟩ := hr.split hl hs hk
    have habsent : node.lookup key = none := by simpa [hasKey] using h key hk
    rw [if_pos hk, habsent, Context.definition?, hs]
    simp only [if_pos (mem_definitionKeys.1 hk)]
    exact bind_pure (definitions.lookup name)
  · have hnone : (Context.start (.object node) definitions options).definition? reference =
        none := by
      refine definition?_eq_none fun key' name hs' => ?_
      obtain ⟨rfl, -⟩ := List.cons.inj (hs.symm.trans hs')
      exact hk
    rw [if_neg hk, hnone, Option.or_none]

theorem supplied_embed (definitions : Members) (options : Options)
    (h : ∀ key ∈ definitionKeys, hasKey key node = false) {reference : String}
    (hr : AsksByName reference) :
    Supplied False (Knows (· ∈ allReferences node definitions))
      ((Context.start (.object node) definitions options).target? reference)
      ((Context.start (.object (embed definitions node)) [] options).target? reference) := by
  have hnode : Knows (· ∈ allReferences node definitions) (.object node) :=
    fun _ hm => List.mem_append_left _ hm
  have hdefinitions : ∀ m ∈ definitions, Knows (· ∈ allReferences node definitions) m.2 :=
    fun m hm _ hd => List.mem_append_right _ (List.mem_flatMap.2 ⟨m, hm, hd⟩)
  rw [Context.target?, Context.target?]
  by_cases hl : Pointer.isLocal reference = true
  · rw [if_pos hl, if_pos hl]
    by_cases hroot : Pointer.split reference = []
    · have hwhole : ∀ c : Context, c.resolve? reference = some c.root := by
        intro c
        rw [Context.resolve?, Pointer.resolve?, if_pos hl, hroot]
        rfl
      rw [hwhole, hwhole]
      exact .found hnode (enlarges_embed h).readsAs
    · rw [resolve?_embed options h hr hl hroot]
      exact supplied_self fun x hx =>
        Context.of_resolve? (fun hp hy => hy.part hp) hnode hdefinitions hx
  · rw [if_neg hl, if_neg hl]
    exact .missing

end Resolution

theorem references_prune (schema : Json) : (prune schema).references ⊆ schema.references :=
  (bounded_prune ⟨Nat.le_refl schema.height, List.Subset.refl _⟩).references_subset

/-- If all references ask for definitions by name, it does not matter whether the definitions are
supplied beside the document or stand in it. -/
theorem compile_embedded {node definitions : Members}
    (h : ∀ key ∈ definitionKeys, hasKey key node = false)
    (hr : ∀ reference ∈ allReferences node definitions, AsksByName reference) (options : Options) :
    compile (.object node) options definitions =
      compile (.object (embed definitions node)) options [] := by
  have hs := fun reference hm => supplied_embed definitions options h (hr reference hm)
  have hnode : Knows (· ∈ allReferences node definitions) (.object node) :=
    fun _ hm => List.mem_append_left _ hm
  have hpruned : Knows (· ∈ allReferences node definitions) (prune (.object node)) :=
    fun reference hm => hnode reference (references_prune _ hm)
  rw [compile, compile]
  split
  · exact (compileNode_beside hs (enlarges_embed h).prune hpruned).resolve_left fun hf => hf.1
  · exact (compileNode_beside hs (enlarges_embed h).readsAs hnode).resolve_left fun hf => hf.1

def listNode : Members :=
  [("items", .object [("$ref", .string "#/definitions/")]), ("type", .string "array")]

def wholeNode : Members := [("$ref", .string "#")]

theorem compile_embedded_listNode :
    compile (.object [("not", .object [("$ref", .string "#/$defs/a~1b")])]) {}
        [("", .object wholeNode), ("a/b", .object listNode)] =
      compile (.object (embed [("", .object wholeNode), ("a/b", .object listNode)]
        [("not", .object [("$ref", .string "#/$defs/a~1b")])])) {} [] := by
  apply compile_embedded
  · decide
  · decide

end SchemaCheck.Schema
