import SchemaCheck.Proofs.Json.SameValue
import SchemaCheck.Proofs.Schema.TypeLists

namespace SchemaCheck

open Json (Members)

namespace Json

theorem amongValues_of_mem {x : Json} {values : List Json} (h : x ∈ values) :
    x.amongValues values = true :=
  amongValues_iff.2 ⟨x, h, sameValue_refl x⟩

end Json

namespace Schema

def dropEnum (node : Members) : Members := Json.drop ["enum"] node

theorem lookup_dropEnum {node : Members} {key : String} (h : key ≠ "enum") :
    (dropEnum node).lookup key = node.lookup key := by
  rw [dropEnum, Json.lookup_drop, if_neg (by simpa using h)]

theorem lookup_enum_dropEnum (node : Members) : (dropEnum node).lookup "enum" = none := by
  rw [dropEnum, Json.lookup_drop, if_pos (by simp)]

theorem like_dropEnum (node : Members) : Like node (dropEnum node) :=
  like_drop (by decide) node

/-- The node has a type and the enumeration, and no other form or modifier. Null is not let through
beside the type. -/
structure ListsValues (entries : Json) (node : Members) : Prop where
  enum : node.lookup "enum" = some entries
  typed : Json.hasKey "type" node = true
  notNull : ∀ items, node.lookup "type" = some (.array items) → .string "null" ∉ items
  absent : ∀ key ∈ "const" :: "not" :: "nullable" :: leadingKeys, node.lookup key = none

section Refining

variable {path : String} {child : ChildCompiler} {node other : Members} {entries : Json}
  {v w : Validator}

theorem refineEnum_eq_ok_iff (he : node.lookup "enum" = some entries) (hw : w.allowed = none) :
    refineEnum path node w = .ok v ↔ ∃ values, entries = .array values ∧
      (∀ x ∈ values, w.isValid x = true) ∧ v = { w with allowed := some values } := by
  constructor
  · intro h
    rcases refineEnum_eq_ok h with ⟨-, hn⟩ | ⟨values, rfl, hl⟩
    · cases hn.symm.trans he
    · refine ⟨values, Option.some.inj (he.symm.trans hl), fun x hx => ?_, rfl⟩
      have hl : node.lookup "enum" = (some values).map Json.array := hl
      by_contra hr
      obtain ⟨e, herr⟩ := refineEnum_error hl path rfl hx (mt Validator.isValid_iff.2 hr)
      cases h.symm.trans herr
  · rintro ⟨values, rfl, hvalid, rfl⟩
    have hl : node.lookup "enum" = (some values).map Json.array := he
    refine refineEnum_ok hl hw fun us hus x hx => ?_
    cases hus
    exact Validator.isValid_iff.1 (hvalid x hx)

theorem refineEnum_withMetadata (w : Validator) :
    refineEnum path node (withMetadata other w) =
      (refineEnum path node w).map (withMetadata other) := by
  have hvalid : ∀ x, (withMetadata other w).isValid x = w.isValid x := fun x => by
    rw [Bool.eq_iff_iff, Validator.isValid_iff, Validator.isValid_iff, Validator.Accepts,
      Validator.Accepts, eval_withMetadata]
  rw [refineEnum, refineEnum]
  simp only [hvalid]
  split
  next => rfl
  next => split <;> rfl
  next => rfl

theorem finish_eq_refineEnum (hn : node.lookup "not" = none) :
    finish path child node w = refineEnum path node (withMetadata node w) := by
  rw [finish, refineEnum_withMetadata]
  cases refineEnum path node w with
  | error e => rfl
  | ok v =>
      change setExcluded child node v >>= _ = _
      rw [setExcluded, hn]
      rfl

theorem isValid_allowed {values : List Json} {x : Json} (hn : w.nullable = false)
    (ha : w.allowed = none) : Validator.isValid { w with allowed := some values } x = true ↔
      w.isValid x = true ∧ x.amongValues values = true := by
  rw [Validator.isValid_iff, Validator.isValid_iff, Validator.accepts_iff, Validator.accepts_iff]
  simp only [hn, ha, allows]
  tauto

end Refining

namespace ListsValues

variable {c : Context} {node : Members} {entries : Json} {v w : Validator}

theorem ofNode (h : ListsValues entries node) : ∃ y, node.lookup "type" = some y ∧
    Form.ofNode node = Form.ofType y ∧ Form.ofNode (dropEnum node) = Form.ofType y := by
  obtain ⟨y, hy⟩ := Option.isSome_iff_exists.1 h.typed
  have hleading : ∀ key ∈ leadingKeys, node.lookup key = none :=
    fun key hk => h.absent key (by revert key; decide)
  have hconst : node.lookup "const" = none := h.absent _ (by decide)
  refine ⟨y, hy, ofNode_of_type hleading hconst hy, ?_⟩
  refine ofNode_of_type (fun key hk => ?_) ?_ ?_
  · rw [lookup_dropEnum (by rintro rfl; revert hk; decide), hleading key hk]
  · rw [lookup_dropEnum (by decide), hconst]
  · rw [lookup_dropEnum (by decide), hy]

theorem finish_dropEnum (h : ListsValues entries node) (path : String) (child : ChildCompiler)
    (w : Validator) : finish path child (dropEnum node) w = .ok (withMetadata node w) := by
  have habsent : ∀ key ∈ ["enum", "not"], (dropEnum node).lookup key = none := by
    intro key hk
    rcases List.mem_cons.1 hk with rfl | hk
    · exact lookup_enum_dropEnum node
    · obtain rfl := List.mem_singleton.1 hk
      rw [lookup_dropEnum (by decide), h.absent _ (by decide)]
  rw [finish_of_absent habsent]
  simp only [withMetadata, lookup_dropEnum (show "default" ≠ "enum" by decide),
    lookup_dropEnum (show "description" ≠ "enum" by decide),
    lookup_dropEnum (show "title" ≠ "enum" by decide)]

theorem setNullable_eq (h : ListsValues entries node) (path : String) (w : Validator) :
    setNullable path node w = .ok w ∧ setNullable path (dropEnum node) w = .ok w := by
  have hn : node.lookup "nullable" = none := h.absent _ (by decide)
  constructor
  · rw [setNullable, hn]
  · rw [setNullable, lookup_dropEnum (by decide), hn]

theorem compileNode_dropEnum (h : ListsValues entries node) {ts : List TypeName} {form : Form}
    (hts : Form.ofTypes ts = .ok form) (hf : Form.ofNode (dropEnum node) = .ok form) :
    Schema.compileNode c (.object (dropEnum node)) =
      compileTypes c.path (childOf c) node ts >>= fun w => .ok (withMetadata node w) := by
  rw [compileNode_of_types ts hts hf, ← (like_dropEnum node).compileTypes]
  refine bind_congr fun w => ?_
  rw [(h.setNullable_eq c.path w).2]
  exact h.finish_dropEnum c.path (childOf c) w

theorem compileNode_eq (h : ListsValues entries node) : Schema.compileNode c (.object node) =
    Schema.compileNode c (.object (dropEnum node)) >>= refineEnum c.path node := by
  obtain ⟨y, -, hf, hf'⟩ := h.ofNode
  cases hy : Form.ofType y with
  | error complaint =>
      rw [hy] at hf hf'
      simp only [Schema.compileNode_eq, compileStep, compileMembers, hf, hf']
      rfl
  | ok form =>
      rw [hy] at hf hf'
      obtain ⟨ts, hts, -⟩ := ofType_eq_ok hy
      rw [compileNode_of_types ts hts hf, h.compileNode_dropEnum hts hf', bind_assoc]
      refine bind_congr fun w => ?_
      rw [(h.setNullable_eq c.path w).1]
      exact finish_eq_refineEnum (h.absent _ (by decide))

theorem unmodified (h : ListsValues entries node)
    (hw : Schema.compileNode c (.object (dropEnum node)) = .ok w) :
    w.nullable = false ∧ w.allowed = none := by
  obtain ⟨y, hy, -, hf⟩ := h.ofNode
  obtain ⟨form, hform⟩ := exists_ofNode_of_compileNode hw
  obtain ⟨ts, hts, hnames⟩ := ofType_eq_ok (hf.symm.trans hform)
  rw [h.compileNode_dropEnum hts hform] at hw
  obtain ⟨u, hu, hw⟩ := bind_eq_ok hw
  cases hw
  refine ⟨Bool.eq_false_iff.2 fun hn => ?_, (compileTypes_produces u hu).1⟩
  obtain ⟨hnull, t, ht, hne⟩ := (nullable_of_compileTypes hu).1 hn
  rcases hnames with ⟨s, rfl⟩ | rfl
  · exact hne ((List.mem_singleton.1 ht).trans (List.mem_singleton.1 hnull).symm)
  · exact h.notNull _ hy (List.mem_map.2 ⟨.null, hnull, rfl⟩)

end ListsValues

/-- A node of types with an enumeration compiles just if it does without, to a validator that
accepts each entry. It accepts the listed values that this validator accepts, and so each entry. -/
theorem compileNode_listsValues {c : Context} {node : Members} {entries : Json}
    (h : ListsValues entries node) :
    ((∃ v, compileNode c (.object node) = .ok v) ↔
      ∃ w values, compileNode c (.object (dropEnum node)) = .ok w ∧ entries = .array values ∧
        ∀ x ∈ values, w.isValid x = true) ∧
    ∀ v w values, compileNode c (.object node) = .ok v →
      compileNode c (.object (dropEnum node)) = .ok w → entries = .array values →
      (∀ x, v.isValid x = true ↔ w.isValid x = true ∧ x.amongValues values = true) ∧
        ∀ x ∈ values, v.isValid x = true := by
  refine ⟨⟨?_, ?_⟩, ?_⟩
  · rintro ⟨v, hv⟩
    rw [h.compileNode_eq] at hv
    obtain ⟨w, hw, hv⟩ := bind_eq_ok hv
    obtain ⟨values, rfl, hvalid, -⟩ := (refineEnum_eq_ok_iff h.enum (h.unmodified hw).2).1 hv
    exact ⟨w, values, hw, rfl, hvalid⟩
  · rintro ⟨w, values, hw, rfl, hvalid⟩
    refine ⟨{ w with allowed := some values }, ?_⟩
    rw [h.compileNode_eq, hw]
    exact (refineEnum_eq_ok_iff h.enum (h.unmodified hw).2).2 ⟨values, rfl, hvalid, rfl⟩
  · rintro v w values hv hw rfl
    obtain ⟨hnullable, hallowed⟩ := h.unmodified hw
    rw [h.compileNode_eq, hw] at hv
    obtain ⟨_, ⟨⟩, hvalid, rfl⟩ := (refineEnum_eq_ok_iff h.enum hallowed).1 hv
    have hiff : ∀ x, Validator.isValid { w with allowed := some values } x = true ↔
        w.isValid x = true ∧ x.amongValues values = true :=
      fun x => isValid_allowed hnullable hallowed
    exact ⟨hiff, fun x hx => (hiff x).2 ⟨hvalid x hx, Json.amongValues_of_mem hx⟩⟩

def origins : List Json := [.object [("x", Json.int 0)], .string "origin"]

def originNode : Members :=
  [("enum", .array origins), ("properties", .object [("x", .object [("type", .string "number")])]),
    ("type", .array [.string "object", .string "string"])]

def pointOrName : Validator :=
  .ofShape (.union [.ofShape (.object [⟨"x", false, .ofShape (.number false [])⟩] .accept []),
    .ofShape (.string [])])

theorem compileNode_listsValues_originNode :
    ListsValues (.array origins) originNode ∧
      compileNode (.start (.object originNode) [] {}) (.object originNode) =
        .ok { pointOrName with allowed := some origins } ∧
      compileNode (.start (.object originNode) [] {}) (.object (dropEnum originNode)) =
        .ok pointOrName ∧
      (∀ x, Validator.isValid { pointOrName with allowed := some origins } x = true ↔
        pointOrName.isValid x = true ∧ x.amongValues origins = true) ∧
      ∀ x ∈ origins, Validator.isValid { pointOrName with allowed := some origins } x = true := by
  have h : ListsValues (.array origins) originNode :=
    ⟨rfl, rfl, fun items hi => by cases hi; simp, by decide⟩
  have hw : compileNode (.start (.object originNode) [] {}) (.object (dropEnum originNode)) =
      .ok pointOrName := by
    with_unfolding_all rfl
  have hv : compileNode (.start (.object originNode) [] {}) (.object originNode) =
      .ok { pointOrName with allowed := some origins } := by
    with_unfolding_all rfl
  exact ⟨h, hv, hw, (compileNode_listsValues h).2 _ _ _ hv hw rfl⟩

end Schema

end SchemaCheck
