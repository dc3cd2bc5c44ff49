import SchemaCheck.Proofs.Json.Nesting
import SchemaCheck.Proofs.Schema.Form
import SchemaCheck.Proofs.Validator.Export

namespace SchemaCheck

open Json (Members drop int)

namespace Schema

def SpellsCount (x : Json) : Prop := ∃ n ≤ Json.Number.largestCount, x = int n

def SpellsPattern (x : Json) : Prop := ∃ p : Pattern, x = .string p.source

/-- The keyword of a format that is not an alias of another. -/
def SpellsFormat (x : Json) : Prop := ∃ f : Format, x = .string f.keyword

/-- A bound is an integer of moderate size or a double with a fraction. -/
def SpellsBound (x : Json) : Prop :=
  (∃ i : Int, x = int i ∧ i.natAbs < 9 * 10 ^ 15) ∨
    ∃ d : Binary64, x = .number (.double d) ∧ d.isWhole = false

def SpellsStep (x : Json) : Prop :=
  SpellsBound x ∧ ∃ n, x = .number n ∧ 0 < n.toBinary64.signedUnits

def SpellsFlag (x : Json) : Prop := x = .bool true

abbrev Spelling := List (String × (Json → Prop))

def Spelling.keywords (spelling : Spelling) : List String := spelling.map (·.1)

def stringSpelling : Spelling :=
  [("minLength", SpellsCount), ("maxLength", SpellsCount), ("pattern", SpellsPattern),
    ("format", SpellsFormat)]

def numberSpelling : Spelling :=
  [("minimum", SpellsBound), ("maximum", SpellsBound), ("exclusiveMinimum", SpellsBound),
    ("exclusiveMaximum", SpellsBound), ("multipleOf", SpellsStep)]

def arraySpelling : Spelling :=
  [("minItems", SpellsCount), ("maxItems", SpellsCount), ("uniqueItems", SpellsFlag)]

def objectSpelling : Spelling :=
  [("minProperties", SpellsCount), ("maxProperties", SpellsCount)]

/-- Any of the keywords may be absent from the node. -/
def Spells (spelling : Spelling) (node : Members) : Prop :=
  ∀ e ∈ spelling, ∀ x, node.lookup e.1 = some x → e.2 x

def annotationKeys : List String := ["default", "description", "not", "title"]

def KeysWithin (keys : List String) (node : Members) : Prop :=
  ∀ key ∈ Json.keys node, key ∈ keys ++ annotationKeys

instance (keys : List String) (node : Members) : Decidable (KeysWithin keys node) :=
  inferInstanceAs (Decidable (∀ key ∈ Json.keys node, key ∈ keys ++ annotationKeys))

def SaysType (t : TypeName) (nullable : Bool) (node : Members) : Prop :=
  node.lookup "type" = some (if nullable then .array [.string t.name, .string "null"]
    else .string t.name)

/-- The node requires nothing, or some of the properties in order. -/
def RequiresSome (properties node : Members) : Prop :=
  ∀ x, node.lookup "required" = some x → ∃ names : List String, x = .array (names.map .string) ∧
    names ≠ [] ∧ names.Pairwise (· < ·) ∧ ∀ name ∈ names, name ∈ Json.keys properties

def MentionsArray : Json → Prop
  | .object node => node.lookup "type" = some (.string "array") ∨
    ∃ names, node.lookup "type" = some (.array names) ∧ .string "array" ∈ names
  | _ => False

def IsText (x : Json) : Prop := ∃ text, x = .string text

mutual

/-- A canonical form beside annotations: texts, a canonical exclusion, and any value as default. -/
inductive Canonical : Json → Prop
  | node {node : Members} (form : CanonicalForm node)
      (description : ∀ x, node.lookup "description" = some x → IsText x)
      (title : ∀ x, node.lookup "title" = some x → IsText x)
      (excluded : ∀ schema, node.lookup "not" = some schema → Canonical schema) :
      Canonical (.object node)

inductive CanonicalForm : Members → Prop
  | any {node : Members} (keys : KeysWithin [] node) : CanonicalForm node
  | string {node : Members} {nullable : Bool}
      (keys : KeysWithin ("type" :: stringSpelling.keywords) node)
      (type : SaysType .string nullable node) (constraints : Spells stringSpelling node) :
      CanonicalForm node
  | number {node : Members} {nullable : Bool} (integer : Bool)
      (keys : KeysWithin ("type" :: numberSpelling.keywords) node)
      (type : SaysType (if integer then .integer else .number) nullable node)
      (constraints : Spells numberSpelling node) : CanonicalForm node
  | boolean {node : Members} {nullable : Bool} (keys : KeysWithin ["type"] node)
      (type : SaysType .boolean nullable node) : CanonicalForm node
  | null {node : Members} (keys : KeysWithin ["type"] node) (type : SaysType .null false node) :
      CanonicalForm node
  | const {node : Members} {value : Json} (keys : KeysWithin ["const"] node)
      (lookup : node.lookup "const" = some value) : CanonicalForm node
  | enum {node : Members} {values : List Json} (keys : KeysWithin ["enum"] node)
      (lookup : node.lookup "enum" = some (.array values)) (length : values.length ≠ 1) :
      CanonicalForm node
  | array {node : Members} {nullable : Bool} {items : Json}
      (keys : KeysWithin ("type" :: "items" :: arraySpelling.keywords) node)
      (type : SaysType .array nullable node) (lookup : node.lookup "items" = some items)
      (element : Canonical items) (constraints : Spells arraySpelling node) : CanonicalForm node
  | tuple {node : Members} {nullable : Bool} {positions : List Json}
      (keys : KeysWithin ["type", "items", "minItems", "maxItems"] node)
      (type : SaysType .array nullable node)
      (lookup : node.lookup "items" = some (.array positions))
      (schemas : ∀ schema ∈ positions, Canonical schema)
      (min : node.lookup "minItems" = some (int positions.length))
      (max : node.lookup "maxItems" = some (int positions.length)) : CanonicalForm node
  | object {node properties : Members} {nullable : Bool}
      (keys : KeysWithin ("type" :: "properties" :: "required" :: objectSpelling.keywords) node)
      (type : SaysType .object nullable node)
      (lookup : node.lookup "properties" = some (.object properties))
      (schemas : ∀ p ∈ properties, Canonical p.2) (required : RequiresSome properties node)
      (constraints : Spells objectSpelling node) : CanonicalForm node
  | oneOf {node : Members} {schemas : List Json} (keys : KeysWithin ["oneOf"] node)
      (lookup : node.lookup "oneOf" = some (.array schemas)) (two : 2 ≤ schemas.length)
      (alternatives : ∀ schema ∈ schemas, Canonical schema) : CanonicalForm node
  | allOf {node : Members} {schemas : List Json} (keys : KeysWithin ["allOf"] node)
      (lookup : node.lookup "allOf" = some (.array schemas)) (two : 2 ≤ schemas.length)
      (branches : ∀ schema ∈ schemas, Canonical schema) : CanonicalForm node
  | anyOf {node : Members} {schemas : List Json} (keys : KeysWithin ["anyOf"] node)
      (lookup : node.lookup "anyOf" = some (.array schemas)) (two : 2 ≤ schemas.length)
      (unmerged : ∀ schema ∈ schemas, ¬ MentionsArray schema)
      (alternatives : ∀ schema ∈ schemas, Canonical schema) : CanonicalForm node

end

theorem KeysWithin.absent {keys : List String} {node : Members} (h : KeysWithin keys node)
    {key : String} (hk : key ∉ keys ++ annotationKeys) : node.lookup key = none := by
  refine Option.eq_none_iff_forall_ne_some.2 fun x hx => hk (h key ?_)
  exact Json.mem_keys.2 ⟨x, hx⟩

theorem spells_cons {keyword : String} {spelled : Json → Prop} {rest : Spelling} {node : Members} :
    Spells ((keyword, spelled) :: rest) node ↔
      (∀ x, node.lookup keyword = some x → spelled x) ∧ Spells rest node :=
  List.forall_mem_cons

/-- The schema is compiled, wherever it stands, to a validator that is exported to it. -/
def Reproduces (child : ChildCompiler) (x : Json) : Prop :=
  ∀ segments, ∃ v, child segments x = .ok v ∧ v.toSchema = x

def SaysSame (members node : Members) : Prop :=
  ∀ key, members.lookup key = (drop annotationKeys node).lookup key

theorem saysSame_of_keys {keys : List String} {members node : Members}
    (hk : ∀ key ∈ annotationKeys, key ∉ keys) (keys_within : KeysWithin keys node)
    (absent : ∀ key, key ∉ keys → members.lookup key = none)
    (present : ∀ key ∈ keys, members.lookup key = node.lookup key) : SaysSame members node := by
  intro key
  rw [Json.lookup_drop]
  split
  next ha => exact absent key (hk key ha)
  next ha =>
    by_cases hm : key ∈ keys
    · exact present key hm
    · rw [absent key hm, keys_within.absent fun h => (List.mem_append.1 h).elim hm ha]

section Form

variable (path : String) (child : ChildCompiler) (follow : String → Result) (node : Members)

/-- The form of the node is compiled to a shape whose export says what the node says. -/
structure FormReproduced (form : Form) (s : Shape) (nullable : Bool) : Prop where
  read : Form.ofNode node = .ok form
  resolved : ∀ reference, form ≠ .ref reference
  listed : form.isEnum = true ∨ node.lookup "enum" = none
  compiled : compileForm path child follow node form = .ok { Validator.ofShape s with nullable }
  exported : SaysSame ({ Validator.ofShape s with nullable } : Validator).base node

def NodeReproduced : Prop :=
  ∃ form s nullable, FormReproduced path child follow node form s nullable

end Form

variable {path : String} {child : ChildCompiler} {follow : String → Result} {node : Members}

theorem setExcluded_reproduces {v : Validator} (hv : v.excluded = none)
    (hn : ∀ schema, node.lookup "not" = some schema → Reproduces child schema) :
    ∃ excluded, setExcluded child node v = .ok { v with excluded } ∧
      exportOption excluded = node.lookup "not" := by
  rw [setExcluded]
  cases hl : node.lookup "not" with
  | none =>
      refine ⟨none, ?_, rfl⟩
      cases v
      cases hv
      rfl
  | some schema =>
      obtain ⟨u, hu, hx⟩ := hn schema hl ["not"]
      refine ⟨some u, ?_, ?_⟩
      · simp only [hu, bind, Except.bind]
      · rw [exportOption, ← Validator.toSchema, hx]

theorem map_string_of_texts {key : String}
    (h : ∀ x, node.lookup key = some x → IsText x) :
    ((node.lookup key).bind Json.string?).map Json.string = node.lookup key := by
  cases hl : node.lookup key with
  | none => rfl
  | some x =>
      obtain ⟨text, rfl⟩ := h x hl
      rfl

theorem toMembers_withMetadata (sorted : Json.Sorted node)
    (description : ∀ x, node.lookup "description" = some x → IsText x)
    (title : ∀ x, node.lookup "title" = some x → IsText x) {s : Shape} {nullable : Bool}
    {excluded : Option Validator} (hx : exportOption excluded = node.lookup "not")
    (h : SaysSame ({ Validator.ofShape s with nullable } : Validator).base node) :
    (withMetadata node { Validator.ofShape s with nullable, excluded }).toMembers = node := by
  refine Json.eq_of_lookup_eq (sorted_toMembers _) sorted fun key => ?_
  have hbase : (withMetadata node { Validator.ofShape s with nullable, excluded }).base.lookup key =
      if key ∈ annotationKeys then none else node.lookup key :=
    (h key).trans (Json.lookup_drop ..)
  rw [Validator.toMembers_eq]
  simp only [lookup_putSome, hbase]
  simp only [withMetadata, Validator.ofShape, Option.or_none, map_string_of_texts description,
    map_string_of_texts title, hx, Option.map_none, Option.none_or]
  by_cases ht : key = "title"
  · subst ht
    simp [annotationKeys]
  · by_cases hd : key = "description"
    · subst hd
      simp [annotationKeys]
    · by_cases hf : key = "default"
      · subst hf
        simp [annotationKeys]
      · by_cases hn : key = "not"
        · subst hn
          simp [annotationKeys]
        · simp [annotationKeys, ht, hd, hf, hn]

theorem compileMembers_reproduces (hf : NodeReproduced path child follow node)
    (sorted : Json.Sorted node)
    (description : ∀ x, node.lookup "description" = some x → IsText x)
    (title : ∀ x, node.lookup "title" = some x → IsText x)
    (excluded : ∀ schema, node.lookup "not" = some schema → Reproduces child schema) :
    ∃ v, compileMembers path child follow node = .ok v ∧ v.toMembers = node := by
  obtain ⟨form, s, nullable, hf⟩ := hf
  have hn : node.lookup "nullable" = none := by
    have h := hf.exported "nullable"
    rw [Json.lookup_drop, if_neg (by decide), Validator.base_lookup_eq_none _ (by decide)
      (by decide) fun _ hm => absurd (Shape.exportKeys_subset _ hm) (by decide)] at h
    exact h.symm
  obtain ⟨u, hu, hx⟩ := setExcluded_reproduces
    (v := { Validator.ofShape s with nullable }) rfl excluded
  refine ⟨_, ?_, toMembers_withMetadata sorted description title hx hf.exported⟩
  rw [compileMembers_eq hf.read hf.resolved, hf.compiled]
  change (modify path child node form _ >>= fun v => .ok (withMetadata node v)) = _
  rw [modify_of_absent hn hf.listed, hu]
  rfl

end Schema

end SchemaCheck
