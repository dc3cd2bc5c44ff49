import SchemaCheck.Schema.Error
import SchemaCheck.Schema.Options
import SchemaCheck.Pointer
import SchemaCheck.Url.Reader

namespace SchemaCheck.Schema

/-- Where a compilation stands. A step to a child or through a reference makes a new context, so
siblings know nothing of each other. -/
structure Context where
  /-- The document that references are resolved in. -/
  root : Json
  /-- Definitions beside the document, for references that it does not resolve. -/
  definitions : Json.Members
  limit : Nat
  path : String
  /-- The references entered on the way here, in order. -/
  entered : List String
  depth : Nat

namespace Context

def start (root : Json) (definitions : Json.Members) (options : Options) : Context :=
  { root, definitions, limit := options.maxDepth, path := "#", entered := [], depth := 0 }

def levelsLeft (c : Context) : Nat := c.limit - c.depth

def descend (c : Context) (segments : List String) : Except Error Context :=
  let path := Pointer.build c.path segments
  if c.depth < c.limit then .ok { c with path, depth := c.depth + 1 }
  else .error (.tooDeep path c.limit)

/-- The context of a reference's target. No reference is entered twice on one way. -/
def enter (c : Context) (reference : String) : Except Error Context :=
  if c.entered.contains reference then .error (.cycle c.path reference)
  else if c.depth < c.limit then
    .ok { c with path := reference, entered := c.entered ++ [reference], depth := c.depth + 1 }
  else .error (.tooDeep c.path c.limit)

def definition? (c : Context) (reference : String) : Option Json :=
  match Pointer.split reference with
  | [keyword, name] =>
    if keyword = "$defs" ∨ keyword = "definitions" then c.definitions.lookup name else none
  | _ => none

/-- The document goes before the definitions. -/
def resolve? (c : Context) (reference : String) : Option Json :=
  (Pointer.resolve? c.root reference).or (c.definition? reference)

/-- What a reference leads to if it is not a path in the document. -/
def foreign? (reference : String) : Option Feature :=
  if Pointer.isLocal reference then none
  else if reference.toList.head? = some '#' then some (.anchor reference)
  else
    match Url.parse? reference with
    | some url => some (.remote url.text)
    | none => some (.relative reference)

/-- The target of a reference, and the context to compile it in. -/
def follow (c : Context) (reference : String) : Except Error (Context × Json) :=
  match foreign? reference with
  | some feature => .error (.unsupported c.path feature)
  | none => do
    let inner ← c.enter reference
    match c.resolve? reference with
    | some target => .ok (inner, target)
    | none => .error (.unresolvable c.path reference)

theorem levelsLeft_descend {c d : Context} {segments : List String}
    (h : c.descend segments = .ok d) : d.levelsLeft < c.levelsLeft := by
  unfold descend at h
  simp only at h
  split at h
  · cases h
    simp only [levelsLeft]
    omega
  · cases h

theorem levelsLeft_enter {c d : Context} {reference : String} (h : c.enter reference = .ok d) :
    d.levelsLeft < c.levelsLeft := by
  unfold enter at h
  split at h
  · cases h
  · split at h
    · cases h
      simp only [levelsLeft]
      omega
    · cases h

theorem enter_of_follow {c d : Context} {reference : String} {target : Json}
    (h : c.follow reference = .ok (d, target)) :
    c.enter reference = .ok d ∧ c.resolve? reference = some target := by
  unfold follow at h
  split at h
  · cases h
  · cases he : c.enter reference with
    | error e => simp [he, bind, Except.bind] at h
    | ok inner =>
      cases hr : c.resolve? reference with
      | none => simp [he, hr, bind, Except.bind] at h
      | some t =>
        simp only [he, hr, bind, Except.bind, Except.ok.injEq, Prod.mk.injEq] at h
        exact ⟨by rw [h.1], by rw [h.2]⟩

theorem levelsLeft_follow {c d : Context} {reference : String} {target : Json}
    (h : c.follow reference = .ok (d, target)) : d.levelsLeft < c.levelsLeft :=
  levelsLeft_enter (enter_of_follow h).1

end Context

end SchemaCheck.Schema
