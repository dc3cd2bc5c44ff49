import SchemaCheck.Proofs.Json.Location
import SchemaCheck.Proofs.Schema.Agreement

namespace SchemaCheck.Schema

open Json (Members)

def ChildCompiler.failing (child : ChildCompiler) (segments : List String) (e : Error) :
    ChildCompiler :=
  fun others x => if others = segments then .error e else child others x

def ChildCompiler.Below (child child' : ChildCompiler) : Prop :=
  ∀ segments x v, child segments x = .ok v → child' segments x = .ok v

/-- The result is found by asking for children in turn, all of them among `P`. It is the first error
of a child, or an error among `Q`, or a value. -/
inductive Asks (P : List String → Json → Prop) (Q : Error → Prop) {α : Type} :
    (ChildCompiler → Except Error α) → Prop
  | ok (a : α) : Asks P Q fun _ => .ok a
  | error {e : Error} (h : Q e) : Asks P Q fun _ => .error e
  | ask {segments : List String} {x : Json} (h : P segments x)
    {k : Validator → ChildCompiler → Except Error α} (hk : ∀ v, Asks P Q (k v)) :
    Asks P Q fun child => child segments x >>= fun v => k v child

namespace Asks

variable {P : List String → Json → Prop} {Q : Error → Prop} {α β : Type}

theorem bind {f : ChildCompiler → Except Error α} {g : α → ChildCompiler → Except Error β}
    (hf : Asks P Q f) (hg : ∀ a, Asks P Q (g a)) :
    Asks P Q fun child => f child >>= fun a => g a child := by
  induction hf with
  | ok a => exact hg a
  | error h => exact .error h
  | ask h _ ih =>
      simp only [bind_assoc]
      exact .ask h ih

theorem map {f : ChildCompiler → Except Error α} (hf : Asks P Q f) (g : α → β) :
    Asks P Q fun child => (f child).map g := by
  induction hf with
  | ok a => exact .ok (g a)
  | error h => exact .error h
  | @ask segments x h k _ ih =>
      have hmap : ∀ child : ChildCompiler, (child segments x >>= fun v => k v child).map g =
          child segments x >>= fun v => (k v child).map g := by
        intro child
        cases child segments x <;> rfl
      simp only [hmap]
      exact .ask h ih

theorem of_errors {r : Except Error α} (h : ErrorsIn Q r) : Asks P Q fun _ => r := by
  cases r with
  | ok a => exact .ok a
  | error e => exact .error (h e rfl)

theorem child {segments : List String} {x : Json} (h : P segments x) :
    Asks P Q fun child => child segments x := by
  have hk : ∀ v : Validator, Asks P Q fun _ : ChildCompiler => Except.ok v := .ok
  have heq : (fun child : ChildCompiler => child segments x) =
      fun child => child segments x >>= fun v => .ok v :=
    funext fun child => (bind_pure (child segments x)).symm
  rw [heq]
  exact .ask h hk

/-- An error is found whatever becomes of the children that failed, or it is that of a child that
is asked for, so that any other error there would be found as well. -/
theorem error_cases {f : ChildCompiler → Except Error α} (h : Asks P Q f) {child : ChildCompiler}
    {e : Error} (he : f child = .error e) :
    (Q e ∧ ∀ child', child.Below child' → f child' = .error e) ∨
      ∃ segments x, P segments x ∧ child segments x = .error e ∧
        ∀ e', f (child.failing segments e') = .error e' := by
  induction h with
  | ok a => cases he
  | error h =>
      cases he
      exact .inl ⟨h, fun _ _ => rfl⟩
  | @ask segments x h k _ ih =>
      simp only at he ⊢
      -- the first child that fails decides; up to there all answers stay the same
      cases hx : child segments x with
      | error e' =>
          right
          rw [hx] at he
          cases he
          refine ⟨segments, x, h, hx, fun e' => ?_⟩
          simp only [ChildCompiler.failing, if_pos]
          rfl
      | ok v =>
          rw [hx] at he
          rcases ih v he with ⟨hq, hown⟩ | ⟨segments', y, hy, hfail, hasked⟩
          · left
            refine ⟨hq, fun child' hb => ?_⟩
            simp only [hb segments x v hx]
            exact hown child' hb
          · right
            refine ⟨segments', y, hy, hfail, fun e' => ?_⟩
            by_cases hs : segments = segments'
            · simp only [ChildCompiler.failing, if_pos hs]
              rfl
            · have hx' : child.failing segments' e' segments x = .ok v := by
                rw [ChildCompiler.failing, if_neg hs, hx]
              simp only [hx']
              exact hasked e'

end Asks

structure Holds (P : List String → Json → Prop) (node : Members) : Prop where
  value {keyword : String} {x : Json} (hk : keyword = "items" ∨ keyword = "not")
    (h : node.lookup keyword = some x) : P [keyword] x
  unknown {x : Members} (h : node.lookup "additionalProperties" = some (.object x)) :
    P ["additionalProperties"] (.object x)
  entry {keyword : String} {xs : List Json} {i : Nat} {x : Json}
    (h : node.lookup keyword = some (.array xs)) (hx : xs[i]? = some x) : P [keyword, toString i] x
  property {properties : Members} {name : String} {x : Json}
    (h : node.lookup "properties" = some (.object properties)) (hx : (name, x) ∈ properties) :
    P ["properties", name] x

theorem holds_leads (node : Members) : Holds (Json.object node).Leads node where
  value _ h := .of_partAt (.member (Json.mem_of_lookup h))
  unknown h := .of_partAt (.member (Json.mem_of_lookup h))
  entry h hx := .step (.member (Json.mem_of_lookup h)) (.of_partAt (.item hx))
  property h hx := .step (.member (Json.mem_of_lookup h)) (.of_partAt (.member hx))

namespace Holds

variable {P P' : List String → Json → Prop} {node : Members}

theorem and (h : Holds P node) (h' : Holds P' node) :
    Holds (fun segments x => P segments x ∧ P' segments x) node where
  value hk hx := ⟨h.value hk hx, h'.value hk hx⟩
  unknown hx := ⟨h.unknown hx, h'.unknown hx⟩
  entry hk hx := ⟨h.entry hk hx, h'.entry hk hx⟩
  property hp hx := ⟨h.property hp hx, h'.property hp hx⟩

theorem narrow (h : Holds P node) (t : TypeName) : Holds P (narrow node t) := by
  have hl : ∀ {key : String} {x : Json}, (Schema.narrow node t).lookup key = some x →
      x = .string t.name ∨ node.lookup key = some x := by
    intro key x hx
    rw [Schema.narrow, Json.lookup_put] at hx
    split at hx
    · exact .inl (Option.some.inj hx).symm
    · rw [Json.lookup_drop] at hx
      split at hx
      · cases hx
      · exact .inr hx
  -- What is asked for is no text, so it was the node's own before its type was put in.
  refine ⟨?_, ?_, ?_, ?_⟩
  · intro keyword x hk hx
    rw [Schema.narrow, Json.lookup_put_of_ne (by rcases hk with rfl | rfl <;> decide),
      Json.lookup_drop] at hx
    split at hx
    · cases hx
    · exact h.value hk hx
  · intro x hx
    rcases hl hx with he | hn
    · cases he
    · exact h.unknown hn
  · intro keyword xs i x hk hx
    rcases hl hk with he | hn
    · cases he
    · exact h.entry hn hx
  · intro properties name x hp hx
    rcases hl hp with he | hn
    · cases he
    · exact h.property hn hx

end Holds

theorem congruence_errorsAt (path : String) :
    Congruence path path fun _ r _ => ErrorsIn (·.path = path) r :=
  congruence_errorsIn (fun _ => rfl) fun _ => rfl

section Node

variable {P : List String → Json → Prop} {path : String} {node : Members}

theorem asks_malformedAt {α : Type} (c : Except Complaint α) :
    Asks P (·.path = path) fun _ => malformedAt path c :=
  .of_errors ((congruence_errorsAt path).malformedAt c)

theorem asks_compileEach {keyword : String} {xs : List Json} (i : Nat)
    (h : ∀ j x, xs[j]? = some x → P [keyword, toString (i + j)] x) :
    Asks P (·.path = path) fun child => compileEach child keyword i xs := by
  induction xs generalizing i with
  | nil => exact .ok []
  | cons x rest ih =>
      have hrest := ih (i + 1) fun j y hy => by
        rw [Nat.add_right_comm]
        exact h (j + 1) y hy
      exact .ask (h 0 x rfl) fun v => hrest.bind fun vs => .ok (v :: vs)

variable (h : Holds P node)
include h

theorem asks_compileList {keyword : String} {xs : List Json}
    (hl : node.lookup keyword = some (.array xs)) :
    Asks P (·.path = path) fun child => compileEach child keyword 0 xs := by
  refine asks_compileEach 0 fun j x hx => ?_
  rw [Nat.zero_add]
  exact h.entry hl hx

theorem asks_compileTuple {keyword : String} {xs : List Json}
    (hl : node.lookup keyword = some (.array xs)) :
    Asks P (·.path = path) fun child => compileTuple child keyword xs :=
  (asks_compileList h hl).bind fun vs => .ok (Validator.ofShape (.tuple vs))

theorem asks_compileElement :
    Asks P (·.path = path) fun child => compileElement child node := by
  simp only [compileElement]
  cases hi : node.lookup "items" with
  | none => exact .ok Validator.any
  | some x => exact .child (h.value (.inl rfl) hi)

theorem asks_compileArray : Asks P (·.path = path) fun child => compileArray path child node := by
  have hchecks : Asks P (·.path = path) fun _ => arrayChecks node path :=
    .of_errors ((congruence_errorsAt path).arrayChecks (Like.refl node))
  have hlist : Asks P (·.path = path) fun child => compileList path child node :=
    (asks_compileElement h).bind fun element => hchecks.bind fun checks => .ok _
  simp only [compileArray]
  split
  next xs hi => exact asks_compileTuple h hi
  next =>
    split
    next xs hp => exact asks_compileTuple h hp
    next => exact .error rfl
    next => exact hlist

theorem asks_compileFields (required : List String) :
    Asks P (·.path = path) fun child => compileFields path child required node := by
  simp only [compileFields]
  split
  next => exact .ok []
  next properties hp =>
    have hx : ∀ m ∈ properties, P ["properties", m.1] m.2 := fun m hm => h.property hp hm
    clear hp
    induction properties with
    | nil => exact .ok []
    | cons m rest ih =>
        obtain ⟨name, x⟩ := m
        have hrest := ih fun m hm => hx m (List.mem_cons_of_mem _ hm)
        exact .ask (hx _ (List.mem_cons_self ..)) fun v => hrest.bind fun fields => .ok _
  next => exact .error rfl

theorem asks_compileUnknown :
    Asks P (·.path = path) fun child => compileUnknown path child node := by
  simp only [compileUnknown]
  split
  next => exact .ok _
  next => exact .ok _
  next => exact .ok _
  next x hx => exact .ask (h.unknown hx) fun v => .ok _
  next => exact .error rfl

theorem asks_compileTyped (t : TypeName) :
    Asks P (·.path = path) fun child => compileTyped path child node t := by
  have hstring : Asks P (·.path = path) fun _ => stringChecks node path :=
    .of_errors ((congruence_errorsAt path).stringChecks (Like.refl node))
  have hnumber : Asks P (·.path = path) fun _ => numberChecks node path :=
    .of_errors ((congruence_errorsAt path).numberChecks (Like.refl node))
  have hobject : Asks P (·.path = path) fun _ => objectChecks node path :=
    .of_errors ((congruence_errorsAt path).objectChecks (Like.refl node))
  cases t with
  | object =>
      exact (asks_malformedAt _).bind fun required => (asks_compileFields h required).bind
        fun fields => (asks_compileUnknown h).bind fun unknown => hobject.bind fun checks => .ok _
  | array => exact asks_compileArray h
  | string => exact hstring.bind fun checks => .ok _
  | number | integer => exact hnumber.bind fun checks => .ok _
  | boolean | null => exact .ok _

theorem asks_compileTypes (types : List TypeName) :
    Asks P (·.path = path) fun child => compileTypes path child node types := by
  have hbranches : ∀ ts, Asks P (·.path = path) fun child =>
      compileBranches path child node ts := by
    intro ts
    induction ts with
    | nil => exact .ok []
    | cons t rest ih =>
        exact (asks_compileTyped (h.narrow t) t).bind fun v => ih.bind fun vs => .ok (v :: vs)
  refine (hbranches _).bind fun vs => ?_
  split
  · exact .ok _
  · split <;> exact .ok _

theorem asks_modify (form : Form) (v : Validator) :
    Asks P (·.path = path) fun child => modify path child node form v := by
  have hnullable : Asks P (·.path = path) fun _ => setNullable path node v :=
    .of_errors ((congruence_errorsAt path).setNullable node v)
  have henum : ∀ v, Asks P (·.path = path) fun _ => refineEnum path node v := fun v =>
    .of_errors ((congruence_errorsAt path).refineEnum node v)
  have hexcluded : ∀ v, Asks P (·.path = path) fun child => setExcluded child node v := by
    intro v
    simp only [setExcluded]
    cases hn : node.lookup "not" with
    | none => exact .ok v
    | some x => exact .ask (h.value (.inr rfl) hn) fun w => .ok _
  simp only [modify_eq]
  refine hnullable.bind fun v => Asks.bind ?_ hexcluded
  split
  · exact .ok v
  · exact henum v

theorem asks_compileForm {form : Form} (hr : form.ReadFrom node)
    (hf : ∀ reference, form ≠ .ref reference)
    (hm : ∀ xs, form = .anyOf xs → mergeAlternatives? xs = none) (follow : String → Result) :
    Asks P (·.path = path) fun child => compileForm path child follow node form := by
  cases form with
  | anyOf xs =>
      simp only [compileForm, compileAnyOf, hm xs rfl]
      exact (asks_compileList h hr.1).map _
  | oneOf xs | allOf xs => exact (asks_compileList h hr.1).map _
  | ref reference => exact absurd rfl (hf reference)
  | enum xs | const x | any => exact .ok _
  | typed t => exact asks_compileTyped h t
  | types ts => exact asks_compileTypes h ts

end Node

/-- A node is not compiled in the place of its alternatives. -/
def Unmerged (x : Json) : Prop :=
  ∀ node xs, x = .object node → Form.ofNode node = .ok (.anyOf xs) → mergeAlternatives? xs = none

theorem asks_compileStep {P : List String → Json → Prop} {path : String} {x : Json}
    (h : ∀ node, x = .object node → Holds P node) (hr : ∀ reference, ¬RefersTo x reference)
    (hm : Unmerged x) (follow : String → Result) :
    Asks P (·.path = path) fun child => compileStep path child follow x := by
  cases x with
  | bool b => cases b <;> exact .ok _
  | null | number n | string s | array items => exact .error rfl
  | object node =>
      simp only [compileStep, compileMembers]
      cases hf : Form.ofNode node with
      | error complaint => exact .error rfl
      | ok form =>
          have hform : ∀ reference, form ≠ .ref reference := by
            rintro reference rfl
            exact hr reference ⟨node, rfl, hf⟩
          have hmerged : ∀ xs, form = .anyOf xs → mergeAlternatives? xs = none :=
            fun xs he => hm node xs rfl (he ▸ hf)
          have hcompiled : Asks P (·.path = path) fun child =>
              compileForm path child follow node form :=
            asks_compileForm (h node rfl) (Form.readFrom_of_ofNode hf) hform hmerged follow
          have hv := hcompiled.bind fun v =>
            (asks_modify (h node rfl) form v).bind fun v => .ok (withMetadata node v)
          cases form with
          | ref reference => exact absurd rfl (hform reference)
          | anyOf | oneOf | allOf | enum | const | typed | types | any => exact hv

/-- The child at the segments is asked for: an error there would be that of the node. -/
def AsksFor (c : Context) (x : Json) (segments : List String) : Prop :=
  ∀ e, compileStep c.path ((childOf c).failing segments e) (targetOf c) x = .error e

/-- The error is the node's own: what failed below could as well have been compiled. -/
def Raises (c : Context) (x : Json) (e : Error) : Prop :=
  ∀ child follow, (childOf c).Below child →
    (∀ reference v, targetOf c reference = .ok v → follow reference = .ok v) →
      compileStep c.path child follow x = .error e

theorem compileStep_error_cases {P : List String → Json → Prop} {c : Context} {x : Json} {e : Error}
    (h : ∀ node, x = .object node → Holds P node) (hr : ∀ reference, ¬RefersTo x reference)
    (hm : Unmerged x) (he : compileNode c x = .error e) :
    (e.path = c.path ∧ Raises c x e) ∨
      ∃ segments y, P segments y ∧ AsksFor c x segments ∧ childOf c segments y = .error e := by
  rw [compileNode_eq] at he
  rcases (asks_compileStep h hr hm (targetOf c)).error_cases he with
    ⟨hpath, hown⟩ | ⟨segments, y, hy, hfail, hasked⟩
  · left
    refine ⟨hpath, fun child follow hb _ => ?_⟩
    rw [← hown child hb]
    exact compileStep_congr (congruence_eq c.path) child child follow (targetOf c)
      (fun _ _ _ => rfl) fun reference hx => absurd hx (hr reference)
  · exact .inr ⟨segments, y, hy, hasked, hfail⟩

end SchemaCheck.Schema
