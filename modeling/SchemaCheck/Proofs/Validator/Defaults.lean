import SchemaCheck.Proofs.Json.Order
import SchemaCheck.Proofs.Validator.Evaluation

namespace SchemaCheck

open Json (Members Sorted Extends put)

theorem forall₂_of_mapM {α β : Type} {f : α → Option β} {xs : List α} {ys : List β}
    (h : xs.mapM f = some ys) : List.Forall₂ (fun x y => f x = some y) xs ys := by
  induction xs generalizing ys with
  | nil =>
      cases h
      exact .nil
  | cons x rest ih =>
      rw [List.mapM_cons] at h
      obtain ⟨y, hy, h⟩ := Option.bind_eq_some_iff.1 h
      obtain ⟨zs, hzs, h⟩ := Option.bind_eq_some_iff.1 h
      cases h
      exact .cons hy (ih hzs)

theorem exists_of_evalPositions {vs : List Validator} {xs ys : List Json}
    (h : evalPositions vs xs = some ys) :
    List.Forall₂ (fun x y => ∃ v ∈ vs, v.eval x = some y) xs ys := by
  induction vs generalizing xs ys with
  | nil =>
      cases xs with
      | nil =>
          cases h
          exact .nil
      | cons x rest => cases h
  | cons v vs ih =>
      cases xs with
      | nil => cases h
      | cons x rest =>
          obtain ⟨y, hy, h⟩ := Option.bind_eq_some_iff.1 h
          obtain ⟨zs, hzs, h⟩ := Option.bind_eq_some_iff.1 h
          cases h
          refine .cons ⟨v, List.mem_cons_self .., hy⟩ ((ih hzs).imp ?_)
          rintro x y ⟨w, hw, he⟩
          exact ⟨w, List.mem_cons_of_mem _ hw, he⟩

theorem exists_of_evalFirst {vs : List Validator} {x y : Json} (h : evalFirst vs x = some y) :
    ∃ v ∈ vs, v.eval x = some y := by
  induction vs with
  | nil => cases h
  | cons v vs ih =>
      rcases Option.or_eq_some_iff.1 h with h | ⟨-, h⟩
      · exact ⟨v, List.mem_cons_self .., h⟩
      · obtain ⟨w, hw, he⟩ := ih h
        exact ⟨w, List.mem_cons_of_mem _ hw, he⟩

theorem exists_of_mem_evalEach {vs : List Validator} {x y : Json} (h : y ∈ evalEach vs x) :
    ∃ v ∈ vs, v.eval x = some y := by
  induction vs with
  | nil => cases h
  | cons v vs ih =>
      rcases List.mem_append.1 h with h | h
      · exact ⟨v, List.mem_cons_self .., Option.mem_toList.1 h⟩
      · obtain ⟨w, hw, he⟩ := ih h
        exact ⟨w, List.mem_cons_of_mem _ hw, he⟩

theorem exists_of_evalAll {vs : List Validator} {x : Json} {ys : List Json}
    (h : evalAll vs x = some ys) : ∀ y ∈ ys, ∃ v ∈ vs, v.eval x = some y := by
  induction vs generalizing ys with
  | nil =>
      cases h
      exact List.forall_mem_nil _
  | cons v vs ih =>
      obtain ⟨y, hy, h⟩ := Option.bind_eq_some_iff.1 h
      obtain ⟨zs, hzs, h⟩ := Option.bind_eq_some_iff.1 h
      cases h
      refine List.forall_mem_cons.2 ⟨⟨v, List.mem_cons_self .., hy⟩, fun z hz => ?_⟩
      obtain ⟨w, hw, he⟩ := ih hzs z hz
      exact ⟨w, List.mem_cons_of_mem _ hw, he⟩

theorem mem_of_only? {ys : List Json} {y : Json} (h : only? ys = some y) : y ∈ ys := by
  match ys, h with
  | [_], rfl => exact List.mem_singleton_self _

def Extending (Added : String → Json → Prop) (eval : Json → Option Json) : Prop :=
  ∀ x y, x.isOrdered = true → eval x = some y → Extends Added x y

/-- The output so far of an object: its members come of the input, or are added. -/
structure Filled (Added : String → Json → Prop) (members output : Members) : Prop where
  sorted : Sorted output
  related : ∀ key x y, members.lookup key = some x → output.lookup key = some y → Extends Added x y
  added : ∀ key y, members.lookup key = none → output.lookup key = some y → Added key y

def Grows (output output' : Members) : Prop :=
  ∀ key y, output.lookup key = some y → ∃ z, output'.lookup key = some z

theorem Grows.refl (output : Members) : Grows output output := fun _ y hy => ⟨y, hy⟩

theorem Grows.trans {a b c : Members} (hab : Grows a b) (hbc : Grows b c) : Grows a c := by
  intro key y hy
  obtain ⟨z, hz⟩ := hab key y hy
  exact hbc key z hz

theorem grows_put (key : String) (value : Json) (output : Members) :
    Grows output (put key value output) := by
  intro other y hy
  by_cases h : other = key
  · subst h
    exact ⟨value, Json.lookup_put_self ..⟩
  · exact ⟨y, by rw [Json.lookup_put_of_ne h, hy]⟩

section Object

variable {Added : String → Json → Prop} {members : Members}

theorem filled_nil : Filled Added members [] where
  sorted := .nil
  related := nofun
  added := nofun

theorem Filled.put {output : Members} (h : Filled Added members output) {key : String}
    {value : Json} (hx : ∀ x, members.lookup key = some x → Extends Added x value)
    (hn : members.lookup key = none → Added key value) :
    Filled Added members (put key value output) where
  sorted := h.sorted.put key value
  related := by
    intro other x y hother hy
    rw [Json.lookup_put] at hy
    split at hy
    next he =>
      subst he
      cases hy
      exact hx x hother
    next => exact h.related other x y hother hy
  added := by
    intro other y hother hy
    rw [Json.lookup_put] at hy
    split at hy
    next he =>
      subst he
      cases hy
      exact hn hother
    next => exact h.added other y hother hy

theorem evalFields_filled {fields : List Field}
    (hf : ∀ f ∈ fields, Extending Added f.validator.eval ∧
      ∀ d, f.validator.defaultValue = some d → Added f.name d)
    (ho : ∀ m ∈ members, m.2.isOrdered = true) {output output' : Members}
    (hi : Filled Added members output) (h : evalFields fields members output = some output') :
    Filled Added members output' ∧ Grows output output' ∧ ∀ f ∈ fields, ∀ x,
      members.lookup f.name = some x → ∃ y, output'.lookup f.name = some y := by
  induction fields generalizing output with
  | nil =>
      cases h
      exact ⟨hi, .refl _, List.forall_mem_nil _⟩
  | cons f rest ih =>
      obtain ⟨name, required, v⟩ := f
      obtain ⟨⟨hv, hd⟩, hrest⟩ := List.forall_mem_cons.1 hf
      rw [evalFields] at h
      cases hl : members.lookup name with
      | some x =>
          rw [hl] at h
          obtain ⟨y, hy, h⟩ := Option.bind_eq_some_iff.1 h
          have hput : Filled Added members (put name y output) := by
            refine hi.put (fun x' hx' => ?_) fun hn => ?_
            · cases hl.symm.trans hx'
              exact hv x y (ho _ (Json.mem_of_lookup hl)) hy
            · cases hl.symm.trans hn
          obtain ⟨hfilled, hgrows, hall⟩ := ih hrest hput h
          refine ⟨hfilled, Grows.trans (grows_put _ _ _) hgrows, List.forall_mem_cons.2 ⟨?_, hall⟩⟩
          intro _ _
          exact hgrows name y (Json.lookup_put_self ..)
      | none =>
          have hname : ∀ x, members.lookup name = some x →
              ∃ y, output'.lookup name = some y := by
            intro x hx
            cases hl.symm.trans hx
          rw [hl] at h
          cases hdefault : v.defaultValue with
          | some d =>
              simp only [hdefault] at h
              have hput : Filled Added members (put name d output) := by
                refine hi.put (fun x hx => ?_) fun _ => hd d hdefault
                cases hl.symm.trans hx
              obtain ⟨hfilled, hgrows, hall⟩ := ih hrest hput h
              exact ⟨hfilled, Grows.trans (grows_put _ _ _) hgrows,
                List.forall_mem_cons.2 ⟨hname, hall⟩⟩
          | none =>
              simp only [hdefault] at h
              split at h
              next => cases h
              next =>
                obtain ⟨hfilled, hgrows, hall⟩ := ih hrest hi h
                exact ⟨hfilled, hgrows, List.forall_mem_cons.2 ⟨hname, hall⟩⟩

theorem evalMembers_filled {eval : Json → Option Json} (hv : Extending Added eval)
    {others : Members}
    (hm : ∀ m ∈ others, members.lookup m.1 = some m.2 ∧ m.2.isOrdered = true)
    {output output' : Members} (hi : Filled Added members output)
    (h : evalMembers eval output others = some output') :
    Filled Added members output' ∧ Grows output output' ∧
      ∀ m ∈ others, ∃ y, output'.lookup m.1 = some y := by
  induction others generalizing output with
  | nil =>
      cases h
      exact ⟨hi, .refl _, List.forall_mem_nil _⟩
  | cons m rest ih =>
      obtain ⟨key, x⟩ := m
      obtain ⟨⟨hl, ho⟩, hrest⟩ := List.forall_mem_cons.1 hm
      obtain ⟨y, hy, h⟩ := Option.bind_eq_some_iff.1 h
      have hput : Filled Added members (put key y output) := by
        refine hi.put (fun x' hx' => ?_) fun hn => ?_
        · cases hl.symm.trans hx'
          exact hv x y ho hy
        · cases hl.symm.trans hn
      obtain ⟨hfilled, hgrows, hall⟩ := ih hrest hput h
      exact ⟨hfilled, Grows.trans (grows_put _ _ _) hgrows,
        List.forall_mem_cons.2 ⟨hgrows key y (Json.lookup_put_self ..), hall⟩⟩

theorem evalMembers_some (output others : Members) :
    evalMembers some output others = some (putAll output others) := by
  induction others generalizing output with
  | nil => rfl
  | cons m rest ih => exact ih _

theorem extending_some : Extending Added some := by
  rintro x _ ho ⟨⟩
  exact .refl ho

theorem unknown_eval_filled {unknown : UnknownKeys}
    (hv : ∀ v ∈ unknown.validators, Extending Added v.eval) {others : Members}
    (hm : ∀ m ∈ others, members.lookup m.1 = some m.2 ∧ m.2.isOrdered = true)
    {output output' : Members} (hi : Filled Added members output)
    (h : unknown.eval output others = some output') :
    Filled Added members output' ∧ Grows output output' ∧
      ∀ m ∈ others, ∃ y, output'.lookup m.1 = some y := by
  cases unknown with
  | reject =>
      cases others with
      | nil =>
          cases h
          exact ⟨hi, .refl _, List.forall_mem_nil _⟩
      | cons m rest => cases h
  | accept =>
      rw [UnknownKeys.eval, ← evalMembers_some] at h
      exact evalMembers_filled extending_some hm hi h
  | validate v => exact evalMembers_filled (hv v (List.mem_singleton_self v)) hm hi h

end Object

theorem hasName_iff {fields : List Field} {key : String} :
    Field.hasName fields key = true ↔ ∃ f ∈ fields, f.name = key := by
  simp [Field.hasName]

theorem keepIf_eq_some {α : Type} {ok : Bool} {a b : α} (h : keepIf ok a = some b) : a = b := by
  cases ok with
  | true => exact Option.some.inj h
  | false => cases h

theorem Json.Sorted.putMissing {output : Members} (h : Sorted output) (members : Members) :
    Sorted (putMissing output members) := by
  induction members generalizing output with
  | nil => exact h
  | cons m rest ih =>
      rw [SchemaCheck.putMissing, List.foldl_cons, ← SchemaCheck.putMissing]
      split
      · exact ih h
      · exact ih (h.put m.1 m.2)

theorem sorted_mergeOutputs (x : Json) {first : Members} (h : Sorted first) (rest : List Json) :
    ∃ output, mergeOutputs x (.object first :: rest) = .object output ∧ Sorted output := by
  rw [mergeOutputs]
  induction rest generalizing first with
  | nil => exact ⟨first, rfl, h⟩
  | cons y rest ih =>
      rw [List.foldl_cons]
      cases y with
      | object next => exact ih (h.putMissing next)
      | null | bool b | number n | string s | array items => exact ih h

theorem Json.Extends.object_left {Added : String → Json → Prop} {x : Json} {ys : Members}
    (h : Extends Added x (.object ys)) : ∃ xs, x = .object xs := by
  cases h with
  | scalar hs => cases hs
  | object => exact ⟨_, rfl⟩

theorem Json.eq_object_of_object? {x : Json} {members : Members}
    (h : x.object? = some members) : x = .object members := by
  cases x with
  | object _ =>
      cases h
      rfl
  | null | bool b | number n | string s | array items => cases h

theorem extends_mergeOutputs {Added : String → Json → Prop} {x : Json} {ys : List Json}
    (ho : x.isOrdered = true) (h : ∀ y ∈ ys, Extends Added x y) :
    Extends Added x (mergeOutputs x ys) := by
  cases ys with
  | nil => exact .refl ho
  | cons y rest =>
      by_cases hy : ∃ first, y = .object first
      · obtain ⟨first, rfl⟩ := hy
        obtain ⟨hfirst, hrest⟩ := List.forall_mem_cons.1 h
        obtain ⟨xs, rfl⟩ := hfirst.object_left
        cases hfirst with
        | scalar hs => cases hs
        | object sorted kept related added =>
            obtain ⟨output, hm, hl⟩ := mergeOutputs_object (.object xs) first rest
            obtain ⟨output', hm', hs⟩ := sorted_mergeOutputs (.object xs) sorted rest
            cases hm.symm.trans hm'
            rw [hm]
            -- a key of the input has the value of the first branch
            have hkept : ∀ key x, xs.lookup key = some x →
                output.lookup key = first.lookup key := by
              intro key x hx
              obtain ⟨y, hy⟩ := kept key x hx
              rw [hl, List.findSome?_cons, hy]
            refine .object hs ?_ ?_ ?_
            · intro key x hx
              rw [hkept key x hx]
              exact kept key x hx
            · intro key x y hx hy
              rw [hkept key x hx] at hy
              exact related key x y hx hy
            · intro key y hn hy
              rw [hl] at hy
              obtain ⟨members, hm, hy⟩ := List.exists_of_findSome?_eq_some hy
              have hbranch : Extends Added (.object xs) (.object members) := by
                rcases List.mem_cons.1 hm with rfl | hm
                · exact .object sorted kept related added
                · obtain ⟨z, hz, he⟩ := List.mem_filterMap.1 hm
                  rw [← Json.eq_object_of_object? he]
                  exact hrest z hz
              cases hbranch with
              | scalar hs => cases hs
              | object _ _ _ added => exact added key y hn hy
      · rw [mergeOutputs_of_not_object x (fun members he => hy ⟨members, he⟩)]
        exact h y (List.mem_cons_self ..)

def Shape.fields : Shape → List Field
  | .object fields _ _ => fields
  | _ => []

section Shape

variable {Added : String → Json → Prop}

theorem extending_array {element : Validator} {checks : List (Check ArrayRule)}
    (hv : Extending Added element.eval) : Extending Added (Shape.array element checks).eval := by
  intro x y ho h
  cases x with
  | array items =>
      obtain ⟨-, -, h⟩ := Option.bind_eq_some_iff.1 h
      obtain ⟨ys, hys, rfl⟩ := Option.map_eq_some_iff.1 h
      obtain ⟨hl, hi⟩ := List.forall₂_iff_zip.1 (forall₂_of_mapM hys)
      refine .array hl fun x y hxy => hv x y ?_ (hi hxy)
      exact Json.isOrdered_array.1 ho x (List.of_mem_zip hxy).1
  | null | bool b | number n | string s | object members => cases h

theorem extending_tuple {vs : List Validator} (hv : ∀ v ∈ vs, Extending Added v.eval) :
    Extending Added (Shape.tuple vs).eval := by
  intro x y ho h
  cases x with
  | array items =>
      obtain ⟨ys, hys, rfl⟩ := Option.map_eq_some_iff.1 h
      obtain ⟨hl, hi⟩ := List.forall₂_iff_zip.1 (exists_of_evalPositions hys)
      refine .array hl fun x y hxy => ?_
      obtain ⟨v, hm, he⟩ := hi hxy
      exact hv v hm x y (Json.isOrdered_array.1 ho x (List.of_mem_zip hxy).1) he
  | null | bool b | number n | string s | object members => cases h

theorem extending_object {fields : List Field} {unknown : UnknownKeys}
    {checks : List (Check ObjectRule)}
    (hf : ∀ f ∈ fields, Extending Added f.validator.eval ∧
      ∀ d, f.validator.defaultValue = some d → Added f.name d)
    (hu : ∀ v ∈ unknown.validators, Extending Added v.eval) :
    Extending Added (Shape.object fields unknown checks).eval := by
  intro x y ho h
  cases x with
  | object members =>
      obtain ⟨hsorted, hordered⟩ := Json.isOrdered_object.1 ho
      obtain ⟨output, hfields, h⟩ := Option.bind_eq_some_iff.1 h
      obtain ⟨output', hunknown, h⟩ := Option.bind_eq_some_iff.1 h
      obtain rfl := keepIf_eq_some h
      obtain ⟨hfilled, -, hnamed⟩ := evalFields_filled hf hordered filled_nil hfields
      have hothers : ∀ m ∈ members.filter fun m => !Field.hasName fields m.1,
          members.lookup m.1 = some m.2 ∧ m.2.isOrdered = true := by
        intro m hm
        have hm := List.mem_of_mem_filter hm
        exact ⟨Json.lookup_of_mem hsorted.nodup hm, hordered m hm⟩
      obtain ⟨hfilled', hgrows, hrest⟩ := unknown_eval_filled hu hothers hfilled hunknown
      refine .object hfilled'.sorted ?_ hfilled'.related hfilled'.added
      intro key x hx
      by_cases hk : Field.hasName fields key = true
      · obtain ⟨f, hm, rfl⟩ := hasName_iff.1 hk
        obtain ⟨y, hy⟩ := hnamed f hm x hx
        exact hgrows f.name y hy
      · refine hrest (key, x) (List.mem_filter.2 ⟨Json.mem_of_lookup hx, ?_⟩)
        simpa using hk
  | null | bool b | number n | string s | array items => cases h

theorem extending_intersection {vs : List Validator} (hv : ∀ v ∈ vs, Extending Added v.eval) :
    Extending Added (Shape.intersection vs).eval := by
  intro x y ho h
  obtain ⟨ys, hys, rfl⟩ := Option.map_eq_some_iff.1 h
  refine extends_mergeOutputs ho fun y hy => ?_
  obtain ⟨v, hm, he⟩ := exists_of_evalAll hys y hy
  exact hv v hm x y ho he

theorem extending_shape {s : Shape} (hv : ∀ v ∈ s.validators, Extending Added v.eval)
    (hd : ∀ f ∈ s.fields, ∀ d, f.validator.defaultValue = some d → Added f.name d) :
    Extending Added s.eval := by
  have hself : (∀ x y, s.eval x = some y → x = y) → Extending Added s.eval := by
    intro hs x y ho h
    rw [← hs x y h]
    exact .refl ho
  cases s with
  | any => exact extending_some
  | never => exact hself nofun
  | null | literal value | among values => exact hself fun x y h => keepIf_eq_some h
  | boolean =>
      refine hself fun x y h => ?_
      cases x with
      | bool b => exact Option.some.inj h
      | null | number n | string s | array items | object members => cases h
  | string checks =>
      refine hself fun x y h => ?_
      cases x with
      | string s => exact keepIf_eq_some h
      | null | bool b | number n | array items | object members => cases h
  | number integer checks =>
      refine hself fun x y h => ?_
      cases x with
      | number n => exact keepIf_eq_some h
      | null | bool b | string s | array items | object members => cases h
  | array element checks => exact extending_array (hv element (List.mem_singleton_self _))
  | tuple vs => exact extending_tuple hv
  | object fields unknown checks =>
      refine extending_object (fun f hf => ⟨?_, hd f hf⟩) fun v hm => ?_
      · exact hv _ (List.mem_append_left _ (List.mem_map_of_mem hf))
      · exact hv v (List.mem_append_right _ hm)
  | union vs =>
      intro x y ho h
      obtain ⟨v, hm, he⟩ := exists_of_evalFirst h
      exact hv v hm x y ho he
  | exclusiveUnion vs =>
      intro x y ho h
      obtain ⟨v, hm, he⟩ := exists_of_mem_evalEach (mem_of_only? h)
      exact hv v hm x y ho he
  | intersection vs => exact extending_intersection hv

end Shape

namespace Validator

/-- Some object of the validator has a field with that name and that default. -/
def HasDefault (v : Validator) (key : String) (d : Json) : Prop :=
  ∃ w, Node w v ∧ ∃ f ∈ w.shape.fields, f.name = key ∧ f.validator.defaultValue = some d

theorem HasDefault.of_child {u v : Validator} (h : u ∈ v.children) {key : String} {d : Json}
    (hd : u.HasDefault key d) : v.HasDefault key d := by
  obtain ⟨w, hw, hf⟩ := hd
  exact ⟨w, .deeper h hw, hf⟩

theorem extending_eval (v : Validator) : Extending v.HasDefault v.eval := by
  induction v using Validator.induction with
  | step v ih =>
      have hshape : Extending v.HasDefault v.shape.eval := by
        refine extending_shape (fun w hw x y ho h => ?_) fun f hf d hd => ?_
        · have hw : w ∈ v.children := List.mem_append_left _ hw
          exact (ih w hw x y ho h).mono fun key d => HasDefault.of_child hw
        · exact ⟨v, .self v, f, hf, rfl, hd⟩
      intro x y ho h
      obtain ⟨shape, nullable, defaultValue, description, title, allowed, excluded⟩ := v
      rw [Validator.eval] at h
      split at h
      next hn =>
        cases h
        cases x with
        | null => exact .scalar rfl
        | bool b | number n | string s | array items | object members => cases hn
      next =>
        obtain ⟨z, hz, h⟩ := Option.bind_eq_some_iff.1 h
        obtain rfl := keepIf_eq_some h
        exact hshape x z ho hz

theorem parse_extends (v : Validator) {x y : Json} (hx : x.isOrdered = true)
    (h : v.parse x = .ok y) :
    Extends v.HasDefault x y ∧ ((∀ key d, ¬ v.HasDefault key d) → y = x) := by
  have hy : Extends v.HasDefault x y :=
    extending_eval v x y hx (((parse_refines_eval v x).1 y).1 h)
  exact ⟨hy, fun hn => hy.eq_of_none hn hx⟩

def retrySettings : Validator :=
  .ofShape (.object [⟨"retry", true, .ofShape (.object
    [⟨"limit", false, (ofShape (.number true [])).withDefault (.int 3)⟩] .reject [])⟩] .accept [])

theorem parse_extends_retrySettings :
    (Json.object [("name", .string "a"), ("retry", .object [])]).isOrdered = true ∧
    retrySettings.parse (.object [("name", .string "a"), ("retry", .object [])]) =
      .ok (.object [("name", .string "a"), ("retry", .object [("limit", .int 3)])]) ∧
    Extends retrySettings.HasDefault (.object [("name", .string "a"), ("retry", .object [])])
      (.object [("name", .string "a"), ("retry", .object [("limit", .int 3)])]) := by
  have hx : (Json.object [("name", .string "a"), ("retry", .object [])]).isOrdered = true := by
    decide
  have hy : retrySettings.parse (.object [("name", .string "a"), ("retry", .object [])]) =
      .ok (.object [("name", .string "a"), ("retry", .object [("limit", .int 3)])]) := by
    rfl
  exact ⟨hx, hy, (parse_extends retrySettings hx hy).1⟩

end Validator

end SchemaCheck
