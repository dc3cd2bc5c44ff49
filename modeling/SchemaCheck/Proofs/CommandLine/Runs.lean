import SchemaCheck.Main
import SchemaCheck.Proofs.CommandLine.Surroundings
import SchemaCheck.Proofs.Json.Rereading

namespace SchemaCheck.CommandLine

def Compilation.sources (c : Compilation) : List Source := c.schema :: c.definitions.toList

namespace View

variable {F : Type} {w : View F}

def textOf (w : View F) : Source → Except FileError String
  | .input => .ok w.input
  | .file path => w.text path

/-- What is left once the sources are read. The standard input is read to its end. -/
def afterReading (w : View F) (sources : List Source) : View F :=
  if .input ∈ sources then { w with input := "" } else w

def json? (w : View F) (source : Source) : Option Json :=
  (w.textOf source).toOption.bind Json.parse?

def definitions? (w : View F) : Option Source → Option Json.Members
  | none => some []
  | some source => (w.json? source).bind Json.object?

/-- What the schema and the definitions are compiled to, once they are read and parsed. -/
def validator? (w : View F) (c : Compilation) : Option Validator :=
  (w.json? c.schema).bind fun schema =>
    ((w.afterReading [c.schema]).definitions? c.definitions).bind fun definitions =>
      (Schema.compile schema c.options definitions).toOption

/-- What is read after a schema and its definitions. -/
def instance? (w : View F) (c : Compilation) (source : Source) : Option Json :=
  (w.afterReading c.sources).json? source

theorem content_afterReading (sources : List Source) :
    (w.afterReading sources).content = w.content := by
  rw [afterReading]
  split <;> rfl

theorem file_afterReading (sources : List Source) : (w.afterReading sources).file = w.file := by
  rw [afterReading]
  split <;> rfl

theorem afterReading_nil : w.afterReading [] = w := if_neg List.not_mem_nil

theorem afterReading_append (sources others : List Source) :
    (w.afterReading sources).afterReading others = w.afterReading (sources ++ others) := by
  simp only [afterReading, List.mem_append]
  by_cases hs : .input ∈ sources <;> by_cases ho : .input ∈ others <;> simp [hs, ho]

theorem instance?_input {c : Compilation} (h : .input ∈ c.sources) :
    w.instance? c .input = none := by
  rw [instance?, afterReading, if_pos h]
  rfl

end View

section

variable {m : Type → Type} [Monad m] {σ F : Type} [Acting m σ] {α β : Type}

def Attempt.runIn (a : Attempt m α) (s : σ) : Except Failure α × σ := Acting.run (ExceptT.run a) s

theorem runIn_pure (x : α) (s : σ) : Attempt.runIn (pure x : Attempt m α) s = (.ok x, s) :=
  Acting.run_pure _ _

theorem runIn_throw (e : Failure) (s : σ) :
    Attempt.runIn (throw e : Attempt m α) s = (.error e, s) :=
  Acting.run_pure _ _

theorem runIn_lift (a : m α) (s : σ) : Attempt.runIn (ExceptT.lift a) s =
    (.ok (Acting.run a s).1, (Acting.run a s).2) :=
  Acting.run_map _ _ _

theorem runIn_bind (a : Attempt m α) (k : α → Attempt m β) (s : σ) :
    Attempt.runIn (a >>= k) s =
      match a.runIn s with
      | (.ok x, after) => (k x).runIn after
      | (.error e, after) => (.error e, after) := by
  refine (Acting.run_bind (ExceptT.run a) (ExceptT.bindCont k) s).trans ?_
  rw [Attempt.runIn]
  rcases Acting.run (ExceptT.run a) s with ⟨e | x, after⟩
  · exact Acting.run_pure _ _
  · rfl

section Steps

variable {a : Attempt m α} {k : α → Attempt m β} {s after : σ}

theorem runIn_bind_ok {x : α} (h : a.runIn s = (.ok x, after)) :
    Attempt.runIn (a >>= k) s = (k x).runIn after := by
  rw [runIn_bind, h]

theorem runIn_bind_error {e : Failure} (h : a.runIn s = (.error e, after)) :
    Attempt.runIn (a >>= k) s = (.error e, after) := by
  rw [runIn_bind, h]

end Steps

/-- The attempt reads the sources, or fails before, and comes to the value if there is one. -/
structure Reads (view : σ → View F) (a : Attempt m α) (s : σ) (sources : List Source)
    (x : Option α) : Prop where
  content : (view (a.runIn s).2).content = (view s).content
  result : ∀ y, (a.runIn s).1 = .ok y ↔ x = some y
  after : ∀ y, x = some y → view (a.runIn s).2 = (view s).afterReading sources

namespace Reads

variable {view : σ → View F} {a : Attempt m α} {s : σ} {sources : List Source} {x : Option α}

theorem exists_of_some {y : α} (h : Reads view a s sources x) (hx : x = some y) :
    ∃ after, a.runIn s = (.ok y, after) ∧ view after = (view s).afterReading sources :=
  ⟨_, Prod.ext ((h.result y).2 hx) rfl, h.after y hx⟩

theorem exists_of_none (h : Reads view a s sources x) (hx : x = none) :
    ∃ e after, a.runIn s = (.error e, after) ∧ (view after).content = (view s).content := by
  cases hr : a.runIn s with
  | mk r after =>
      have hcontent := h.content
      have hresult := h.result
      rw [hr] at hcontent hresult
      cases r with
      | error e => exact ⟨e, after, rfl, hcontent⟩
      | ok y => cases hx.symm.trans ((hresult y).1 rfl)

theorem bind {k : α → Attempt m β} {others : List Source} {f : α → Option β}
    (h : Reads view a s sources x)
    (hk : ∀ y after, x = some y → view after = (view s).afterReading sources →
      Reads view (k y) after others (f y)) :
    Reads view (a >>= k) s (sources ++ others) (x.bind f) := by
  cases hx : x with
  | none =>
      obtain ⟨e, after, hr, hcontent⟩ := h.exists_of_none hx
      constructor
      · rw [runIn_bind_error hr]
        exact hcontent
      · rw [runIn_bind_error hr]
        simp
      · simp
  | some y =>
      obtain ⟨after, hr, hview⟩ := h.exists_of_some hx
      have hy := hk y after hx hview
      constructor
      · rw [runIn_bind_ok hr, hy.content, hview, View.content_afterReading]
      · rw [runIn_bind_ok hr]
        exact hy.result
      · intro z hz
        rw [runIn_bind_ok hr, hy.after z hz, hview, View.afterReading_append]

theorem pure (y : α) (s : σ) : Reads view (pure y : Attempt m α) s [] (some y) := by
  constructor <;> rw [runIn_pure]
  · simp
  · exact fun _ _ => View.afterReading_nil.symm

theorem throw (e : Failure) (s : σ) : Reads view (throw e : Attempt m α) s [] none := by
  constructor <;> rw [runIn_throw]
  · simp
  · exact nofun

end Reads

variable {system : System m} {view : σ → View F}

section Reading

variable (hsystem : Behaves system view)
include hsystem

theorem runIn_readText_file (role : Role) (path : String) (s : σ) :
    (readText system role (.file path)).runIn s =
      (((view s).text path).mapError (.cannotOpen role path),
        (Acting.run (system.readFile path) s).2) := by
  have hread := runIn_lift (system.readFile path) s
  rw [hsystem.readFile] at hread
  refine (runIn_bind_ok hread).trans ?_
  cases (view s).text path with
  | ok text => exact runIn_pure _ _
  | error error => exact runIn_throw _ _

theorem reads_readText (role : Role) (source : Source) (s : σ) :
    Reads view (readText system role source) s [source] ((view s).textOf source).toOption := by
  cases source with
  | input =>
      have hr : Attempt.runIn (readText system role .input) s = _ := runIn_lift _ _
      constructor <;> rw [hr]
      · rw [hsystem.view_readInput]
      · intro text
        rw [hsystem.readInput, View.textOf]
        simp [Except.toOption]
      · intro text _
        rw [hsystem.view_readInput, View.afterReading, if_pos (List.mem_singleton_self _)]
  | file path =>
      constructor <;> rw [runIn_readText_file hsystem]
      · rw [hsystem.view_readFile]
      · intro text
        rw [View.textOf]
        cases (view s).text path with
        | ok read => simp [Except.mapError, Except.toOption]
        | error error => simp [Except.mapError, Except.toOption]
      · intro text _
        rw [hsystem.view_readFile, View.afterReading, if_neg (by simp)]

theorem reads_readJson (role : Role) (source : Source) (s : σ) :
    Reads view (readJson system role source) s [source] ((view s).json? source) := by
  refine (reads_readText hsystem role source s).bind fun text after _ _ => ?_
  cases Json.parse? text with
  | some x => exact .pure x _
  | none => exact .throw _ _

theorem reads_readDefinitions (source : Option Source) (s : σ) :
    Reads view (readDefinitions system source) s source.toList ((view s).definitions? source) := by
  cases source with
  | none => exact .pure [] s
  | some source =>
      refine (reads_readJson hsystem .definitions source s).bind fun x after _ _ => ?_
      cases x with
      | object members => exact .pure members _
      | null | bool b | number n | string s | array items => exact .throw _ _

theorem reads_readValidator (c : Compilation) (s : σ) :
    Reads view (readValidator system c) s c.sources ((view s).validator? c) := by
  have hsources : c.sources = [c.schema] ++ (c.definitions.toList ++ []) := by
    simp [Compilation.sources]
  rw [hsources]
  refine (reads_readJson hsystem .schema c.schema s).bind fun schema after _ hview => ?_
  rw [← hview]
  refine (reads_readDefinitions hsystem c.definitions after).bind fun definitions last _ _ => ?_
  cases Schema.compile schema c.options definitions with
  | ok v => exact .pure v _
  | error e => exact .throw _ _

theorem reads_check (c : Compilation) (source : Source) (layout : Layout) (s : σ) :
    Reads view ((Command.check c source layout).attempt system) s (c.sources ++ ([source] ++ []))
      (((view s).validator? c).bind fun v => ((view s).instance? c source).bind fun x =>
        some (verdict layout v x)) := by
  refine (reads_readValidator hsystem c s).bind fun v after _ hview => ?_
  rw [View.instance?, ← hview]
  exact (reads_readJson hsystem .instance_ source after).bind fun x _ _ _ => .pure _ _

end Reading

/-- The text is the layout of the value: JSON that spells it, and the end of the line. -/
structure Layout.Renders (layout : Layout) (x : Json) (text : String) : Prop where
  written : text = layout.write x
  spelled : ∃ cs, Json.Spells Json.Number.SpelledBy x cs ∧ text.toList = cs ++ ['\n']
  reread : x.Rereads → Json.parse? text = some x

theorem Layout.exists_spells {numeral : Json.Number → List Char → Prop} {x : Json}
    (layout : Layout) (h : Json.SpellsNumbers numeral x) :
    ∃ cs, Json.Spells numeral x cs ∧ (layout.write x).toList = cs ++ ['\n'] := by
  cases layout with
  | pretty => exact ⟨_, Json.spells_prettyAt 0 x h, String.toList_append⟩
  | compact => exact ⟨_, Json.spells_compact x h, String.toList_append⟩

theorem renders_write (layout : Layout) (x : Json) : layout.Renders x (layout.write x) where
  written := rfl
  spelled := layout.exists_spells fun n _ => Json.spelledBy_text n
  reread h := by
    obtain ⟨cs, hs, htext⟩ := layout.exists_spells h.numbers
    refine Json.parse?_of_spells hs h.ordered h.height ?_ htext
    intro c hc
    rw [List.mem_singleton.1 hc]
    rfl

/-- The arguments ask to check a value, which is read, as is what it is checked by. -/
def Checks (w : View F) (args : List String) (layout : Layout) (v : Validator) (x : Json) : Prop :=
  ∃ c source, command? args = some (.check c source layout) ∧ w.validator? c = some v ∧
    w.instance? c source = some x

def Delivered (w : View F) (output : Option String) (text : String) (outcome : Option Outcome)
    (after : F → Option ByteArray) : Prop :=
  match output with
  | none => printedText outcome = text
  | some path => after (w.file path) = some text.toUTF8

/-- What a run may leave in the files and print. -/
structure WritesResults (w : View F) (args : List String) (outcome : Option Outcome)
    (after : F → Option ByteArray) : Prop where
  /-- A file that is another one then is the output of a compilation. It holds the export of what
  the schema and the definitions are compiled to. -/
  changed : ∀ f, after f ≠ w.content f →
    ∃ c path layout v text, command? args = some (.compile c (some path) layout) ∧
      f = w.file path ∧ w.validator? c = some v ∧ layout.Renders v.toSchema text ∧
      after f = some text.toUTF8
  failed : exitStatus outcome ≠ 0 → after = w.content
  compiled : ∀ c output layout, command? args = some (.compile c output layout) →
    exitStatus outcome = 0 →
      ∃ v text, w.validator? c = some v ∧ layout.Renders v.toSchema text ∧
        Delivered w output text outcome after
  checked : ∀ c source layout, command? args = some (.check c source layout) →
    (exitStatus outcome = 0 ↔ ∃ v x y, w.validator? c = some v ∧ w.instance? c source = some x ∧
      v.parse x = .ok y)
  accepted : ∀ layout v x y, Checks w args layout v x → v.parse x = .ok y →
    layout.Renders y (printedText outcome)
  rejected : ∀ layout v x e, Checks w args layout v x → v.parse x = .error e →
    layout.Renders (.array (e.issues.map Issue.toJson)) (printedText outcome)
  silent : exitStatus outcome ≠ 0 →
    (∀ layout v x e, Checks w args layout v x → v.parse x ≠ .error e) → printedText outcome = ""

theorem verdict_of_ok {v : Validator} {x y : Json} (h : v.parse x = .ok y) (layout : Layout) :
    verdict layout v x = ⟨layout.write y, none⟩ := by
  rw [verdict, h]

theorem verdict_of_error {v : Validator} {x : Json} {e : ValidationError}
    (h : v.parse x = .error e) (layout : Layout) : verdict layout v x =
      ⟨layout.write (.array (e.issues.map Issue.toJson)), some (.notValid e)⟩ := by
  rw [verdict, h]

theorem exitStatus_verdict {layout : Layout} {v : Validator} {x : Json} :
    exitStatus (some (verdict layout v x)) = 0 ↔ ∃ y, v.parse x = .ok y := by
  cases h : v.parse x with
  | ok y =>
      rw [verdict_of_ok h]
      exact iff_of_true rfl ⟨y, rfl⟩
  | error e =>
      rw [verdict_of_error h]
      exact iff_of_false Nat.one_ne_zero nofun

theorem run_eq (c : Command) (s : σ) : Acting.run (c.run system) s =
    match (c.attempt system).runIn s with
    | (.ok outcome, after) => (outcome, after)
    | (.error failure, after) => (⟨"", some failure⟩, after) := by
  refine (Acting.run_bind _ _ _).trans ?_
  rw [Attempt.runIn]
  rcases Acting.run (ExceptT.run (c.attempt system)) s with ⟨e | x, after⟩
  · exact Acting.run_pure _ _
  · exact Acting.run_pure _ _

section Check

variable {w : View F} {args : List String} {c : Compilation} {source : Source} {layout : Layout}
  (h : command? args = some (.check c source layout))
include h

theorem checks_iff {l : Layout} {v : Validator} {x : Json} : Checks w args l v x ↔
    l = layout ∧ w.validator? c = some v ∧ w.instance? c source = some x := by
  constructor
  · rintro ⟨c', source', h', hv, hx⟩
    cases h.symm.trans h'
    exact ⟨rfl, hv, hx⟩
  · rintro ⟨rfl, hv, hx⟩
    exact ⟨c, source, h, hv, hx⟩

theorem writesResults_verdict {v : Validator} {x : Json} (hv : w.validator? c = some v)
    (hx : w.instance? c source = some x) :
    WritesResults w args (some (verdict layout v x)) w.content := by
  have hchecks : ∀ {l u z}, Checks w args l u z → l = layout ∧ u = v ∧ z = x := by
    intro l u z hc
    obtain ⟨rfl, hu, hz⟩ := (checks_iff h).1 hc
    exact ⟨rfl, Option.some.inj (hu.symm.trans hv), Option.some.inj (hz.symm.trans hx)⟩
  constructor
  case changed => exact fun _ hne => absurd rfl hne
  case failed => exact fun _ => rfl
  case compiled => exact fun _ _ _ h' => nomatch h.symm.trans h'
  case checked =>
    intro c' source' layout' h'
    cases h.symm.trans h'
    rw [exitStatus_verdict]
    constructor
    · rintro ⟨y, hy⟩
      exact ⟨v, x, y, hv, hx, hy⟩
    · rintro ⟨u, z, y, hu, hz, hy⟩
      cases hv.symm.trans hu
      cases hx.symm.trans hz
      exact ⟨y, hy⟩
  case accepted =>
    intro l u z y hc hy
    obtain ⟨rfl, rfl, rfl⟩ := hchecks hc
    rw [verdict_of_ok hy]
    exact renders_write l y
  case rejected =>
    intro l u z e hc he
    obtain ⟨rfl, rfl, rfl⟩ := hchecks hc
    rw [verdict_of_error he]
    exact renders_write l _
  case silent =>
    intro hfailed hno
    cases hp : v.parse x with
    | ok y => exact absurd (exitStatus_verdict.2 ⟨y, hp⟩) hfailed
    | error e => exact absurd hp (hno layout v x e ((checks_iff h).2 ⟨rfl, hv, hx⟩))

theorem writesResults_unread {failure : Failure}
    (hno : ∀ v x, w.validator? c = some v → w.instance? c source ≠ some x) :
    WritesResults w args (some ⟨"", some failure⟩) w.content := by
  have hchecks : ∀ {l v x}, ¬ Checks w args l v x := by
    intro l v x hc
    obtain ⟨-, hv, hx⟩ := (checks_iff h).1 hc
    exact hno v x hv hx
  constructor
  case changed => exact fun _ hne => absurd rfl hne
  case failed => exact fun _ => rfl
  case compiled => exact fun _ _ _ h' => nomatch h.symm.trans h'
  case checked =>
    intro c' source' layout' h'
    cases h.symm.trans h'
    exact iff_of_false Nat.one_ne_zero fun ⟨v, x, _, hv, hx, _⟩ => hno v x hv hx
  case accepted => exact fun _ _ _ _ hc => absurd hc hchecks
  case rejected => exact fun _ _ _ _ hc => absurd hc hchecks
  case silent => exact fun _ _ => rfl

theorem writesResults_check (hsystem : Behaves system view) (s : σ) :
    WritesResults (view s) args (some (Acting.run ((Command.check c source layout).run system) s).1)
      (view (Acting.run ((Command.check c source layout).run system) s).2).content := by
  have hreads := reads_check hsystem c source layout s
  rw [run_eq]
  by_cases hr : ∃ v x, (view s).validator? c = some v ∧ (view s).instance? c source = some x
  · obtain ⟨v, x, hv, hx⟩ := hr
    obtain ⟨after, hrun, hview⟩ := hreads.exists_of_some (y := verdict layout v x)
      (by rw [hv, Option.bind_some, hx, Option.bind_some])
    rw [hrun]
    change WritesResults _ _ _ (view after).content
    rw [hview, View.content_afterReading]
    exact writesResults_verdict h hv hx
  · have hno : ∀ v x, (view s).validator? c = some v → (view s).instance? c source ≠ some x :=
      fun v x hv hx => hr ⟨v, x, hv, hx⟩
    obtain ⟨e, after, hrun, hcontent⟩ := hreads.exists_of_none (by
      cases hv : (view s).validator? c with
      | none => rfl
      | some v =>
          cases hx : (view s).instance? c source with
          | none => rfl
          | some x => exact absurd hx (hno v x hv))
    rw [hrun]
    change WritesResults _ _ _ (view after).content
    rw [hcontent]
    exact writesResults_unread h hno

end Check

theorem writesResults_of_not_check {w : View F} {args : List String} {outcome : Option Outcome}
    {after : F → Option ByteArray}
    (hno : ∀ c source layout, command? args ≠ some (.check c source layout))
    (changed : ∀ f, after f ≠ w.content f →
      ∃ c path layout v text, command? args = some (.compile c (some path) layout) ∧
        f = w.file path ∧ w.validator? c = some v ∧ layout.Renders v.toSchema text ∧
        after f = some text.toUTF8)
    (failed : exitStatus outcome ≠ 0 → after = w.content ∧ printedText outcome = "")
    (compiled : ∀ c output layout, command? args = some (.compile c output layout) →
      exitStatus outcome = 0 →
        ∃ v text, w.validator? c = some v ∧ layout.Renders v.toSchema text ∧
          Delivered w output text outcome after) :
    WritesResults w args outcome after where
  changed := changed
  failed := fun h => (failed h).1
  compiled := compiled
  checked := fun c source layout h => absurd h (hno c source layout)
  accepted := fun layout _ _ _ ⟨c, source, h, _⟩ => absurd h (hno c source layout)
  rejected := fun layout _ _ _ ⟨c, source, h, _⟩ => absurd h (hno c source layout)
  silent := fun h _ => (failed h).2

theorem writesResults_usage {args : List String} (h : command? args = none) (w : View F) :
    WritesResults w args none w.content := by
  refine writesResults_of_not_check (fun _ _ _ h' => nomatch h.symm.trans h') ?_ ?_ ?_
  · exact fun _ hne => absurd rfl hne
  · exact fun _ => ⟨rfl, rfl⟩
  · exact fun _ _ _ h' => nomatch h.symm.trans h'

section Compile

variable {w : View F} {args : List String} {c : Compilation} {output : Option String}
  {layout : Layout} (h : command? args = some (.compile c output layout))
include h

theorem not_check_of_compile (c' : Compilation) (source : Source) (layout' : Layout) :
    command? args ≠ some (.check c' source layout') :=
  fun h' => nomatch h.symm.trans h'

theorem writesResults_failed {failure : Failure} :
    WritesResults w args (some ⟨"", some failure⟩) w.content :=
  writesResults_of_not_check (not_check_of_compile h) (fun _ hne => absurd rfl hne)
    (fun _ => ⟨rfl, rfl⟩) (fun _ _ _ _ hdone => absurd hdone Nat.one_ne_zero)

end Compile

section Compile

variable {w : View F} {args : List String} {c : Compilation} {layout : Layout} {v : Validator}

theorem writesResults_printed (h : command? args = some (.compile c none layout))
    (hv : w.validator? c = some v) :
    WritesResults w args (some ⟨layout.write v.toSchema, none⟩) w.content := by
  refine writesResults_of_not_check (not_check_of_compile h) (fun _ hne => absurd rfl hne)
    (absurd rfl) fun c' output' layout' h' _ => ?_
  cases h.symm.trans h'
  exact ⟨v, _, hv, renders_write _ _, rfl⟩

theorem writesResults_written {path : String} {after : F → Option ByteArray}
    (h : command? args = some (.compile c (some path) layout)) (hv : w.validator? c = some v)
    (hwritten : after (w.file path) = some (layout.write v.toSchema).toUTF8)
    (hothers : ∀ f, f ≠ w.file path → after f = w.content f) :
    WritesResults w args (some ⟨"", none⟩) after := by
  refine writesResults_of_not_check (not_check_of_compile h) (fun f hne => ?_)
    (absurd rfl) fun c' output' layout' h' _ => ?_
  · have hf : f = w.file path := by
      by_contra hf
      exact hne (hothers f hf)
    subst hf
    exact ⟨c, path, layout, v, _, h, rfl, hv, renders_write _ _, hwritten⟩
  · cases h.symm.trans h'
    exact ⟨v, _, hv, renders_write _ _, hwritten⟩

theorem runIn_deliver (path text : String) (s : σ) :
    (deliver system (some path) text).runIn s =
      match Acting.run (system.writeFile path text) s with
      | (.ok (), after) => (.ok ⟨"", none⟩, after)
      | (.error error, after) => (.error (.cannotCreate path error), after) := by
  refine (runIn_bind_ok (runIn_lift (system.writeFile path text) s)).trans ?_
  rcases Acting.run (system.writeFile path text) s with ⟨e | x, after⟩
  · exact runIn_throw _ _
  · exact runIn_pure _ _

theorem writesResults_compile {output : Option String} (hsystem : Behaves system view)
    (h : command? args = some (.compile c output layout)) (s : σ) :
    WritesResults (view s) args
      (some (Acting.run ((Command.compile c output layout).run system) s).1)
      (view (Acting.run ((Command.compile c output layout).run system) s).2).content := by
  have hreads := reads_readValidator hsystem c s
  rw [run_eq, Command.attempt]
  cases hv : (view s).validator? c with
  | none =>
      obtain ⟨e, after, hrun, hcontent⟩ := hreads.exists_of_none hv
      rw [runIn_bind_error hrun]
      change WritesResults _ _ _ (view after).content
      rw [hcontent]
      exact writesResults_failed h
  | some v =>
      obtain ⟨after, hrun, hview⟩ := hreads.exists_of_some hv
      have hcontent : (view after).content = (view s).content := by
        rw [hview, View.content_afterReading]
      have hfile : (view after).file = (view s).file := by
        rw [hview, View.file_afterReading]
      rw [runIn_bind_ok hrun]
      cases output with
      | none =>
          rw [deliver, runIn_pure]
          change WritesResults _ _ _ (view after).content
          rw [hcontent]
          exact writesResults_printed h hv
      | some path =>
          have hwritten := hsystem.written path (layout.write v.toSchema) after
          have hothers := hsystem.others path (layout.write v.toSchema) after
          have hunwritten := hsystem.unwritten path (layout.write v.toSchema) after
          rw [runIn_deliver]
          cases hw : Acting.run (system.writeFile path (layout.write v.toSchema)) after with
          | mk r last =>
              rw [hw, hfile] at hwritten hothers
              rw [hw] at hunwritten
              cases r with
              | error e =>
                  change WritesResults _ _ _ (view last).content
                  rw [hunwritten e rfl, hcontent]
                  exact writesResults_failed h
              | ok x =>
                  refine writesResults_written h hv (hwritten rfl) fun f hf => ?_
                  rw [← hcontent]
                  exact hothers f hf

end Compile

def runNamed (system : System m) (s : σ) : Option Command → Option Outcome × σ
  | none => (none, s)
  | some c => (some (Acting.run (c.run system) s).1, (Acting.run (c.run system) s).2)

theorem run_runArguments (args : List String) (s : σ) :
    Acting.run (runArguments system args) s = runNamed system s (command? args) := by
  rw [runArguments]
  cases command? args with
  | none => exact Acting.run_pure _ _
  | some c => exact (Acting.run_bind _ _ _).trans (Acting.run_pure _ _)

theorem writesResults_runNamed (hsystem : Behaves system view) (args : List String) (s : σ) :
    WritesResults (view s) args (runNamed system s (command? args)).1
      (view (runNamed system s (command? args)).2).content := by
  cases h : command? args with
  | none => exact writesResults_usage h (view s)
  | some c =>
      cases c with
      | check c source layout => exact writesResults_check h hsystem s
      | compile c output layout => exact writesResults_compile hsystem h s

end

/-- So does the program itself, as far as its files and its standard input behave. -/
theorem Machine.writesResults_run {F : Type} {view : Void IO.RealWorld → View F}
    (hsystem : Behaves Machine.system view) (args : List String) (w : Void IO.RealWorld) :
    WritesResults (view w) args (Machine.run args w).val
      (view (Machine.run args w).state).content := by
  change WritesResults (view w) args (Acting.run (runArguments Machine.system args) w).1
    (view (Acting.run (runArguments Machine.system args) w).2).content
  rw [run_runArguments]
  exact writesResults_runNamed hsystem args w

end SchemaCheck.CommandLine
