import SchemaCheck.Schema.Options
import SchemaCheck.Text.Digits

namespace SchemaCheck.CommandLine

inductive Layout
  | pretty
  | compact
deriving DecidableEq

/-- A single hyphen names the standard input. -/
inductive Source
  | input
  | file (path : String)
deriving DecidableEq

def Source.ofPath (path : String) : Source := if path = "-" then .input else .file path

structure Compilation where
  schema : Source
  definitions : Option Source
  options : Schema.Options
deriving DecidableEq

inductive Command
  | check (compilation : Compilation) (instance_ : Source) (layout : Layout)
  | compile (compilation : Compilation) (output : Option String) (layout : Layout)
deriving DecidableEq

inductive Flag
  | verbose
  | strict
  | maxDepth
  | definitions
  | format
  | output
deriving DecidableEq

namespace Flag

def takesValue : Flag → Bool
  | verbose => false
  | strict => false
  | _ => true

def ofName? : String → Option Flag
  | "verbose" => some verbose
  | "strict" => some strict
  | "max-depth" => some maxDepth
  | "definitions" => some definitions
  | "format" => some format
  | "output" => some output
  | _ => none

def ofLetter? : Char → Option Flag
  | 'v' => some verbose
  | 'o' => some output
  | _ => none

end Flag

inductive Item
  | flag (flag : Flag)
  | setting (flag : Flag) (value : String)
  | operand (text : String)

/-- A flag, whose value is what is attached to it or else the next argument; that one must not look
like an option. -/
def valued? (flag : Flag) (attached : Option String) (rest : List String) :
    Option (List Item × List String) :=
  match attached, rest with
  | some value, rest => some ([.setting flag value], rest)
  | none, value :: rest =>
    if value = "-" ∨ !value.startsWith "-" then some ([.setting flag value], rest) else none
  | none, [] => none

def named? (name : String) (attached : Option String) (rest : List String) :
    Option (List Item × List String) :=
  (Flag.ofName? name).bind fun flag =>
    if flag.takesValue then valued? flag attached rest
    else if attached.isSome then none
    else some ([.flag flag], rest)

def splitName (cs : List Char) : String × Option String :=
  match cs.dropWhile (· ≠ '=') with
  | [] => (.ofList cs, none)
  | _ :: value => (.ofList (cs.takeWhile (· ≠ '=')), some (.ofList value))

/-- A value may stand right after its letter, or after an equals sign. -/
def attachedTo : List Char → Option String
  | [] => none
  | '=' :: value => some (.ofList value)
  | value => some (.ofList value)

/-- Letters that stand together. All but the last are flags without a value. -/
def letters? : List Char → List String → Option (List Item × List String)
  | [], rest => some ([], rest)
  | c :: cs, rest =>
    (Flag.ofLetter? c).bind fun flag =>
      if flag.takesValue then valued? flag (attachedTo cs) rest
      else (letters? cs rest).map fun (items, rest) => (.flag flag :: items, rest)

def item? (arg : String) (rest : List String) : Option (List Item × List String) :=
  match arg.toList with
  | ['-'] => some ([.operand arg], rest)
  | '-' :: '-' :: name =>
    let (name, attached) := splitName name
    named? name attached rest
  | '-' :: letters => letters? letters rest
  | _ => some ([.operand arg], rest)

theorem valued?_length {flag attached rest items more}
    (h : valued? flag attached rest = some (items, more)) : more.length ≤ rest.length := by
  unfold valued? at h
  split at h
  · grind
  · split at h <;> grind
  · grind

theorem letters?_length {cs rest items more}
    (h : letters? cs rest = some (items, more)) : more.length ≤ rest.length := by
  induction cs generalizing items more with
  | nil => grind [letters?]
  | cons c cs ih =>
    unfold letters? at h
    obtain ⟨flag, _, h⟩ := Option.bind_eq_some_iff.1 h
    split at h
    · exact valued?_length h
    · obtain ⟨⟨items', more'⟩, hl, h⟩ := Option.map_eq_some_iff.1 h
      simp only [Prod.mk.injEq] at h
      exact h.2 ▸ ih hl

theorem item?_length {arg rest items more}
    (h : item? arg rest = some (items, more)) : more.length ≤ rest.length := by
  unfold item? at h
  split at h
  · grind
  · unfold named? at h
    obtain ⟨flag, _, h⟩ := Option.bind_eq_some_iff.1 h
    split at h
    · exact valued?_length h
    · split at h <;> grind
  · exact letters?_length h
  · grind

def items? : List String → Option (List Item)
  | [] => some []
  | arg :: rest =>
    if arg = "--" then some (rest.map .operand)
    else
      match h : item? arg rest with
      | none => none
      | some (items, more) =>
        have := item?_length h
        (items? more).map (items ++ ·)
termination_by args => args.length

def operands (items : List Item) : List String :=
  items.filterMap fun
    | .operand text => some text
    | _ => none

def Item.flag? : Item → Option Flag
  | .flag f => some f
  | .setting f _ => some f
  | .operand _ => none

/-- Every option is one of those allowed, and stands there once. -/
def usesOnly (allowed : List Flag) (items : List Item) : Bool :=
  let flags := items.filterMap Item.flag?
  flags.all allowed.contains && flags.Nodup

def hasFlag (flag : Flag) (items : List Item) : Bool := (items.filterMap Item.flag?).contains flag

def setting (flag : Flag) (items : List Item) : Option String :=
  items.findSome? fun
    | .setting f value => if f = flag then some value else none
    | _ => none

def path? (text : String) : Option String := if text.isEmpty then none else some text

def layout? : String → Option Layout
  | "pretty" => some .pretty
  | "compact" => some .compact
  | _ => none

/-- An option that is left out has no value, but one that is given needs a proper one. -/
def optional? {α : Type} (read? : String → Option α) : Option String → Option (Option α)
  | none => some none
  | some text => (read? text).map some

def compilation? (schema : String) (items : List Item) : Option Compilation := do
  let schema ← path? schema
  let maxDepth ← optional? Text.count? (setting .maxDepth items)
  let definitions ← optional? path? (setting .definitions items)
  pure
    { schema := .ofPath schema
      definitions := definitions.map .ofPath
      options := { strict := hasFlag .strict items, maxDepth := maxDepth.getD 50 } }

def common : List Flag := [.verbose, .strict, .maxDepth, .definitions, .format]

def check? (items : List Item) : Option Command :=
  match operands items with
  | [schema, instance_] => do
    let compilation ← compilation? schema items
    let instance_ ← path? instance_
    let layout ← optional? layout? (setting .format items)
    if usesOnly common items then
      some (.check compilation (.ofPath instance_) (layout.getD .pretty))
    else none
  | _ => none

def compile? (items : List Item) : Option Command :=
  match operands items with
  | [schema] => do
    let compilation ← compilation? schema items
    let output ← optional? path? (setting .output items)
    let layout ← optional? layout? (setting .format items)
    if usesOnly (.output :: common) items then
      some (.compile compilation output (layout.getD .pretty))
    else none
  | _ => none

def isCommandName (arg : String) : Bool := arg = "check" || arg = "compile"

/-- Before the name of the command there may only be the flag that asks for more messages. -/
def command? (args : List String) : Option Command := do
  let leading := args.takeWhile (!isCommandName ·)
  let before ← items? leading
  if !leading.contains "--" ∧ operands before = [] ∧ usesOnly [.verbose] before then
    match args.dropWhile (!isCommandName ·) with
    | "check" :: rest => check? (← items? rest)
    | "compile" :: rest => compile? (← items? rest)
    | _ => none
  else none

end SchemaCheck.CommandLine
