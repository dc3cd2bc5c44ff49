import SchemaCheck.CommandLine.Failure
import SchemaCheck.Json.Reader
import SchemaCheck.Schema.Strict
import SchemaCheck.Validator.Export
import SchemaCheck.Validator.Run

namespace SchemaCheck.CommandLine

/-- What a command needs of its surroundings. -/
structure System (m : Type → Type) where
  /-- What is left of the standard input. -/
  readInput : m String
  readFile : String → m (Except FileError String)
  writeFile : String → String → m (Except FileError Unit)

structure Outcome where
  printed : String
  failure : Option Failure := none

def Outcome.exitCode (o : Outcome) : Nat := if o.failure.isSome then 1 else 0

def Layout.write (layout : Layout) (x : Json) : String :=
  (match layout with
    | .pretty => x.pretty
    | .compact => x.compact) ++ "\n"

variable {m : Type → Type} [Monad m]

abbrev Attempt (m : Type → Type) := ExceptT Failure m

def readText (system : System m) (role : Role) : Source → Attempt m String
  | .input => ExceptT.lift system.readInput
  | .file path => do
    match ← system.readFile path with
    | .ok text => pure text
    | .error error => throw (.cannotOpen role path error)

def readJson (system : System m) (role : Role) (source : Source) : Attempt m Json := do
  match Json.parse? (← readText system role source) with
  | some x => pure x
  | none => throw (.notJson role source)

def readDefinitions (system : System m) : Option Source → Attempt m Json.Members
  | none => pure []
  | some source => do
    match ← readJson system .definitions source with
    | .object definitions => pure definitions
    | _ => throw (.definitionsNotObject source)

def readValidator (system : System m) (c : Compilation) : Attempt m Validator := do
  let schema ← readJson system .schema c.schema
  let definitions ← readDefinitions system c.definitions
  match Schema.compile schema c.options definitions with
  | .ok v => pure v
  | .error error => throw (.notCompiled error)

/-- The value is printed as it is after validation, or else the list of its issues. -/
def verdict (layout : Layout) (v : Validator) (x : Json) : Outcome :=
  match v.parse x with
  | .ok y => ⟨layout.write y, none⟩
  | .error e => ⟨layout.write (.array (e.issues.map Issue.toJson)), some (.notValid e)⟩

def deliver (system : System m) (output : Option String) (text : String) : Attempt m Outcome :=
  match output with
  | none => pure ⟨text, none⟩
  | some path => do
    match ← system.writeFile path text with
    | .ok () => pure ⟨"", none⟩
    | .error error => throw (.cannotCreate path error)

def Command.attempt (system : System m) : Command → Attempt m Outcome
  | .check compilation instance_ layout => do
    let v ← readValidator system compilation
    let x ← readJson system .instance_ instance_
    pure (verdict layout v x)
  | .compile compilation output layout => do
    let v ← readValidator system compilation
    deliver system output (layout.write v.toSchema)

def Command.run (system : System m) (c : Command) : m Outcome := do
  match ← (c.attempt system).run with
  | .ok outcome => pure outcome
  | .error failure => pure ⟨"", some failure⟩

/-- Runs the command that the arguments name, if they name one. Help is no command. -/
def runArguments (system : System m) (args : List String) : m (Option Outcome) := do
  match command? args with
  | none => pure none
  | some c =>
    let outcome ← c.run system
    pure (some outcome)

/-- The exit status. Arguments that name no command are a wrong usage. -/
def exitStatus : Option Outcome → Nat
  | none => 2
  | some outcome => outcome.exitCode

def printedText : Option Outcome → String
  | none => ""
  | some outcome => outcome.printed

end SchemaCheck.CommandLine
