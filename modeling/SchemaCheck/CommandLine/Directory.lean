import SchemaCheck.CommandLine.Run

namespace SchemaCheck.CommandLine

/-- The steps from the root to a file or a directory. -/
abbrev Place := List String

namespace Place

def steps (path : String) : List String :=
  (Text.fields (· = '/') path.toList).map String.ofList

/-- Paths that start at the root, and all others, which start at the working directory. -/
def start (home : Place) (path : String) : Place := if path.startsWith "/" then [] else home

def enter (p : Place) (step : String) : Place :=
  if step = "" ∨ step = "." then p
  else if step = ".." then p.dropLast
  else p ++ [step]

def named (home : Place) (name : String) : Place := (steps name).foldl enter (start home name)

def name (home p : Place) : String :=
  if home.isPrefixOf p then String.intercalate "/" (p.drop home.length)
  else "/" ++ String.intercalate "/" p

end Place

/-- Texts by the paths of their files. -/
abbrev Files := List (String × String)

namespace Files

variable (home : Place) (files : Files)

def textAt? (p : Place) : Option String :=
  (files.find? fun f => Place.named home f.1 = p).map (·.2)

/-- The working directory lies there or below, or some file does below. -/
def isDirectory (p : Place) : Bool :=
  p.isPrefixOf home || files.any fun f =>
    p.isPrefixOf (Place.named home f.1) && p ≠ Place.named home f.1

/-- No path goes on from a place that is no directory. -/
def endOfPath (p : Place) : FileError :=
  if (textAt? home files p).isSome then .notDirectory else .missing

def walk (p : Place) : List String → Except FileError Place
  | [] => .ok p
  | step :: rest =>
    if isDirectory home files p then walk (p.enter step) rest else .error (endOfPath home files p)

/-- A directory can be opened, but has no text. -/
def read (path : String) : Except FileError String := do
  let p ← walk home files (Place.start home path) (Place.steps path)
  match textAt? home files p with
  | some text => .ok text
  | none => if isDirectory home files p then .ok "" else .error .missing

/-- The place of a file to write. Its directory has to be there. -/
def target (path : String) : Except FileError Place :=
  match (Place.steps path).reverse.dropWhile (· = "") with
  | [] => .error .isDirectory
  | last :: before => do
    let p ← walk home files (Place.start home path) before.reverse
    if !isDirectory home files p then .error (endOfPath home files p)
    else if path.endsWith "/" || isDirectory home files (p.enter last) then .error .isDirectory
    else .ok (p.enter last)

def write (path text : String) : Except FileError Files := do
  let p ← target home files path
  pure ((path, text) :: files.filter fun f => Place.named home f.1 ≠ p)

end Files

/-- A directory of texts, with a standard input: surroundings without any device. -/
structure Directory where
  files : Files
  input : String

namespace Directory

def system (home : Place) : System (StateM Directory) where
  readInput := fun d => (d.input, { d with input := "" })
  readFile path := fun d => (d.files.read home path, d)
  writeFile path text := fun d =>
    match d.files.write home path text with
    | .ok files => (.ok (), { d with files := files })
    | .error error => (.error error, d)

def changes (before after : Directory) (home : Place := ["work"]) : Files :=
  after.files.filterMap fun f =>
    let p := Place.named home f.1
    if before.files.textAt? home p = some f.2 then none else some (Place.name home p, f.2)

def run (d : Directory) (c : Command) (home : Place := ["work"]) : Outcome × Directory :=
  (c.run (system home)).run d

end Directory

end SchemaCheck.CommandLine
