import SchemaCheck.CommandLine.Run

namespace SchemaCheck.CommandLine.Machine

def fileError : IO.Error → FileError
  | .noFileOrDirectory .. => .missing
  | .inappropriateType .. => .isDirectory
  | error => .other (toString error)

def attempt {α : Type} (act : IO α) : BaseIO (Except FileError α) := do
  match ← act.toBaseIO with
  | .ok x => pure (.ok x)
  | .error error => pure (.error (fileError error))

/-- Bytes that are no text read as an empty one, which is no JSON either. -/
def textOf (bytes : ByteArray) : String := (String.fromUTF8? bytes).getD ""

def readInput : IO String := do
  let bytes ← (← IO.getStdin).readBinToEnd
  pure (textOf bytes)

/-- The files and the standard input of the machine. A standard input that cannot be read is no
JSON either. -/
def system : System BaseIO where
  readInput := do
    match ← readInput.toBaseIO with
    | .ok text => pure text
    | .error _ => pure ""
  readFile path := attempt do
    let bytes ← IO.FS.readBinFile path
    pure (textOf bytes)
  writeFile path text := attempt (IO.FS.writeFile path text)

def run (args : List String) : BaseIO (Option Outcome) := runArguments system args

def usage : String :=
  "Usage: check <schema> <instance> [--strict] [--max-depth <n>] [--definitions <file>]" ++
    " [--format pretty|compact]\n" ++
    "       compile <schema> [-o <file>] [--strict] [--max-depth <n>] [--definitions <file>]" ++
    " [--format pretty|compact]"

end SchemaCheck.CommandLine.Machine

open SchemaCheck.CommandLine

def main (args : List String) : IO UInt32 := do
  let outcome ← Machine.run args
  IO.print (printedText outcome)
  match outcome with
  | none => IO.eprintln Machine.usage
  | some outcome =>
    match outcome.failure with
    | some failure => IO.eprintln failure.report
    | none => pure ()
  pure (.ofNat (exitStatus outcome))
