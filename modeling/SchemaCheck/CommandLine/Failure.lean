import SchemaCheck.CommandLine.Arguments
import SchemaCheck.Issue
import SchemaCheck.Schema.Error
import SchemaCheck.Text.Fields

namespace SchemaCheck.CommandLine

inductive FileError
  | missing
  | notDirectory
  | isDirectory
  | other (text : String)
deriving DecidableEq

def FileError.message : FileError → String
  | missing => "No such file or directory (os error 2)"
  | notDirectory => "Not a directory (os error 20)"
  | isDirectory => "Is a directory (os error 21)"
  | other text => text

inductive Role
  | schema
  | definitions
  | instance_
deriving DecidableEq

def Role.name : Role → String
  | schema => "schema"
  | definitions => "definitions"
  | instance_ => "instance"

inductive Failure
  | cannotOpen (role : Role) (path : String) (error : FileError)
  | notJson (role : Role) (source : Source)
  | definitionsNotObject (source : Source)
  | notCompiled (error : Schema.Error)
  | notValid (error : ValidationError)
  | cannotCreate (path : String) (error : FileError)

namespace Failure

def headline : Failure → String
  | cannotOpen role path _ => "Failed to open " ++ role.name ++ " file: " ++ path
  | notJson role .input => "Failed to parse " ++ role.name ++ " from stdin"
  | notJson role (.file path) => "Failed to parse " ++ role.name ++ " from: " ++ path
  | definitionsNotObject .input => "Definitions file must hold a JSON object: -"
  | definitionsNotObject (.file path) => "Definitions file must hold a JSON object: " ++ path
  | notCompiled _ => "Compilation failed"
  | notValid error => "Validation failed: " ++ error.message
  | cannotCreate path _ => "Failed to create output file: " ++ path

def causes : Failure → List String
  | cannotOpen _ _ error => [error.message]
  | cannotCreate _ error => [error.message]
  | notCompiled error => [error.report, error.message]
  | _ => []

/-- A text whose further lines start below its first one. -/
def hanging (indent : String) (text : String) : String :=
  String.intercalate ("\n" ++ indent)
    ((Text.fields (· = '\n') text.toList).map String.ofList)

/-- A single cause has no number. -/
def causeLines : List String → List String
  | [cause] => ["    " ++ hanging "    " cause]
  | causes =>
    causes.zipIdx.map fun (cause, i) => "    " ++ toString i ++ ": " ++ hanging "       " cause

def report (f : Failure) : String :=
  "Error: " ++ f.headline ++
    if f.causes.isEmpty then ""
    else "\n\nCaused by:\n" ++ String.intercalate "\n" (causeLines f.causes)

end Failure

end SchemaCheck.CommandLine
