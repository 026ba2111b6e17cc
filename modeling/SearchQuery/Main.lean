import SearchQuery.Command.Run

/-!
# The program

Reads the arguments, the environment and the files that the command names, runs the command and
prints its output.
-/

set_option autoImplicit false

namespace SearchQuery.Command

/-- The code by which the system says that a part of a path is no directory. -/
def notDirectoryCode : UInt32 := 20

def readTextFile (path : String) : IO (Except FileError String) := do
  try
    let text ← IO.FS.readFile path
    return .ok text
  catch error =>
    match error with
    | .inappropriateType _ code _ =>
        return .error (if code == notDirectoryCode then .notDirectory else .isDirectory)
    | _ => return .error .notFound

def gatherFiles (paths : List String) : IO (List (String × Except FileError String)) :=
  paths.mapM fun path => do
    let content ← readTextFile path
    return (path, content)

def Invocation.paths (environment : Option String) (invocation : Invocation) : List String :=
  let inputs :=
    match invocation.action with
    | .filter _ input => [input]
    | _ => []
  (schemaPath? invocation.schema environment).toList ++ inputs

def usageText : String :=
  "Usage: sq [OPTIONS] <COMMAND>\n\n" ++
  "Commands:\n" ++
  "  parse      Parse a query and print its canonical form\n" ++
  "  translate  Print the typed filter expression of a query as JSON\n" ++
  "  sql        Print the SQL WHERE fragment and bind parameters of a query\n" ++
  "  filter     Print the documents of a JSON file that match a query\n" ++
  "  params     Build a query from request-style key=value parameters\n" ++
  "  help       Print this message\n\n" ++
  "Options:\n" ++
  "  -v, --verbose                  Enable debug logging\n" ++
  "      --schema <SCHEMA>          Schema file (JSON or YAML), defaults to $SQ_SCHEMA\n" ++
  "      --max-depth <MAX_DEPTH>    Maximum nesting depth of parenthesized groups\n" ++
  "      --max-length <MAX_LENGTH>  Maximum query length, in characters\n" ++
  "  -h, --help                     Print help\n" ++
  "  -V, --version                  Print version"

end SearchQuery.Command

open SearchQuery.Command in
def main (arguments : List String) : IO UInt32 := do
  match readArguments arguments with
  | .error .displayHelp =>
      IO.println usageText
      return 0
  | .error .displayVersion =>
      IO.println "sq 0.4.1"
      return 0
  | .error error =>
      IO.eprintln ("error: " ++ error.kind ++ "\n\n" ++ usageText)
      return 2
  | .ok invocation =>
      let environment ← IO.getEnv schemaVariable
      let files ← gatherFiles (invocation.paths environment)
      let reader : FileReader := fun path => (files.lookup path).getD (.error .notFound)
      match run reader environment invocation with
      | .ok output =>
          IO.println output
          return 0
      | .error error =>
          IO.eprintln ("Error: " ++ error.message "the text is malformed")
          return 1
