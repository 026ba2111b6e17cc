import SearchQuery.Command.Arguments
import SearchQuery.Document.Match
import SearchQuery.Filter
import SearchQuery.Json.Reader
import SearchQuery.Request
import SearchQuery.Schema.File
import SearchQuery.Where

/-!
# Running a command

A command is a function of its invocation, of the environment and of the files it may read. The
schema is loaded first, then the documents of `filter`, and only then the query is read.
-/

set_option autoImplicit false

namespace SearchQuery.Command

inductive FileError where
  | notFound
  | isDirectory
  | notDirectory
deriving DecidableEq, Repr

def FileError.message : FileError → String
  | .notFound => "No such file or directory (os error 2)"
  | .isDirectory => "Is a directory (os error 21)"
  | .notDirectory => "Not a directory (os error 20)"

inductive SchemaFault where
  | unreadable (error : FileError)
  | unusable (error : SchemaError)
deriving DecidableEq, Repr

inductive CommandError where
  | search (error : SearchError)
  | schemaLoad (path : String) (fault : SchemaFault)
  | inputRead (path : String) (error : FileError)
  | invalidInput (path : String)
  | invalidParameter (text : String)
deriving DecidableEq, Repr

def schemaVariable : String := "SQ_SCHEMA"

namespace SchemaFault

def context (path : String) : SchemaFault → String
  | .unreadable _ => "Failed to read schema file: " ++ path
  | .unusable _ => "Failed to load schema file: " ++ path

def cause (detail : String) : SchemaFault → String
  | .unreadable error => error.message
  | .unusable error => error.message detail

end SchemaFault

namespace CommandError

def message (detail : String) : CommandError → String
  | .search error => error.message
  | .schemaLoad path fault =>
      "Failed to load schema " ++ path ++ ": " ++ fault.context path ++ ": " ++ fault.cause detail ++
        "\n\nPossible fixes:\n  - Check that the file exists and is valid JSON (.json) or YAML\n" ++
        "  - Every enumeration attribute needs a non-empty 'labels' list\n" ++
        "  - Use --schema or set " ++ schemaVariable ++ " to point to another file"
  | .inputRead path error =>
      "Failed to read input file " ++ path ++ ": " ++ error.message ++
        "\n\nCheck the path and file permissions given to --input."
  | .invalidInput path =>
      "Input file " ++ path ++ " is not valid JSON: " ++ detail ++
        "\n\nThe file must hold one JSON document or an array of documents."
  | .invalidParameter text =>
      "Invalid parameter: '" ++ text ++
        "'\n\nParameters are written as key=value, e.g. lastName=DOE or 'age[ge]=20'."

/-- What lies behind the error, for those that wrap another one. -/
def source? (detail : String) : CommandError → Option String
  | .search _ => none
  | .schemaLoad path fault => some (fault.context path)
  | .inputRead _ error => some error.message
  | .invalidInput _ => some detail
  | .invalidParameter _ => none

end CommandError

def FileReader : Type := String → Except FileError String

def loadSchema (files : FileReader) (path : Option String) : Except CommandError Schema :=
  match path with
  | none => .ok .empty
  | some path =>
    match files path with
    | .error error => .error (.schemaLoad path (.unreadable error))
    | .ok text =>
      match Schema.ofText (.ofPath path) text with
      | .error error => .error (.schemaLoad path (.unusable error))
      | .ok schema => .ok schema

def loadDocuments (files : FileReader) (path : String) : Except CommandError (List Json) :=
  match files path with
  | .error error => .error (.inputRead path error)
  | .ok text =>
    match Json.read? text with
    | none => .error (.invalidInput path)
    | some value => .ok (Document.collection value)

def readParameter (text : String) : Except CommandError Parameter :=
  let name := text.toList.takeWhile (· != '=')
  match text.toList.dropWhile (· != '=') with
  | [] => .error (.invalidParameter text)
  | _ :: value =>
      if name.isEmpty then .error (.invalidParameter text)
      else .ok ⟨String.ofList name, String.ofList value⟩

/-- The parameters, up to the first that is malformed. -/
def readParameters : List String → Except CommandError (List Parameter)
  | [] => .ok []
  | text :: rest => do
      let parameter ← readParameter text
      let parameters ← readParameters rest
      return parameter :: parameters

def searching {α : Type} : Except SearchError α → Except CommandError α
  | .ok value => .ok value
  | .error error => .error (.search error)

def readFilter (limits : Limits) (schema : Schema) (query : String) :
    Except CommandError (Option Filter) := do
  let search ← searching (Search.parse limits query)
  searching (search.toFilter schema.types)

/-- The two lines that `sql` prints: the condition, and the values of its placeholders. -/
def sqlOutput (offset : Nat) : Option Filter → Except CommandError String
  | none => .ok "\n[]"
  | some filter => do
      let bound ← searching (filter.toCondition offset)
      return bound.condition.text ++ "\n" ++ bound.parametersJson.compact

def runAction (files : FileReader) (limits : Limits) (schema : Schema) :
    Action → Except CommandError String
  | .parse query => do
      let search ← searching (Search.parse limits query)
      return search.text
  | .translate query => do
      let filter ← readFilter limits schema query
      return (Filter.toJson? filter).indented
  | .sql query offset => do
      let filter ← readFilter limits schema query
      sqlOutput offset filter
  | .filter query input => do
      let documents ← loadDocuments files input
      let filter ← readFilter limits schema query
      let kept :=
        match filter with
        | none => documents
        | some filter => Document.select filter documents
      return (Json.array kept).indented
  | .params texts reserved nameStart => do
      let parameters ← readParameters texts
      let standard : RequestForm := {}
      let form : RequestForm :=
        { standard with
          nameStart := nameStart
          reserved := standard.reserved ++ reserved
          limits := limits }
      let search ← searching (form.search parameters)
      return search.text

def Invocation.limits (invocation : Invocation) : Limits :=
  let standard : Limits := {}
  { maxLength := invocation.maxLength.getD standard.maxLength
    maxDepth := invocation.maxDepth.getD standard.maxDepth }

def run (files : FileReader) (environment : Option String) (invocation : Invocation) :
    Except CommandError String := do
  let schema ← loadSchema files (schemaPath? invocation.schema environment)
  runAction files invocation.limits schema invocation.action

end SearchQuery.Command
