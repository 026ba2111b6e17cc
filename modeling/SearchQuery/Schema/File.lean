import SearchQuery.Schema.Json
import SearchQuery.Schema.Yaml
import SearchQuery.Text.Basic

/-!
# Schema files

The name of a file decides the format of its text: names that end in `.json`, in any case of
letters, hold JSON, and all others hold YAML.
-/

set_option autoImplicit false

namespace SearchQuery

def pathParts (path : String) : List (List Char) :=
  (path.toList.splitOnP (· == '/')).filter fun part => !part.isEmpty

/-- The last component of a path, if it names a file: components that stand for the directory itself
are passed over, and the parent directory is none. -/
def fileName? (path : String) : Option (List Char) :=
  match (pathParts path).reverse.dropWhile (· == ['.']) with
  | [] => none
  | name :: _ => if name == ['.', '.'] then none else some name

/-- What follows the last dot of a file name; a dot at the front does not count. -/
def fileExtension? (path : String) : Option String :=
  match fileName? path with
  | none => none
  | some name =>
      let tail := name.reverse.takeWhile (· != '.')
      if tail.length + 1 < name.length then some (String.ofList tail.reverse) else none

def SchemaFormat.ofPath (path : String) : SchemaFormat :=
  match fileExtension? path with
  | none => .yaml
  | some extension => if Text.sameLetters extension "json" then .json else .yaml

def Schema.ofText (format : SchemaFormat) (text : String) : Except SchemaError Schema :=
  match format with
  | .json => Schema.ofJson text
  | .yaml => Schema.ofYaml text

/-- The schema file to use: the one asked for, else the one that the environment names, unless that
name is blank. -/
def schemaPath? (asked environment : Option String) : Option String :=
  match asked, environment with
  | some path, _ => some path
  | none, some path => if Text.isAllBlank path then none else some path
  | none, none => none

end SearchQuery
