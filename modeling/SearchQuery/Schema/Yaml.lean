import SearchQuery.Schema.Basic
import SearchQuery.Yaml.Node

/-!
# Schemas in YAML

A schema is a mapping with the key `attributes`, which maps names to declarations; a declaration has
the keys `type` and `labels`. An empty plain scalar stands for an empty mapping or sequence. Other
keys are ignored, repeated ones are refused. The text of a scalar counts as it is written, whether
or not it looks like a number or a truth value.
-/

set_option autoImplicit false

namespace SearchQuery.Schema

def textOfNode? : Yaml.Node → Option String
  | .scalar text _ => some text
  | _ => none

def namedEntries? : List (Yaml.Node × Yaml.Node) → Option (List (String × Yaml.Node))
  | [] => some []
  | (name, content) :: rest =>
      match textOfNode? name, namedEntries? rest with
      | some text, some entries => some ((text, content) :: entries)
      | _, _ => none

/-- The entries of a mapping, or none of an empty plain scalar. -/
def entriesOfNode? : Yaml.Node → Option (List (String × Yaml.Node))
  | .mapping entries => namedEntries? entries
  | .scalar text plain => if text.isEmpty && plain then some [] else none
  | .sequence _ => none

def textsOfNodes? : List Yaml.Node → Option (List String)
  | [] => some []
  | node :: rest =>
      match textOfNode? node, textsOfNodes? rest with
      | some text, some texts => some (text :: texts)
      | _, _ => none

def labelsOfNode? : Yaml.Node → Option (List String)
  | .sequence items => textsOfNodes? items
  | .scalar text plain => if text.isEmpty && plain then some [] else none
  | .mapping _ => none

def specOfNode? (node : Yaml.Node) : Option AttributeSpec := do
  let entries ← entriesOfNode? node
  let tagNode ← uniqueField? "type" entries
  let labelsNode ← uniqueField? "labels" entries
  let tag ← (textOfNode? (← tagNode)).bind TypeTag.ofName?
  match labelsNode with
  | none => return ⟨tag, []⟩
  | some node =>
      let labels ← labelsOfNode? node
      return ⟨tag, labels⟩

def specsOfEntries? : List (String × Yaml.Node) → Option (List (String × AttributeSpec))
  | [] => some []
  | (name, node) :: rest =>
      match specOfNode? node, specsOfEntries? rest with
      | some spec, some specs => some ((name, spec) :: specs)
      | _, _ => none

def ofNode? (node : Yaml.Node) : Option Schema := do
  let entries ← entriesOfNode? node
  match ← uniqueField? "attributes" entries with
  | none => some empty
  | some attributes =>
      let named ← entriesOfNode? attributes
      let specs ← specsOfEntries? named
      return ofList specs

def ofYaml (text : String) : Except SchemaError Schema :=
  match (Yaml.Node.ofText? text).bind ofNode? with
  | none => .error (.malformed .yaml)
  | some schema => schema.validated

end SearchQuery.Schema
