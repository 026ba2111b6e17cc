import SearchQuery.Filter
import SearchQuery.Json.Writer

/-!
# Schemas

A schema declares the types of attributes. Its attributes are kept in the order of their names, each
name once. A schema is valid when every enumeration has a label.
-/

set_option autoImplicit false

namespace SearchQuery

/-- The declaration of one attribute. The labels matter to enumerations only, and are kept for all
types. -/
structure AttributeSpec where
  tag : TypeTag
  labels : List String
deriving DecidableEq, Repr

def AttributeSpec.type (spec : AttributeSpec) : AttributeType :=
  .ofTag spec.labels spec.tag

def Ordered (entries : List (String × AttributeSpec)) : Prop :=
  entries.Pairwise fun left right => left.1 < right.1

def insertEntry (name : String) (spec : AttributeSpec) :
    List (String × AttributeSpec) → List (String × AttributeSpec)
  | [] => [(name, spec)]
  | (other, kept) :: rest =>
      if name < other then (name, spec) :: (other, kept) :: rest
      else if name = other then (name, spec) :: rest
      else (other, kept) :: insertEntry name spec rest

theorem mem_insertEntry {name : String} {spec : AttributeSpec}
    {entries : List (String × AttributeSpec)} {entry : String × AttributeSpec}
    (member : entry ∈ insertEntry name spec entries) : entry = (name, spec) ∨ entry ∈ entries := by
  fun_induction insertEntry name spec entries <;> grind

theorem ordered_insertEntry (name : String) (spec : AttributeSpec)
    (entries : List (String × AttributeSpec)) (ordered : Ordered entries) :
    Ordered (insertEntry name spec entries) := by
  unfold Ordered at *
  fun_induction insertEntry name spec entries with
  | case1 => simp
  | case2 other kept rest before =>
    refine List.Pairwise.cons (fun entry member => ?_) ordered
    rcases List.mem_cons.1 member with rfl | member
    · exact before
    · exact String.lt_trans before ((List.pairwise_cons.1 ordered).1 entry member)
  | case3 kept rest =>
    exact List.Pairwise.cons (List.pairwise_cons.1 ordered).1 (List.pairwise_cons.1 ordered).2
  | case4 other kept rest notBefore different inductionHypothesis =>
    obtain ⟨first, others⟩ := List.pairwise_cons.1 ordered
    refine List.Pairwise.cons (fun entry member => ?_) (inductionHypothesis others)
    rcases mem_insertEntry member with rfl | member
    · refine String.not_le.1 fun atMost => different ?_
      exact String.le_antisymm atMost (String.not_lt.1 notBefore)
    · exact first entry member

structure Schema where
  entries : List (String × AttributeSpec)
  ordered : Ordered entries
deriving DecidableEq

namespace Schema

def empty : Schema := ⟨[], List.Pairwise.nil⟩

def insert (schema : Schema) (name : String) (spec : AttributeSpec) : Schema :=
  ⟨insertEntry name spec schema.entries, ordered_insertEntry name spec _ schema.ordered⟩

def ofList (declarations : List (String × AttributeSpec)) : Schema :=
  declarations.foldl (fun schema entry => schema.insert entry.1 entry.2) empty

def types (schema : Schema) : TypeResolver :=
  fun name => (schema.entries.lookup name).map AttributeSpec.type

def unlabelled? (schema : Schema) : Option String :=
  (schema.entries.find? fun entry =>
    entry.2.tag = .enumeration ∧ entry.2.labels = []).map Prod.fst

/-- A declaration as JSON; an empty list of labels is left out. -/
def specJson (spec : AttributeSpec) : Json :=
  .object (("type", .string spec.tag.name) ::
    if spec.labels.isEmpty then [] else [("labels", .array (spec.labels.map .string))])

def toJson (schema : Schema) : Json :=
  .object [("attributes", .object (schema.entries.map fun entry => (entry.1, specJson entry.2)))]

end Schema

inductive SchemaFormat where
  | json
  | yaml
deriving DecidableEq, Repr

inductive SchemaError where
  | malformed (format : SchemaFormat)
  | unlabelled (name : String)
deriving DecidableEq, Repr

def SchemaError.message (detail : String) : SchemaError → String
  | .malformed .json => "Invalid JSON schema: " ++ detail
  | .malformed .yaml => "Invalid YAML schema: " ++ detail
  | .unlabelled name => "Enumeration attribute '" ++ name ++ "' declares no labels"

namespace Schema

def validated (schema : Schema) : Except SchemaError Schema :=
  match schema.unlabelled? with
  | none => .ok schema
  | some name => .error (.unlabelled name)

/-- The value of a field that may be missing but not repeated. There is no result when it is
repeated. -/
def uniqueField? {α : Type} (name : String) (fields : List (String × α)) : Option (Option α) :=
  match fields.filter fun field => field.1 == name with
  | [] => some none
  | [field] => some (some field.2)
  | _ => none

end Schema

end SearchQuery
