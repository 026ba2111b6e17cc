import SearchQuery.Json.Reader
import SearchQuery.Schema.Basic

/-!
# Schemas in JSON

A schema is an object with the field `attributes`, which maps names to declarations; a declaration
has the fields `type` and `labels`. Instead of an object with named fields, an array of the fields
in this order may be written, and fields at its end may be left out if they have a default. Other
fields are ignored, repeated ones are refused.
-/

set_option autoImplicit false

namespace SearchQuery.Schema

def namedFields? : List (List Nat × JsonForm) → Option (List (String × JsonForm))
  | [] => some []
  | (units, form) :: rest =>
      match JsonForm.unitsText? units, namedFields? rest with
      | some name, some fields => some ((name, form) :: fields)
      | _, _ => none

/-- A type is its name, or an object with that name and `null`. -/
def tagOfForm? : JsonForm → Option TypeTag
  | .string units => (JsonForm.unitsText? units).bind TypeTag.ofName?
  | .object [(units, .null)] => (JsonForm.unitsText? units).bind TypeTag.ofName?
  | _ => none

def textsOfForms? : List JsonForm → Option (List String)
  | [] => some []
  | .string units :: rest =>
      match JsonForm.unitsText? units, textsOfForms? rest with
      | some text, some texts => some (text :: texts)
      | _, _ => none
  | _ :: _ => none

def labelsOfForm? : JsonForm → Option (List String)
  | .array items => textsOfForms? items
  | _ => none

def optionalLabels? : Option JsonForm → Option (List String)
  | none => some []
  | some form => labelsOfForm? form

def specOfForm? (form : JsonForm) : Option AttributeSpec :=
  match form with
  | .object fields => do
      let named ← namedFields? fields
      let tagForm ← uniqueField? "type" named
      let labelsForm ← uniqueField? "labels" named
      let tag ← tagOfForm? (← tagForm)
      let labels ← optionalLabels? labelsForm
      return ⟨tag, labels⟩
  | .array [tagForm] => do
      let tag ← tagOfForm? tagForm
      return ⟨tag, []⟩
  | .array [tagForm, labelsForm] => do
      let tag ← tagOfForm? tagForm
      let labels ← labelsOfForm? labelsForm
      return ⟨tag, labels⟩
  | _ => none

def specsOfFields? : List (String × JsonForm) → Option (List (String × AttributeSpec))
  | [] => some []
  | (name, form) :: rest =>
      match specOfForm? form, specsOfFields? rest with
      | some spec, some specs => some ((name, spec) :: specs)
      | _, _ => none

def attributesOfForm? : JsonForm → Option Schema
  | .object fields => do
      let named ← namedFields? fields
      let specs ← specsOfFields? named
      return ofList specs
  | _ => none

def ofForm? : JsonForm → Option Schema
  | .object fields => do
      let named ← namedFields? fields
      match ← uniqueField? "attributes" named with
      | none => some empty
      | some attributes => attributesOfForm? attributes
  | .array [] => some empty
  | .array [attributes] => attributesOfForm? attributes
  | _ => none

def ofJson (text : String) : Except SchemaError Schema :=
  match (JsonForm.read? text).bind ofForm? with
  | none => .error (.malformed .json)
  | some schema => schema.validated

end SearchQuery.Schema
