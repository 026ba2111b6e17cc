import SearchQuery.Json.Basic
import SearchQuery.Text.Basic
import SearchQuery.Worklist

/-!
# Values in documents

A document is a JSON value. An attribute name is a path: its dotted parts name fields, one inside
the other. Arrays met on the way stand for all of their items, and `null` stands for nothing.
-/

set_option autoImplicit false

namespace SearchQuery.Document

mutual

def fieldValues (name : String) : Json → List Json
  | .object fields => (Json.field? name fields).toList
  | .array items => fieldValuesOfItems name items
  | _ => []

def fieldValuesOfItems (name : String) : List Json → List Json
  | [] => []
  | item :: rest => fieldValues name item ++ fieldValuesOfItems name rest

end

def pathValues (path : List String) (document : Json) : List Json :=
  path.foldl (fun values name => values.flatMap (fieldValues name)) [document]

theorem sizeOf_pos (value : Json) : 0 < sizeOf value := by
  cases value <;> simp +arith

theorem load_items_lt (items : List Json) : Worklist.load items < sizeOf (Json.array items) := by
  have smaller := Worklist.load_lt_sizeOf items
  rw [Json.array.sizeOf_spec]
  omega

/-- `null` is dropped, and an array leads on to its items. -/
def openValue : (value : Json) → Worklist.Visit Json value
  | .null => ⟨[], [], sizeOf_pos .null⟩
  | .array items => ⟨items, [], load_items_lt items⟩
  | other => ⟨[], [other], sizeOf_pos other⟩

def path (name : String) : List String :=
  (Text.dottedParts name.toList).map String.ofList

def presentValues (document : Json) (name : String) : List Json :=
  Worklist.run openValue (pathValues (path name) document) []

end SearchQuery.Document
