import Mathlib.Data.List.Forall2
import SearchQuery.Json.Reader
import SearchQuery.Json.Writer

/-!
# Compact JSON text is read back

Each string is read back from its quoted form, whatever characters it has.  A value is read back
from its compact text if the items and fields inside it are.
-/

set_option autoImplicit false

namespace SearchQuery

namespace JsonForm

/-! ## Strings -/

/-- A text in code units, each character as one. -/
def units (text : String) : List Nat :=
  text.toList.map Char.toNat

/-- A field with its name in code units. -/
def inUnits (field : String × JsonForm) : List Nat × JsonForm :=
  (units field.1, field.2)

section

variable {rest after : List Char} {later : List Nat}

theorem readUnits?_hex {a b c d : Char} {unit : Nat}
    (number : hexNumber? 0 [a, b, c, d] = some unit)
    (restRead : readUnits? rest = some (later, after)) :
    readUnits? ('\\' :: 'u' :: a :: b :: c :: d :: rest) = some (unit :: later, after) := by
  rw [readUnits?, number, restRead]

theorem readUnits?_escape {c : Char} {unit : Nat} (escape : plainEscape? c = some unit)
    (restRead : readUnits? rest = some (later, after)) :
    readUnits? ('\\' :: c :: rest) = some (unit :: later, after) := by
  have notHex : c ≠ 'u' := by
    rintro rfl
    cases escape
  rw [readUnits?, escape, restRead]
  rintro _ _ _ _ _ rfl
  exact absurd rfl notHex

theorem readUnits?_plain {c : Char} (notQuote : c ≠ '"') (notEscape : c ≠ '\\')
    (visible : ¬c.toNat < 0x20) (restRead : readUnits? rest = some (later, after)) :
    readUnits? (c :: rest) = some (c.toNat :: later, after) := by
  have shown : ¬(c == '\\' || decide (c.toNat < 0x20)) = true := by
    simp [notEscape, visible]
  rw [readUnits?, if_neg shown, restRead]
  · exact notQuote
  · intro _ _ _ _ _ isEscape
    exact absurd isEscape notEscape
  · intro _ _ isEscape
    exact absurd isEscape notEscape

end

theorem hexNumber?_control :
    ∀ unit < 0x20,
      hexNumber? 0 ['0', '0', Json.hexDigit (unit / 16), Json.hexDigit (unit % 16)] =
        some unit := by
  decide

/-- A character of a string is read back from its escaped form. -/
theorem readUnits?_escapedCharacter (c : Char) {rest after : List Char} {later : List Nat}
    (restRead : readUnits? rest = some (later, after)) :
    readUnits? (Json.escapedCharacter c ++ rest) = some (c.toNat :: later, after) := by
  fun_cases Json.escapedCharacter c with
  | case1 same
  | case2 _ same
  | case3 _ _ same
  | case4 _ _ _ same
  | case5 _ _ _ _ same
  | case6 _ _ _ _ _ same
  | case7 _ _ _ _ _ _ same =>
      rw [same]
      exact readUnits?_escape rfl restRead
  | case8 _ _ _ _ _ _ _ control =>
      exact readUnits?_hex (hexNumber?_control c.toNat control) restRead
  | case9 notQuote notEscape _ _ _ _ _ visible =>
      exact readUnits?_plain notQuote notEscape visible restRead

theorem readUnits?_escaped (text rest : List Char) :
    readUnits? (text.flatMap Json.escapedCharacter ++ '"' :: rest) =
      some (text.map Char.toNat, rest) := by
  induction text with
  | nil => rfl
  | cons c others inductionHypothesis =>
      rw [List.flatMap_cons, List.append_assoc, List.map_cons]
      exact readUnits?_escapedCharacter c inductionHypothesis

theorem readUnits?_quoted (text : String) (rest : List Char) :
    ∃ inside, Json.quoted text ++ rest = '"' :: inside ∧
      readUnits? inside = some (units text, rest) := by
  refine ⟨text.toList.flatMap Json.escapedCharacter ++ '"' :: rest, ?_, ?_⟩
  · simp [Json.quoted]
  · exact readUnits?_escaped text.toList rest

theorem not_half (c : Char) : isHighHalf c.toNat = false ∧ isLowHalf c.toNat = false := by
  have valid := c.valid
  simp only [UInt32.isValidChar, Nat.isValidChar] at valid
  simp only [isHighHalf, isLowHalf, Char.toNat]
  grind

/-- Characters are no halves of pairs, so each is the text of its own unit. -/
theorem pairedUnits?_map_toNat :
    ∀ text : List Char, pairedUnits? (text.map Char.toNat) = some text := by
  intro text
  induction text with
  | nil => rfl
  | cons c others inductionHypothesis =>
      obtain ⟨notHigh, notLow⟩ := not_half c
      cases others with
      | nil => simp [pairedUnits?, notHigh, notLow]
      | cons next rest =>
          rw [List.map_cons] at inductionHypothesis
          rw [List.map_cons, List.map_cons, pairedUnits?, notHigh, notLow]
          simp [inductionHypothesis]

@[simp]
theorem unitsText?_units (text : String) : unitsText? (units text) = some text := by
  rw [unitsText?, units, pairedUnits?_map_toNat, Option.map_some, String.ofList_toList]

/-! ## Items and fields, one at a time -/

section

variable {fuel : Nat} {text rest after : List Char}

theorem readItems?_last {item : JsonForm}
    (itemRead : readValue? fuel text = some (item, ']' :: rest)) :
    readItems? (fuel + 1) text = some ([item], rest) := by
  rw [readItems?, itemRead]
  rfl

theorem readItems?_next {item : JsonForm} {items : List JsonForm}
    (itemRead : readValue? fuel text = some (item, ',' :: rest))
    (restRead : readItems? fuel rest = some (items, after)) :
    readItems? (fuel + 1) text = some (item :: items, after) := by
  rw [readItems?, itemRead]
  change (readItems? fuel rest).map _ = _
  rw [restRead]
  rfl

theorem readFields?_last {name : String} {value : JsonForm}
    (valueRead : readValue? fuel text = some (value, '\x7d' :: rest)) :
    readFields? (fuel + 1) (Json.quoted name ++ ':' :: text) =
      some ([(units name, value)], rest) := by
  obtain ⟨inside, shape, nameRead⟩ := readUnits?_quoted name (':' :: text)
  rw [shape, readFields?]
  simp [skipSpace, nameRead, valueRead]

theorem readFields?_next {name : String} {value : JsonForm} {fields : List (List Nat × JsonForm)}
    (valueRead : readValue? fuel text = some (value, ',' :: rest))
    (restRead : readFields? fuel rest = some (fields, after)) :
    readFields? (fuel + 1) (Json.quoted name ++ ':' :: text) =
      some ((units name, value) :: fields, after) := by
  obtain ⟨inside, shape, nameRead⟩ := readUnits?_quoted name (':' :: text)
  rw [shape, readFields?]
  simp [skipSpace, nameRead, valueRead, restRead]

/-- No item starts with the bracket that closes an array. -/
theorem readValue?_array {items : List JsonForm}
    (itemsRead : readItems? fuel text = some (items, after)) :
    readValue? (fuel + 1) ('[' :: text) = some (.array items, after) := by
  have notClosed : ∀ inside, skipSpace text ≠ ']' :: inside := by
    intro inside closed
    have noItem : ∀ fuel, readValue? fuel text = none := by
      intro fuel
      cases fuel with
      | zero => rfl
      | succ fuel =>
          rw [readValue?, closed]
          rfl
    cases fuel with
    | zero => cases itemsRead
    | succ fuel =>
        rw [readItems?, noItem] at itemsRead
        cases itemsRead
  rw [readValue?, show skipSpace ('[' :: text) = '[' :: text from rfl]
  -- What follows is matched against the closing bracket first; `notClosed` rules it out.
  simp only [itemsRead, Option.map_some]

theorem readValue?_object {fields : List (List Nat × JsonForm)}
    (fieldsRead : readFields? fuel text = some (fields, after)) :
    readValue? (fuel + 1) ('\x7b' :: text) = some (.object fields, after) := by
  have notClosed : ∀ inside, skipSpace text ≠ '\x7d' :: inside := by
    intro inside closed
    cases fuel with
    | zero => cases fieldsRead
    | succ fuel =>
        rw [readFields?, closed] at fieldsRead
        cases fieldsRead
  rw [readValue?, show skipSpace ('\x7b' :: text) = '\x7b' :: text from rfl]
  simp only [fieldsRead, Option.map_some]

end

/-! ## Values -/

/-- Nothing follows, or a mark of the array or the object around the value.  Where other text
follows, a number may go on. -/
def endsValue : List Char → Bool
  | [] => true
  | c :: _ => c == ',' || c == ']' || c == '\x7d'

/-- The compact text of the value is read as the form, wherever it stands. -/
def Reads (json : Json) (form : JsonForm) : Prop :=
  ∀ fuel rest, json.characters.length ≤ fuel → endsValue rest = true →
    readValue? fuel (json.characters ++ rest) = some (form, rest)

inductive FieldReads : String × Json → String × JsonForm → Prop where
  | named (name : String) {value : Json} {form : JsonForm} (valueReads : Reads value form) :
      FieldReads (name, value) (name, form)

theorem reads_string (text : String) : Reads (.string text) (.string (units text)) := by
  intro fuel rest enough _
  obtain ⟨inside, shape, insideRead⟩ := readUnits?_quoted text rest
  cases fuel with
  | zero => simp [Json.characters, Json.quoted] at enough
  | succ fuel =>
      rw [Json.characters, shape, readValue?]
      simp [skipSpace, insideRead]

theorem reads_null : Reads .null .null := by
  intro fuel rest enough _
  obtain ⟨fuel, rfl⟩ := Nat.exists_eq_add_one_of_ne_zero (Nat.ne_zero_of_lt enough)
  rw [readValue?]
  rfl

theorem reads_bool (truth : Bool) : Reads (.bool truth) (.bool truth) := by
  intro fuel rest enough _
  cases truth
  all_goals
    obtain ⟨fuel, rfl⟩ := Nat.exists_eq_add_one_of_ne_zero (Nat.ne_zero_of_lt enough)
    rw [readValue?]
    rfl

theorem readItems?_itemCharacters :
    ∀ (others : List Json) (forms : List JsonForm) (item : Json) (form : JsonForm),
      Reads item form → List.Forall₂ Reads others forms →
      ∀ fuel rest, (Json.itemCharacters (item :: others)).length < fuel →
        readItems? fuel (Json.itemCharacters (item :: others) ++ ']' :: rest) =
          some (form :: forms, rest) := by
  intro others
  induction others with
  | nil =>
      intro forms item form itemReads othersRead fuel rest enough
      cases othersRead
      obtain ⟨fuel, rfl⟩ := Nat.exists_eq_add_one_of_ne_zero (Nat.ne_zero_of_lt enough)
      rw [Json.itemCharacters] at enough ⊢
      exact readItems?_last (itemReads fuel _ (Nat.le_of_lt_succ enough) rfl)
  | cons next more inductionHypothesis =>
      intro forms item form itemReads othersRead fuel rest enough
      obtain ⟨nextForm, moreForms, nextReads, moreRead, rfl⟩ :=
        List.forall₂_cons_left_iff.mp othersRead
      obtain ⟨fuel, rfl⟩ := Nat.exists_eq_add_one_of_ne_zero (Nat.ne_zero_of_lt enough)
      rw [Json.itemCharacters, List.length_append, List.length_cons] at enough
      rw [Json.itemCharacters, List.append_assoc, List.cons_append]
      exact readItems?_next (itemReads fuel _ (by omega) rfl)
        (inductionHypothesis _ _ _ nextReads moreRead fuel rest (by omega))

theorem readFields?_fieldCharacters :
    ∀ (others : List (String × Json)) (forms : List (String × JsonForm)) (field : String × Json)
      (form : String × JsonForm),
      FieldReads field form → List.Forall₂ FieldReads others forms →
      ∀ fuel rest, (Json.fieldCharacters (field :: others)).length < fuel →
        readFields? fuel (Json.fieldCharacters (field :: others) ++ '\x7d' :: rest) =
          some ((form :: forms).map inUnits, rest) := by
  intro others
  induction others with
  | nil =>
      rintro forms _ _ ⟨name, valueReads⟩ othersRead fuel rest enough
      cases othersRead
      obtain ⟨fuel, rfl⟩ := Nat.exists_eq_add_one_of_ne_zero (Nat.ne_zero_of_lt enough)
      rw [Json.fieldCharacters, List.length_append, List.length_cons] at enough
      rw [Json.fieldCharacters, List.append_assoc, List.cons_append]
      exact readFields?_last (valueReads fuel _ (by omega) rfl)
  | cons next more inductionHypothesis =>
      rintro forms _ _ ⟨name, valueReads⟩ othersRead fuel rest enough
      obtain ⟨nextForm, moreForms, nextReads, moreRead, rfl⟩ :=
        List.forall₂_cons_left_iff.mp othersRead
      obtain ⟨fuel, rfl⟩ := Nat.exists_eq_add_one_of_ne_zero (Nat.ne_zero_of_lt enough)
      simp only [Json.fieldCharacters, List.length_append, List.length_cons] at enough
      simp only [Json.fieldCharacters, List.append_assoc, List.cons_append]
      exact readFields?_next (valueReads fuel _ (by omega) rfl)
        (inductionHypothesis _ _ _ nextReads moreRead fuel rest (by omega))

theorem reads_array {items : List Json} {forms : List JsonForm}
    (allRead : List.Forall₂ Reads items forms) : Reads (.array items) (.array forms) := by
  intro fuel rest enough _
  simp only [Json.characters, List.length_append, List.length_cons] at enough
  obtain ⟨fuel, rfl⟩ := Nat.exists_eq_add_one_of_ne_zero (n := fuel) (by omega)
  rw [Json.characters, List.cons_append, List.cons_append, List.append_assoc]
  cases allRead with
  | nil => rfl
  | @cons item form others forms itemReads othersRead =>
      have itemsRead := readItems?_itemCharacters others forms item form itemReads othersRead fuel
        rest (by omega)
      exact readValue?_array itemsRead

theorem reads_object {fields : List (String × Json)} {forms : List (String × JsonForm)}
    (allRead : List.Forall₂ FieldReads fields forms) :
    Reads (.object fields) (.object (forms.map inUnits)) := by
  intro fuel rest enough _
  simp only [Json.characters, List.length_append, List.length_cons] at enough
  obtain ⟨fuel, rfl⟩ := Nat.exists_eq_add_one_of_ne_zero (n := fuel) (by omega)
  rw [Json.characters, List.cons_append, List.cons_append, List.append_assoc]
  cases allRead with
  | nil => rfl
  | @cons field form others forms fieldReads othersRead =>
      have fieldsRead := readFields?_fieldCharacters others forms field form fieldReads othersRead
        fuel rest (by omega)
      exact readValue?_object fieldsRead

theorem read?_compact {json : Json} {form : JsonForm} (reads : Reads json form) :
    read? json.compact = some form := by
  have wholeRead := reads (2 * json.characters.length + 2) [] (by omega) rfl
  rw [List.append_nil] at wholeRead
  simp only [read?, Json.compact, String.toList_ofList, wholeRead]
  rfl

end JsonForm

end SearchQuery
