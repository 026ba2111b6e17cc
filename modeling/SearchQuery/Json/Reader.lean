import SearchQuery.Json.Numeral

/-!
# Reading JSON text

Text is read in two steps. The first finds the form of the text: strings as code units, numbers as
numerals, objects with all the fields that are written. The second gives the form a value: code
units must pair up, numbers must lie in range, of fields with one name the last one counts, and
nesting is limited.
-/

set_option autoImplicit false

namespace SearchQuery

inductive JsonForm where
  | null
  | bool (value : Bool)
  | number (numeral : Numeral)
  /-- The code units of a string; halves of pairs stand for themselves. -/
  | string (units : List Nat)
  | array (items : List JsonForm)
  | object (fields : List (List Nat × JsonForm))

namespace JsonForm

def skipSpace (text : List Char) : List Char :=
  text.dropWhile fun c => c == ' ' || c == '\n' || c == '\t' || c == '\r'

def hexValue? (c : Char) : Option Nat :=
  if c.isDigit then some (c.toNat - '0'.toNat)
  else if 'a' ≤ c && c ≤ 'f' then some (c.toNat - 'a'.toNat + 10)
  else if 'A' ≤ c && c ≤ 'F' then some (c.toNat - 'A'.toNat + 10)
  else none

def hexNumber? (start : Nat) : List Char → Option Nat
  | [] => some start
  | c :: rest =>
      match hexValue? c with
      | none => none
      | some value => hexNumber? (16 * start + value) rest

def plainEscape? (c : Char) : Option Nat :=
  if c == '"' || c == '\\' || c == '/' then some c.toNat
  else if c == 'b' then some 0x08
  else if c == 'f' then some 0x0C
  else if c == 'n' then some 0x0A
  else if c == 'r' then some 0x0D
  else if c == 't' then some 0x09
  else none

def readUnits? : List Char → Option (List Nat × List Char)
  | [] => none
  | '"' :: rest => some ([], rest)
  | '\\' :: 'u' :: a :: b :: c :: d :: rest =>
      match hexNumber? 0 [a, b, c, d], readUnits? rest with
      | some unit, some (units, after) => some (unit :: units, after)
      | _, _ => none
  | '\\' :: c :: rest =>
      match plainEscape? c, readUnits? rest with
      | some unit, some (units, after) => some (unit :: units, after)
      | _, _ => none
  | c :: rest =>
      if c == '\\' || c.toNat < 0x20 then none
      else
        match readUnits? rest with
        | none => none
        | some (units, after) => some (c.toNat :: units, after)

def isHighHalf (unit : Nat) : Bool :=
  0xD800 ≤ unit && unit ≤ 0xDBFF

def isLowHalf (unit : Nat) : Bool :=
  0xDC00 ≤ unit && unit ≤ 0xDFFF

/-- The characters that code units spell; there are none when a half stands alone. -/
def pairedUnits? : List Nat → Option (List Char)
  | [] => some []
  | high :: low :: rest =>
      if isHighHalf high && isLowHalf low then
        (pairedUnits? rest).map
          (Char.ofNat (0x10000 + (high - 0xD800) * 0x400 + (low - 0xDC00)) :: ·)
      else if isHighHalf high || isLowHalf high then
        none
      else
        (pairedUnits? (low :: rest)).map (Char.ofNat high :: ·)
  | [unit] => if isHighHalf unit || isLowHalf unit then none else some [Char.ofNat unit]

def unitsText? (units : List Nat) : Option String :=
  (pairedUnits? units).map String.ofList

def readWord? (word : String) (form : JsonForm) (text : List Char) :
    Option (JsonForm × List Char) :=
  if word.toList.isPrefixOf text then some (form, text.drop word.length) else none

mutual

/-- Reads a value; the fuel bounds the number of values, items and fields in a row. -/
def readValue? : Nat → List Char → Option (JsonForm × List Char)
  | 0, _ => none
  | fuel + 1, text =>
    match skipSpace text with
    | [] => none
    | '"' :: rest => (readUnits? rest).map fun (units, after) => (.string units, after)
    | '[' :: rest =>
      match skipSpace rest with
      | ']' :: after => some (.array [], after)
      | _ => (readItems? fuel rest).map fun (items, after) => (.array items, after)
    | '\x7b' :: rest =>
      match skipSpace rest with
      | '\x7d' :: after => some (.object [], after)
      | _ => (readFields? fuel rest).map fun (fields, after) => (.object fields, after)
    | 'n' :: rest => readWord? "ull" .null rest
    | 't' :: rest => readWord? "rue" (.bool true) rest
    | 'f' :: rest => readWord? "alse" (.bool false) rest
    | c :: rest => (Numeral.read? (c :: rest)).map fun (numeral, after) => (.number numeral, after)

def readItems? : Nat → List Char → Option (List JsonForm × List Char)
  | 0, _ => none
  | fuel + 1, text =>
    match readValue? fuel text with
    | none => none
    | some (item, afterItem) =>
      match skipSpace afterItem with
      | ']' :: after => some ([item], after)
      | ',' :: rest => (readItems? fuel rest).map fun (items, after) => (item :: items, after)
      | _ => none

def readFields? : Nat → List Char → Option (List (List Nat × JsonForm) × List Char)
  | 0, _ => none
  | fuel + 1, text =>
    match skipSpace text with
    | '"' :: nameText =>
      match readUnits? nameText with
      | none => none
      | some (name, afterName) =>
        match skipSpace afterName with
        | ':' :: valueText =>
          match readValue? fuel valueText with
          | none => none
          | some (value, afterValue) =>
            match skipSpace afterValue with
            | '\x7d' :: after => some ([(name, value)], after)
            | ',' :: rest =>
              (readFields? fuel rest).map fun (fields, after) => ((name, value) :: fields, after)
            | _ => none
        | _ => none
    | _ => none

end

def read? (text : String) : Option JsonForm :=
  let input := text.toList
  match readValue? (2 * input.length + 2) input with
  | none => none
  | some (form, rest) => if (skipSpace rest).isEmpty then some form else none

def depthLimit : Nat := 127

mutual

/-- The value of a form, with room for the given number of levels. -/
def value? (room : Nat) : JsonForm → Option Json
  | .null => some .null
  | .bool value => some (.bool value)
  | .number numeral => numeral.value?.map .number
  | .string units => (unitsText? units).map .string
  | .array items =>
      if room = 0 then none else (items? (room - 1) items).map .array
  | .object fields =>
      if room = 0 then none else (fields? (room - 1) [] fields).map .object

def items? (room : Nat) : List JsonForm → Option (List Json)
  | [] => some []
  | item :: rest =>
      match item.value? room with
      | none => none
      | some value => (items? room rest).map (value :: ·)

def fields? (room : Nat) (before : List (String × Json)) :
    List (List Nat × JsonForm) → Option (List (String × Json))
  | [] => some before
  | (units, form) :: rest =>
      match unitsText? units, form.value? room with
      | some name, some value => fields? room (Json.setField before name value) rest
      | _, _ => none

end

end JsonForm

def Json.read? (text : String) : Option Json :=
  match JsonForm.read? text with
  | none => none
  | some form => form.value? JsonForm.depthLimit

end SearchQuery
