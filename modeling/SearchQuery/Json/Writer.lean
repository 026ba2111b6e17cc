import SearchQuery.Json.Basic

/-!
# Writing JSON text

Two forms of the same value: a compact one without any spaces, and an indented one with every item
and every field on a line of its own.
-/

set_option autoImplicit false

namespace SearchQuery.Json

def hexDigit (value : Nat) : Char :=
  if value < 10 then Char.ofNat ('0'.toNat + value) else Char.ofNat ('a'.toNat + (value - 10))

/-- A character inside a JSON string: quotes, backslashes and control characters are escaped. -/
def escapedCharacter (c : Char) : List Char :=
  if c = '"' then ['\\', '"']
  else if c = '\\' then ['\\', '\\']
  else if c = '\n' then ['\\', 'n']
  else if c = '\r' then ['\\', 'r']
  else if c = '\t' then ['\\', 't']
  else if c.toNat = 0x08 then ['\\', 'b']
  else if c.toNat = 0x0C then ['\\', 'f']
  else if c.toNat < 0x20 then
    ['\\', 'u', '0', '0', hexDigit (c.toNat / 16), hexDigit (c.toNat % 16)]
  else [c]

def quoted (text : String) : List Char :=
  '"' :: text.toList.flatMap escapedCharacter ++ ['"']

mutual

def characters : Json → List Char
  | .null => "null".toList
  | .bool value => (if value then "true" else "false").toList
  | .number value => value.text.toList
  | .string text => quoted text
  | .array items => '[' :: itemCharacters items ++ [']']
  | .object fields => '\x7b' :: fieldCharacters fields ++ ['\x7d']

def itemCharacters : List Json → List Char
  | [] => []
  | [item] => item.characters
  | item :: next :: rest => item.characters ++ ',' :: itemCharacters (next :: rest)

def fieldCharacters : List (String × Json) → List Char
  | [] => []
  | [(name, value)] => quoted name ++ ':' :: value.characters
  | (name, value) :: next :: rest =>
      quoted name ++ ':' :: value.characters ++ ',' :: fieldCharacters (next :: rest)

end

def newLine (depth : Nat) : List Char :=
  '\n' :: List.replicate (2 * depth) ' '

mutual

def indentedCharacters (depth : Nat) : Json → List Char
  | .null => "null".toList
  | .bool value => (if value then "true" else "false").toList
  | .number value => value.text.toList
  | .string text => quoted text
  | .array [] => ['[', ']']
  | .array (item :: rest) =>
      '[' :: indentedItems (depth + 1) (item :: rest) ++ newLine depth ++ [']']
  | .object [] => ['\x7b', '\x7d']
  | .object (field :: rest) =>
      '\x7b' :: indentedFields (depth + 1) (field :: rest) ++ newLine depth ++ ['\x7d']

def indentedItems (depth : Nat) : List Json → List Char
  | [] => []
  | [item] => newLine depth ++ item.indentedCharacters depth
  | item :: next :: rest =>
      newLine depth ++ item.indentedCharacters depth ++ ',' :: indentedItems depth (next :: rest)

def indentedFields (depth : Nat) : List (String × Json) → List Char
  | [] => []
  | [(name, value)] => newLine depth ++ quoted name ++ ':' :: ' ' :: value.indentedCharacters depth
  | (name, value) :: next :: rest =>
      newLine depth ++ quoted name ++ ':' :: ' ' :: value.indentedCharacters depth ++
        ',' :: indentedFields depth (next :: rest)

end

def compact (value : Json) : String :=
  String.ofList value.characters

def indented (value : Json) : String :=
  String.ofList (value.indentedCharacters 0)

end SearchQuery.Json
