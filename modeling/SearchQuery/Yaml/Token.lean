/-!
# Tokens of YAML text

The units of a YAML text. Structure that the text expresses by indentation is spelled out: a block
starts with a token of its own and ends with `blockEnd`.
-/

set_option autoImplicit false

namespace SearchQuery.Yaml

inductive Token where
  | documentStart
  | documentEnd
  | blockSequenceStart
  | blockMappingStart
  | blockEnd
  | flowSequenceStart
  | flowSequenceEnd
  | flowMappingStart
  | flowMappingEnd
  | blockEntry
  | flowEntry
  | key
  | value
  | scalar (text : String) (plain : Bool)
deriving DecidableEq, Repr

def isBreak (c : Char) : Bool :=
  c == '\n' || c == '\r' || c.toNat == 0x85 || c.toNat == 0x2028 || c.toNat == 0x2029

def isSpacing (c : Char) : Bool :=
  c == ' ' || c == '\t'

def atWordEnd : List Char → Bool
  | [] => true
  | c :: _ => isSpacing c || isBreak c

def isPrintable (c : Char) : Bool :=
  let code := c.toNat
  code == 0x09 || code == 0x0A || code == 0x0D || (0x20 ≤ code && code ≤ 0x7E) || code == 0x85 ||
    (0xA0 ≤ code && code ≤ 0xD7FF) || (0xE000 ≤ code && code ≤ 0xFFFD) || 0x10000 ≤ code

def isOrderMark (c : Char) : Bool :=
  c.toNat == 0xFEFF

def byteLength : List Char → Nat
  | [] => 0
  | c :: rest => c.utf8Size + byteLength rest

/-- What is left of a text, with the place it starts at: how many bytes stand before it, its line,
and its column in characters. -/
structure Cursor where
  rest : List Char
  index : Nat
  line : Nat
  column : Nat
deriving DecidableEq, Repr

namespace Cursor

def skip (cursor : Cursor) (count : Nat) : Cursor :=
  { cursor with
    rest := cursor.rest.drop count
    index := cursor.index + byteLength (cursor.rest.take count)
    column := cursor.column + count }

/-- Passes over a line break; a carriage return and the line feed after it are one. -/
def skipBreak (cursor : Cursor) : Cursor :=
  let width := if ['\r', '\n'].isPrefixOf cursor.rest then 2 else 1
  ⟨cursor.rest.drop width, cursor.index + byteLength (cursor.rest.take width), cursor.line + 1, 0⟩

def atDocumentMark (cursor : Cursor) (mark : String) : Bool :=
  cursor.column == 0 && mark.toList.isPrefixOf cursor.rest && atWordEnd (cursor.rest.drop 3)

def atDocumentBoundary (cursor : Cursor) : Bool :=
  cursor.atDocumentMark "---" || cursor.atDocumentMark "..."

end Cursor

end SearchQuery.Yaml
