import SearchQuery.Json.Reader
import SearchQuery.Yaml.Token

/-!
# Scalars of YAML text

Plain scalars end where an indicator or a shallower line begins; quoted ones end at their quote.
Line breaks inside a scalar are folded: one becomes a space, and of several all but the first are
kept.
-/

set_option autoImplicit false

namespace SearchQuery.Yaml

/-- The spacing between two words of a scalar: what stands before the first line break, and the line
breaks. -/
structure Gap where
  spaces : List Char
  breaks : List Char
deriving DecidableEq, Repr

namespace Gap

def none : Gap := ⟨[], []⟩

def folded (gap : Gap) : List Char :=
  match gap.breaks with
  | [] => gap.spaces
  | first :: more =>
      if first == '\n' then (if more.isEmpty then [' '] else more) else first :: more

end Gap

def normalBreak (c : Char) : Char :=
  if c.toNat == 0x2028 || c.toNat == 0x2029 then c else '\n'

/-- Reads a gap. In a plain scalar a tab must not stand where indentation belongs, and `tabLimit` is
the column at which indentation ends. -/
def readGap (tabLimit : Nat) : Nat → Cursor → Gap → Option (Gap × Cursor)
  | 0, _, _ => none
  | fuel + 1, cursor, gap =>
    match cursor.rest with
    | [] => some (gap, cursor)
    | c :: _ =>
      if isSpacing c then
        if gap.breaks.isEmpty then
          readGap tabLimit fuel (cursor.skip 1) { gap with spaces := gap.spaces ++ [c] }
        else if c == '\t' && cursor.column < tabLimit then
          none
        else
          readGap tabLimit fuel (cursor.skip 1) gap
      else if isBreak c then
        readGap tabLimit fuel cursor.skipBreak { gap with breaks := gap.breaks ++ [normalBreak c] }
      else
        some (gap, cursor)

def isFlowIndicator (c : Char) : Bool :=
  c == ',' || c == '[' || c == ']' || c == '\x7b' || c == '\x7d'

/-- Reads a word of a plain scalar. Inside brackets a colon must not touch an indicator. -/
def readPlainWord (inFlow : Bool) : List Char → Option (List Char)
  | [] => some []
  | c :: rest =>
      let touches :=
        match rest with
        | [] => false
        | next :: _ => isFlowIndicator next || next == '?'
      if isSpacing c || isBreak c then some []
      else if inFlow && c == ':' && touches then none
      else if c == ':' && atWordEnd rest then some []
      else if inFlow && isFlowIndicator c then some []
      else (readPlainWord inFlow rest).map (c :: ·)

structure PlainScalar where
  text : List Char
  cursor : Cursor
  endsLine : Bool
deriving DecidableEq, Repr

def readPlain (inFlow : Bool) (indent : Nat) : Nat → Cursor → Gap → List Char → Option PlainScalar
  | 0, _, _, _ => none
  | fuel + 1, cursor, gap, text =>
    let stop : PlainScalar := ⟨text, cursor, !gap.breaks.isEmpty⟩
    if cursor.atDocumentBoundary || cursor.rest.head? == some '#' then
      some stop
    else
      match readPlainWord inFlow cursor.rest with
      | none => none
      | some word =>
        if word.isEmpty then
          some stop
        else
          let afterWord := cursor.skip word.length
          let extended := text ++ gap.folded ++ word
          match afterWord.rest with
          | [] => some ⟨extended, afterWord, false⟩
          | c :: _ =>
            if isSpacing c || isBreak c then
              match readGap indent fuel afterWord Gap.none with
              | none => none
              | some (next, afterGap) =>
                if !inFlow && afterGap.column < indent then
                  some ⟨extended, afterGap, !next.breaks.isEmpty⟩
                else
                  readPlain inFlow indent fuel afterGap next extended
            else
              some ⟨extended, afterWord, false⟩

def plainEscape? (c : Char) : Option Nat :=
  match c with
  | '0' => some 0x00
  | 'a' => some 0x07
  | 'b' => some 0x08
  | 't' => some 0x09
  | '\t' => some 0x09
  | 'n' => some 0x0A
  | 'v' => some 0x0B
  | 'f' => some 0x0C
  | 'r' => some 0x0D
  | 'e' => some 0x1B
  | ' ' => some 0x20
  | '"' => some 0x22
  | '/' => some 0x2F
  | '\\' => some 0x5C
  | 'N' => some 0x85
  | '_' => some 0xA0
  | 'L' => some 0x2028
  | 'P' => some 0x2029
  | _ => none

def codeWidth? (c : Char) : Option Nat :=
  if c == 'x' then some 2 else if c == 'u' then some 4 else if c == 'U' then some 8 else none

def readEscape? : List Char → Option (Char × Nat)
  | [] => none
  | c :: rest =>
      match codeWidth? c with
      | none => (plainEscape? c).map fun code => (Char.ofNat code, 1)
      | some width =>
        let row := rest.take width
        if row.length < width then none
        else
          match JsonForm.hexNumber? 0 row with
          | none => none
          | some code =>
            if (0xD800 ≤ code && code ≤ 0xDFFF) || code > 0x10FFFF then none
            else some (Char.ofNat code, 1 + width)

def readQuoted (quote : Char) : Nat → Cursor → List Char → Option (List Char × Cursor)
  | 0, _, _ => none
  | fuel + 1, cursor, text =>
    if cursor.atDocumentBoundary then
      none
    else
      match cursor.rest with
      | [] => none
      | c :: rest =>
        if isSpacing c || isBreak c then
          match readGap 0 (rest.length + 2) cursor Gap.none with
          | none => none
          | some (gap, afterGap) => readQuoted quote fuel afterGap (text ++ gap.folded)
        else if c == quote then
          if quote == '\x27' && rest.head? == some '\x27' then
            readQuoted quote fuel (cursor.skip 2) (text ++ [c])
          else
            some (text, cursor.skip 1)
        else if quote == '"' && c == '\\' then
          match rest with
          | [] => none
          | next :: _ =>
            if isBreak next then
              match readGap 0 (rest.length + 2) (cursor.skip 1).skipBreak ⟨[], ['\n']⟩ with
              | none => none
              | some (gap, afterGap) =>
                readQuoted quote fuel afterGap (text ++ gap.breaks.drop 1)
            else
              match readEscape? rest with
              | none => none
              | some (character, width) =>
                readQuoted quote fuel (cursor.skip (1 + width)) (text ++ [character])
        else
          readQuoted quote fuel (cursor.skip 1) (text ++ [c])

end SearchQuery.Yaml
