/-!
# Blanks, letters and dots

A blank is a character with the Unicode property `White_Space`. Blanks separate the words of a
query, end attribute names, and are stripped from both ends of operator codes in request
parameters. Keywords, reserved parameter names and truth values are compared without regard to the
case of the letters `A` to `Z`; letters outside that range are compared as they stand. An attribute
name is a path of parts with dots between them, and parts may be empty.
-/

set_option autoImplicit false

namespace SearchQuery.Text

/-- The characters with the Unicode property `White_Space`. The zero-width spaces and the
information separators are not among them. -/
def isBlank (c : Char) : Bool :=
  let code := c.toNat
  (0x09 ≤ code && code ≤ 0x0D) || code == 0x20 || code == 0x85 || code == 0xA0 ||
    code == 0x1680 || (0x2000 ≤ code && code ≤ 0x200A) || code == 0x2028 || code == 0x2029 ||
    code == 0x202F || code == 0x205F || code == 0x3000

def trimBlanks (text : List Char) : List Char :=
  ((text.dropWhile isBlank).reverse.dropWhile isBlank).reverse

def isAllBlank (text : String) : Bool :=
  text.toList.all isBlank

def sameLetters (left right : String) : Bool :=
  left.toList.map Char.toLower == right.toList.map Char.toLower

/-- The parts of a text between the dots; there is always one. -/
def dottedParts : List Char → List (List Char)
  | [] => [[]]
  | c :: rest =>
      if c = '.' then
        [] :: dottedParts rest
      else
        match dottedParts rest with
        | [] => [[c]]
        | first :: others => (c :: first) :: others

end SearchQuery.Text
