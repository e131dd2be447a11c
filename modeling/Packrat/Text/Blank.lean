/-!
# Blank characters, words and lines

The blank characters are those with the property of white space. A text is trimmed of blanks at both
ends, split into words at blanks, and split into lines at newlines.
-/

set_option autoImplicit false
set_option relaxedAutoImplicit false

namespace Packrat

def isBlank (c : Char) : Bool :=
  let code := c.toNat
  (9 ≤ code && code ≤ 13) || code == 0x20 || code == 0x85 || code == 0xA0 || code == 0x1680 ||
    (0x2000 ≤ code && code ≤ 0x200A) || code == 0x2028 || code == 0x2029 || code == 0x202F ||
    code == 0x205F || code == 0x3000

/-- The characters of a text without the blanks at both ends. -/
def trimBlanks (chars : List Char) : List Char :=
  ((chars.dropWhile isBlank).reverse.dropWhile isBlank).reverse

/-- Puts a character in front of the first piece of a split text. -/
def consToFirst (c : Char) : List (List Char) → List (List Char)
  | [] => [[c]]
  | piece :: pieces => (c :: piece) :: pieces

/-- The pieces between the characters that satisfy a test; a text without such characters is one
piece. -/
def splitAt (separates : Char → Bool) : List Char → List (List Char)
  | [] => [[]]
  | c :: rest =>
    if separates c then [] :: splitAt separates rest
    else consToFirst c (splitAt separates rest)

/-- The words of a text: its nonempty pieces between blanks. -/
def words (chars : List Char) : List (List Char) :=
  (splitAt isBlank chars).filter fun piece ↦ !piece.isEmpty

/-- A line without a carriage return at its end. -/
def dropCarriageReturn (line : List Char) : List Char :=
  if line.getLast? = some '\r' then line.dropLast else line

/-- The lines of a text: its pieces between newlines, each without a carriage return at its end. An
empty piece after the last newline is no line; a last piece without a newline keeps its carriage
return. -/
def lines : List Char → List (List Char)
  | [] => []
  | chars =>
    let pieces := splitAt (· == '\n') chars
    let last := pieces.getLast?.getD []
    pieces.dropLast.map dropCarriageReturn ++ (if last.isEmpty then [] else [last])

end Packrat
