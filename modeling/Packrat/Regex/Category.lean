import Packrat.Regex.CharClass
import Packrat.Regex.PropertyTable
import Packrat.Text.Category

/-!
# Classes by category

Patterns go by edition 16 of the character database, one edition before the one that decides how
texts are shown and compared. `CharClass.ofCategories` gives the characters of some general
categories in that edition: the characters that came later count as codes without a character, and
the one letter that changed its category still has the old one. The classes for words, digits and
blanks are made from categories.
-/

set_option autoImplicit false
set_option relaxedAutoImplicit false

namespace Packrat

/-- The characters that came with edition 17. -/
def laterRanges : Array (Nat × Nat) :=
  #[(0x88F, 0x88F), (0xC5C, 0xC5C), (0xCDC, 0xCDC), (0x1ACF, 0x1ADD), (0x1AE0, 0x1AEB),
    (0x20C1, 0x20C1), (0x2B96, 0x2B96), (0xA7CE, 0xA7CF), (0xA7D2, 0xA7D2), (0xA7D4, 0xA7D4),
    (0xA7F1, 0xA7F1), (0xFBC3, 0xFBD2), (0xFD90, 0xFD91), (0xFDC8, 0xFDCE), (0x10940, 0x10959),
    (0x10EC5, 0x10EC7), (0x10ED0, 0x10ED8), (0x10EFA, 0x10EFB), (0x11B60, 0x11B67),
    (0x11DB0, 0x11DDB), (0x11DE0, 0x11DE9), (0x16EA0, 0x16EB8), (0x16EBB, 0x16ED3),
    (0x16FF2, 0x16FF6), (0x187F8, 0x187FF), (0x18D09, 0x18D1E), (0x18D80, 0x18DF2),
    (0x1CCFA, 0x1CCFC), (0x1CEBA, 0x1CED0), (0x1CEE0, 0x1CEF0), (0x1E6C0, 0x1E6DE),
    (0x1E6E0, 0x1E6F5), (0x1E6FE, 0x1E6FF), (0x1F6D8, 0x1F6D8), (0x1F777, 0x1F77A),
    (0x1F8D0, 0x1F8D8), (0x1FA54, 0x1FA57), (0x1FA8A, 0x1FA8A), (0x1FA8E, 0x1FA8E),
    (0x1FAC8, 0x1FAC8), (0x1FACD, 0x1FACD), (0x1FAEA, 0x1FAEA), (0x1FAEF, 0x1FAEF),
    (0x1FBFA, 0x1FBFA), (0x2B73A, 0x2B73F), (0x2CEA2, 0x2CEAD), (0x323B0, 0x33479)]

namespace CharClass

def ofTable (table : Array (Nat × Nat)) : CharClass := ofRanges table.toList

/-- The characters that patterns do not know. -/
def later : CharClass := ofTable laterRanges

/-- The ranges of the runs whose category is accepted. -/
def runRanges (accepted : GeneralCategory → Bool) :
    List (Nat × GeneralCategory) → List (Nat × Nat)
  | [] => []
  | [(first, found)] => if accepted found then [(first, lastCode)] else []
  | (first, found) :: (next, following) :: rest =>
    if accepted found then (first, next - 1) :: runRanges accepted ((next, following) :: rest)
    else runRanges accepted ((next, following) :: rest)

/-- The letter that became caseless with the edition that patterns do not know. -/
def formerLowercase : CharClass := single '\u0295'

/-- The characters of the accepted categories. -/
def ofCategories (accepted : GeneralCategory → Bool) : CharClass :=
  let found := ofRanges (runRanges accepted categoryRuns.toList)
  let known := if accepted .cn then found.union later else found.difference later
  if accepted .ll then known.union formerLowercase
  else if accepted .lo then known.difference formerLowercase
  else known

/-- The alphabetic characters: letters, numbers that are letters, and some others. -/
def alphabetic : CharClass :=
  (ofCategories fun found ↦ found ∈ [.lu, .ll, .lt, .lm, .lo, .nl]).union
    (ofTable otherAlphabeticRanges)

def digit : CharClass := ofCategories (· = .nd)

/-- The blank characters: separators, and the controls that move on in a line or to another one. -/
def blank : CharClass :=
  (ofCategories fun found ↦ found ∈ [.zs, .zl, .zp]).union (ofRanges [(9, 13), (0x85, 0x85)])

/-- The word characters: alphabetic characters, marks, decimal digits, connecting punctuation and
the controls of joining. -/
def word : CharClass :=
  (alphabetic.union (ofCategories fun found ↦ found ∈ [.mn, .mc, .me, .nd, .pc])).union
    (ofTable joinControlRanges)

end CharClass

/-- Whether a character can be part of a word in ASCII. -/
def isAsciiWordChar (c : Char) : Bool := c.isAlphanum || c == '_'

/-- Whether a character can be part of a word: a letter, a mark, a digit or a connector. -/
def isWordChar (c : Char) : Bool :=
  if c.toNat < 128 then isAsciiWordChar c else CharClass.word.contains c

end Packrat
