import Packrat.Text.Category
import Packrat.Text.LowercaseTable

/-!
# Lower case

The lower case of a character is a run of characters: one character for all but the capital i with a
dot. The lower case of a text maps its characters one by one, except that a capital sigma at the end
of a word becomes the final sigma: a cased character comes before it and none after it, when the
characters that case ignores are passed over.
-/

set_option autoImplicit false
set_option relaxedAutoImplicit false

namespace Packrat

def lowerChar (c : Char) : List Char :=
  if c.toNat < 128 then [c.toLower]
  else if c = '\u0130' then ['i', '\u0307']
  else [(shiftBy lowercaseRuns c).getD c]

/-- Whether the first character that case does not ignore is a cased one. -/
def startsCased (chars : List Char) : Bool :=
  match chars.dropWhile isCaseIgnorable with
  | [] => false
  | c :: _ => isCased c

/-- The lower case of the characters after `passed`, which holds the earlier ones in reverse. -/
def lowerFrom (passed : List Char) : List Char → List Char
  | [] => []
  | c :: rest =>
    let image :=
      if c = '\u03A3' ∧ startsCased passed ∧ ¬ startsCased rest then ['\u03C2'] else lowerChar c
    image ++ lowerFrom (c :: passed) rest

def lowercase (chars : List Char) : List Char := lowerFrom [] chars

end Packrat
