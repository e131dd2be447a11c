import Packrat.Text.CharSet

/-!
# Words

A word is one character from an initial set followed by characters from a body set, with bounds on
its length. A standalone word is refused inside a longer run of word characters.
-/

set_option autoImplicit false
set_option relaxedAutoImplicit false

namespace Packrat

/-- What a word is made of. -/
structure Word where
  /-- The characters that can come first. -/
  initial : CharSet
  /-- The characters that can follow. -/
  body : CharSet
  /-- The least number of characters. -/
  least : Nat := 1
  /-- The greatest number of characters; matching stops there. -/
  most : Option Nat := none
  /-- Whether word characters just before or after the match refuse it. -/
  standalone : Bool := false
deriving DecidableEq, Repr

namespace Word

/-- A word whose characters all come from one set. -/
def ofSet (set : CharSet) : Word := { initial := set, body := set }

/-- The characters of the word at the head of a text; `before` is the character before it. -/
def scan (word : Word) (before : Option Char) : List Char → Option (List Char)
  | [] => none
  | first :: rest =>
    let inBody (c : Char) : Bool := word.body.contains c
    let inWord (c : Char) : Bool := word.body.contains c || word.initial.contains c
    let run := rest.takeWhile inBody
    let matched :=
      match word.most with
      | none => first :: run
      | some most => first :: run.take (most - 1)
    if !word.initial.contains first then none
    else if word.standalone && before.any inWord then none
    else if matched.length < word.least then none
    else if word.standalone && ((first :: rest).drop matched.length).head?.any inBody then none
    else some matched

def describe (word : Word) : String :=
  if word.initial = word.body then "W:(" ++ word.initial.describe ++ ")"
  else "W:(" ++ word.initial.describe ++ ", " ++ word.body.describe ++ ")"

end Word

end Packrat
