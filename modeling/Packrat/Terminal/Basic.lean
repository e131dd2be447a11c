import Packrat.Terminal.Numeral
import Packrat.Terminal.Options
import Packrat.Terminal.Quoted
import Packrat.Terminal.Word
import Packrat.Text.Excerpt

/-!
# Terminals

A terminal looks at the text itself: strings, keywords, words, options, quoted strings and numerals.
`Terminal.scan` gives the characters that a terminal takes from the head of a text, and its token.
-/

set_option autoImplicit false
set_option relaxedAutoImplicit false

namespace Packrat

/-- An expression that is matched against the text itself. -/
inductive Terminal where
  /-- A string; the token is the string as given here, in whatever case it was found. -/
  | literal (content : String) (caseless : Bool)
  /-- A string that is not part of a longer identifier. -/
  | keyword (content : String) (caseless : Bool) (identifierChars : CharSet)
  /-- A word. -/
  | word (form : Word)
  /-- One of several strings, in the order in which they are tried. -/
  | oneOf (options : Options) (caseless : Bool)
  /-- A quoted string. -/
  | quoted (form : Quoted)
  /-- A number. -/
  | numeral (kind : Numeral)
deriving DecidableEq, Repr

namespace Terminal

def stringToken (chars : List Char) : Token := .str (String.ofList chars)

/-- What the first option takes that stands at the head of a text, and its token. -/
def firstOption (options : Options) (caseless : Bool) (chars : List Char) :
    Option (List Char × Token) :=
  options.list.findSome? fun option ↦
    (stringPrefix caseless option chars).map (·, stringToken option)

/-- The characters that a terminal takes from the head of a text, and its token. `before` is the
character just before the text. -/
def scan (terminal : Terminal) (before : Option Char) (chars : List Char) :
    Scan (List Char × Token) :=
  match terminal with
  | .literal content caseless =>
    .ofOption ((stringPrefix caseless content.toList chars).map (·, .str content))
  | .keyword content caseless identifierChars =>
    .ofOption ((stringPrefix caseless content.toList chars).bind fun matched ↦
      if before.any identifierChars.contains ||
          (chars.drop matched.length).head?.any identifierChars.contains then none
      else some (matched, .str content))
  | .word form =>
    .ofOption ((form.scan before chars).map fun matched ↦ (matched, stringToken matched))
  | .oneOf options caseless => .ofOption (firstOption options caseless chars)
  | .quoted form =>
    (form.scan chars).map fun found ↦ (found.1, stringToken found.2)
  | .numeral kind => .ofOption (kind.scan chars)

/-- A list of descriptions with a bar between them. -/
def barred (descriptions : List String) : String := " | ".intercalate descriptions

def describe : Terminal → String
  | .literal content caseless => (if caseless then "CaselessLiteral " else "") ++
      quoteString content
  | .keyword content caseless _ =>
    (if caseless then "CaselessKeyword " else "Keyword ") ++ quoteString content
  | .word form => form.describe
  | .oneOf options _ =>
    "\x7b" ++ barred (options.list.map fun option ↦ String.ofList (quote option)) ++ "\x7d"
  | .quoted form => form.describe
  | .numeral kind => kind.describe

end Terminal

end Packrat
