/-!
# Regular expressions

What a regular expression matches is a matter of an engine. Of an engine only this much is known
here: it reads a pattern or refuses it, and a pattern that was read finds a match in a text, which
is a part of the text, or none. Every regular expression carries the engine that reads its pattern.
-/

set_option autoImplicit false
set_option relaxedAutoImplicit false

namespace Packrat

/-- A match in a text: the characters passed over before it, and those that it consists of. -/
structure RegexMatch where
  skipped : List Char
  matched : List Char
deriving DecidableEq, Repr

/-- A pattern that was read, known by what it finds. -/
structure CompiledRegex where
  /-- The first match in a text. -/
  find? : List Char → Option RegexMatch
  /-- A match is a part of the text. -/
  isPrefix_of_find? : ∀ {chars : List Char} {found : RegexMatch},
    find? chars = some found → found.skipped ++ found.matched <+: chars

/-- Whether a match is found in the empty text. -/
def CompiledRegex.matchesEmpty (regex : CompiledRegex) : Bool := (regex.find? []).isSome

/-- Reads patterns. -/
structure RegexEngine where
  /-- The regular expression of a pattern, if it is one. -/
  compile? : List Char → Option CompiledRegex

end Packrat
