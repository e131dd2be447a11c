/-!
# General categories

The Unicode character database gives every character one general category. The categories are known
by their abbreviations: the first letter names the kind (letter, mark, number, punctuation, symbol,
separator, other), the second one the sort within it.
-/

set_option autoImplicit false
set_option relaxedAutoImplicit false

namespace Packrat

/-- The general category of a character. -/
inductive GeneralCategory where
  /-- Upper case letters. -/
  | lu
  /-- Lower case letters. -/
  | ll
  /-- Letters in title case. -/
  | lt
  /-- Modifier letters. -/
  | lm
  /-- Other letters. -/
  | lo
  /-- Marks that take no room. -/
  | mn
  /-- Marks that take room. -/
  | mc
  /-- Enclosing marks. -/
  | me
  /-- Decimal digits. -/
  | nd
  /-- Numbers that are letters. -/
  | nl
  /-- Other numbers. -/
  | no
  /-- Connecting punctuation. -/
  | pc
  /-- Dashes. -/
  | pd
  /-- Opening punctuation. -/
  | ps
  /-- Closing punctuation. -/
  | pe
  /-- Initial quotation marks. -/
  | pi
  /-- Final quotation marks. -/
  | pf
  /-- Other punctuation. -/
  | po
  /-- Mathematical symbols. -/
  | sm
  /-- Currency symbols. -/
  | sc
  /-- Modifier symbols. -/
  | sk
  /-- Other symbols. -/
  | so
  /-- Spaces. -/
  | zs
  /-- The line separator. -/
  | zl
  /-- The paragraph separator. -/
  | zp
  /-- Control characters. -/
  | cc
  /-- Format characters. -/
  | cf
  /-- Surrogate codes. -/
  | cs
  /-- Characters for private use. -/
  | co
  /-- Codes without a character. -/
  | cn
deriving DecidableEq, Repr

end Packrat
