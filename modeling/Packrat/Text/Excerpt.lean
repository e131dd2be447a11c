import Packrat.Text.Category

/-!
# Quoted excerpts

Messages quote pieces of text between double quotes. The quote itself, the backslash and the usual
control characters are escaped by a backslash; every other character that cannot be shown by itself
is written by its code.
-/

set_option autoImplicit false
set_option relaxedAutoImplicit false

namespace Packrat

def quoteChar (c : Char) : List Char :=
  if c = '\x00' then ['\\', '0']
  else if c = '\t' then ['\\', 't']
  else if c = '\r' then ['\\', 'r']
  else if c = '\n' then ['\\', 'n']
  else if c = '\x22' then ['\\', '\x22']
  else if c = '\\' then ['\\', '\\']
  else if isShown c then [c]
  else ['\\', 'u', '\x7b'] ++ Nat.toDigits 16 c.toNat ++ ['\x7d']

/-- A text between double quotes, with everything that cannot be shown as it is escaped. -/
def quote (chars : List Char) : List Char := '\x22' :: chars.flatMap quoteChar ++ ['\x22']

def quoteString (s : String) : String := String.ofList (quote s.toList)

end Packrat
