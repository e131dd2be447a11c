import Packrat.Decimal.Shortest

/-!
# Values

A `Value` is a plain snapshot of results: scalars, lists, and dictionaries whose entries are sorted
by key. `Value.render` writes it on one line, strings in quotes, lists in brackets and dictionaries
in braces. A string is quoted by apostrophes with escapes inside, or, when it holds an apostrophe
but no double quote, by double quotes with its content as it is.
-/

set_option autoImplicit false
set_option relaxedAutoImplicit false

namespace Packrat

/-- A plain nested value. -/
inductive Value where
  /-- A string. -/
  | str (content : String)
  /-- A 64-bit whole number. -/
  | int (number : Int64)
  /-- A floating-point number. -/
  | float (number : Float)
  /-- A truth value. -/
  | bool (truth : Bool)
  /-- A list of values. -/
  | list (items : List Value)
  /-- A dictionary, its entries sorted by key. -/
  | dict (entries : List (String × Value))

instance : Inhabited Value := ⟨.list []⟩

/-- The decimal digits of a whole number, after a minus if it is negative. -/
def integerText (n : Int) : List Char :=
  if n < 0 then '-' :: Nat.toDigits 10 n.natAbs else Nat.toDigits 10 n.natAbs

/-- A character of a string between apostrophes. -/
def escapeChar (c : Char) : List Char :=
  if c = '\x27' then ['\\', '\x27']
  else if c = '\\' then ['\\', '\\']
  else if c = '\n' then ['\\', 'n']
  else if c = '\t' then ['\\', 't']
  else [c]

def stringText (content : List Char) : List Char :=
  if content.contains '\x27' && !content.contains '\x22' then '\x22' :: content ++ ['\x22']
  else '\x27' :: content.flatMap escapeChar ++ ['\x27']

/-- A truth value as it is written in results. -/
def truthText (truth : Bool) : List Char :=
  if truth then ['T', 'r', 'u', 'e'] else ['F', 'a', 'l', 's', 'e']

namespace Value

/-- Puts an entry into sorted entries; an entry with the same key is replaced. -/
def insertEntry (key : String) (value : Value) : List (String × Value) → List (String × Value)
  | [] => [(key, value)]
  | (other, held) :: rest =>
    if key = other then (key, value) :: rest
    else if key < other then (key, value) :: (other, held) :: rest
    else (other, held) :: insertEntry key value rest

/-- The dictionary of some entries; of two entries with one key the later counts. -/
def dictOf (entries : List (String × Value)) : List (String × Value) :=
  entries.foldl (fun sorted entry ↦ insertEntry entry.1 entry.2 sorted) []

def str? : Value → Option String
  | .str content => some content
  | _ => none

def int? : Value → Option Int64
  | .int number => some number
  | _ => none

def list? : Value → Option (List Value)
  | .list items => some items
  | _ => none

mutual

def chars : Value → List Char
  | .str content => stringText content.toList
  | .int number => integerText number.toInt
  | .float number => floatText number
  | .bool truth => truthText truth
  | .list items => '[' :: itemsChars items ++ [']']
  | .dict entries => '\x7b' :: entriesChars entries ++ ['\x7d']

/-- The characters of list items, separated by commas. -/
def itemsChars : List Value → List Char
  | [] => []
  | item :: rest => item.chars ++ moreItemsChars rest

/-- The characters of the items after the first, each after a comma. -/
def moreItemsChars : List Value → List Char
  | [] => []
  | item :: rest => ',' :: ' ' :: (item.chars ++ moreItemsChars rest)

/-- The characters of dictionary entries, separated by commas. -/
def entriesChars : List (String × Value) → List Char
  | [] => []
  | (key, value) :: rest =>
    stringText key.toList ++ ':' :: ' ' :: (value.chars ++ moreEntriesChars rest)

/-- The characters of the entries after the first, each after a comma. -/
def moreEntriesChars : List (String × Value) → List Char
  | [] => []
  | (key, value) :: rest =>
    ',' :: ' ' :: (stringText key.toList ++ ':' :: ' ' :: (value.chars ++ moreEntriesChars rest))

end

def render (value : Value) : String := String.ofList value.chars

end Value

end Packrat
