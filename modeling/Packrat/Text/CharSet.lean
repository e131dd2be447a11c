import Packrat.Text.Basic

/-!
# Sets of characters

A `CharSet` is what words, keyword boundaries and skipped blanks are made of. Its ASCII members are
one bit each; its other members are a list of inclusive ranges, kept in the order in which they were
added. `CharSet.span` measures the longest run of members at the head of a text, and
`CharSet.describe` writes a set the way people write character classes.
-/

set_option autoImplicit false
set_option relaxedAutoImplicit false

namespace Packrat

/-- A set of characters. Two sets are equal when they hold the same ASCII characters and the same
ranges in the same order. -/
structure CharSet where
  /-- One bit for each ASCII character. -/
  ascii : BitVec 128
  /-- The inclusive ranges of characters beyond ASCII. -/
  ranges : List (Char × Char)
deriving DecidableEq, Repr

namespace CharSet

def empty : CharSet := ⟨0, []⟩

instance : Inhabited CharSet := ⟨empty⟩

/-- Sets one bit after the other, from a code on, while the codes belong to a range and there are
bits left. Gives the code at which it stops, too. -/
def mark (last : Nat) : Nat → Nat → BitVec 128 → BitVec 128 × Nat
  | 0, code, bits => (bits, code)
  | left + 1, code, bits =>
    if code ≤ last then mark last left (code + 1) (bits ||| BitVec.twoPow 128 code)
      else (bits, code)

/-- Adds an inclusive range; an inverted range adds nothing. The part beyond ASCII is kept as one
range of its own. -/
def insertRange (set : CharSet) (first last : Char) : CharSet :=
  if first.toNat > last.toNat then set
  else
    let (ascii, code) := mark last.toNat (128 - first.toNat) first.toNat set.ascii
    let beyond := max code 128
    { ascii := ascii
      ranges :=
        if 128 ≤ last.toNat then
          set.ranges ++ [(if beyond.isValidChar then Char.ofNat beyond else first, last)]
        else set.ranges }

def insert (set : CharSet) (c : Char) : CharSet := set.insertRange c c

/-- The set of all characters of the given inclusive ranges. -/
def ofRanges (ranges : List (Char × Char)) : CharSet :=
  ranges.foldl (fun set range ↦ set.insertRange range.1 range.2) empty

def ofChars (chars : List Char) : CharSet := chars.foldl insert empty

def ofString (s : String) : CharSet := ofChars s.toList

def union (set other : CharSet) : CharSet :=
  ⟨set.ascii ||| other.ascii, set.ranges ++ other.ranges⟩

/-- The members of the first set that are no ASCII members of the second; ranges beyond ASCII are
kept as they are. -/
def without (set other : CharSet) : CharSet := ⟨set.ascii &&& ~~~other.ascii, set.ranges⟩

def contains (set : CharSet) (c : Char) : Bool :=
  if c.toNat < 128 then set.ascii.getLsbD c.toNat
  else set.ranges.any fun range ↦ range.1.toNat ≤ c.toNat && c.toNat ≤ range.2.toNat

def isEmpty (set : CharSet) : Bool := set.ascii == 0 && set.ranges.isEmpty

/-- The length in bytes of the run of members at the head of a text. -/
def span (set : CharSet) (chars : List Char) : Nat := byteLength (chars.takeWhile set.contains)

/-! ### Named sets -/

def digits : CharSet := ofRanges [('0', '9')]

def letters : CharSet := ofRanges [('a', 'z'), ('A', 'Z')]

def alphanumerics : CharSet := letters.union digits

def hexDigits : CharSet := ofRanges [('0', '9'), ('a', 'f'), ('A', 'F')]

def visible : CharSet := ofRanges [('!', '~')]

/-- Space, tab, carriage return and newline. -/
def blanks : CharSet := ofString " \t\r\n"

/-- The characters that continue an identifier: letters, digits, underscore and dollar sign. -/
def identifierChars : CharSet := (alphanumerics.insert '_').insert '$'

/-! ### Description -/

/-- The ASCII codes in the order of a description: upper case, lower case, digits, all others. -/
def describedCodes : List Nat :=
  List.range' 65 26 ++ List.range' 97 26 ++ List.range' 48 10 ++
    (List.range 128).filter fun code ↦ !(Char.ofNat code).isAlphanum

/-- Groups codes into runs of consecutive ones, each given by its first and last code. -/
def runs : List Nat → List (Nat × Nat)
  | [] => []
  | code :: rest =>
    match runs rest with
    | (first, last) :: more =>
      if first = code + 1 then (code, last) :: more else (code, code) :: (first, last) :: more
    | [] => [(code, code)]

/-- A member of a description; the characters with a meaning of their own are escaped. -/
def describeMember (c : Char) : List Char :=
  if c = '\t' then ['\\', 't']
  else if c = '\n' then ['\\', 'n']
  else if c = '\r' then ['\\', 'r']
  else if c = '-' ∨ c = ']' ∨ c = '\\' then ['\\', c]
  else [c]

/-- A run of ASCII codes: one member, two members, or two members around a dash. -/
def describeRun (run : Nat × Nat) : List Char :=
  let first := describeMember (Char.ofNat run.1)
  let last := describeMember (Char.ofNat run.2)
  if run.2 = run.1 then first
  else if run.2 = run.1 + 1 then first ++ last
  else first ++ '-' :: last

/-- A range beyond ASCII: one member, or two around a dash. -/
def describeRange (range : Char × Char) : List Char :=
  if range.1 = range.2 then [range.1] else [range.1, '-', range.2]

/-- A compact description of the set in the manner of a character class, such as `A-Za-z`. -/
def describe (set : CharSet) : String :=
  String.ofList
    ((runs (describedCodes.filter fun code ↦ set.ascii.getLsbD code)).flatMap describeRun ++
      set.ranges.flatMap describeRange)

end CharSet

end Packrat
