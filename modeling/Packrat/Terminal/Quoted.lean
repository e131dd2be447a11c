import Packrat.Terminal.Scan
import Packrat.Text.Basic

/-!
# Quoted strings

A quoted string stands between an opening and a closing quote. Inside, a sequence may stand for a
literal closing quote and a character may escape the one after it; a newline ends the attempt unless
the string may span lines.

The scanner does not look at every character. Anything with a meaning starts with one of a few
bytes, so it runs ahead to the first such byte (`Quoted.firstStop`) and only then decides what
stands there, in the order: escaped quote, closing quote, escape character, newline, plain
character. This is one round (`Quoted.round`), and rounds follow one another up to the closing
quote. An empty escaped quote stands everywhere and takes nothing, so with one the rounds need not
come to an end.
-/

set_option autoImplicit false
set_option relaxedAutoImplicit false

namespace Packrat

/-- What a quoted string looks like. -/
structure Quoted where
  /-- The opening quote. -/
  opening : List Char
  /-- The closing quote. -/
  closing : List Char
  /-- The character that escapes the next one. -/
  escape : Option Char := none
  /-- The sequence that stands for a literal closing quote. -/
  escapedQuote : Option (List Char) := none
  /-- Whether newlines are allowed inside. -/
  multiline : Bool := false
  /-- Whether the result is the text as it stands, quotes and escapes included. -/
  keepQuotes : Bool := false
deriving DecidableEq, Repr

namespace Quoted

/-- Strings between two occurrences of one quote. -/
def ofQuote (quote : List Char) : Quoted := { opening := quote, closing := quote }

/-- The character that an escaped character stands for. -/
def unescape (c : Char) : Char :=
  if c = 't' then '\t'
  else if c = 'n' then '\n'
  else if c = 'r' then '\r'
  else if c = 'f' then '\x0c'
  else c

/-- The first byte of a run of characters in UTF-8. -/
def leadByte? (chars : List Char) : Option UInt8 :=
  chars.head?.bind fun c ↦ (String.utf8EncodeChar c).head?

/-- The bytes with which anything of meaning inside the quotes starts. -/
def stops (quoted : Quoted) : List UInt8 :=
  (leadByte? quoted.closing).toList ++
    (quoted.escapedQuote.bind leadByte?).toList ++
    (quoted.escape.bind fun c ↦ leadByte? [c]).toList ++
    (if quoted.multiline then [] else (leadByte? ['\n']).toList)

/-- The number of bytes before the first byte of a text that is one of the given bytes. -/
def firstStop (stops : List UInt8) : List Char → Option Nat
  | [] => none
  | c :: rest =>
    match (String.utf8EncodeChar c).findIdx? (stops.contains ·) with
    | some index => some index
    | none => (firstStop stops rest).map (c.utf8Size + ·)

/-- Whether the escaped quote stands at the head of a text. -/
def atEscapedQuote (quoted : Quoted) (chars : List Char) : Bool :=
  quoted.escapedQuote.any (·.isPrefixOf chars)

/-- What follows the escaped quote at the head of a text. -/
def afterEscapedQuote (quoted : Quoted) (chars : List Char) : List Char :=
  chars.drop (quoted.escapedQuote.getD []).length

/-- How a round of the scanner ends. -/
inductive Round where
  /-- With the content since the round before and what follows the closing quote, or without a
  string. -/
  | done (found : Option (List Char × List Char))
  /-- With a part of the content, and what is left to look at. -/
  | more (content rest : List Char)

/-- One round of the scanner, in a text that starts inside the quotes: it runs ahead to the next
stop and takes what stands there. -/
def round (quoted : Quoted) (chars : List Char) : Round :=
  match firstStop quoted.stops chars with
  | none => .done none
  | some distance =>
    let plain := takeBytes distance chars
    match dropBytes distance chars with
    | [] => .done none
    | c :: rest =>
      if quoted.atEscapedQuote (c :: rest) then
        .more (plain ++ quoted.closing) (quoted.afterEscapedQuote (c :: rest))
      else if quoted.closing.isPrefixOf (c :: rest) then
        .done (some (plain, (c :: rest).drop quoted.closing.length))
      else if quoted.escape = some c then
        match rest with
        | [] => .done none
        | next :: others => .more (plain ++ [unescape next]) others
      else if c = '\n' ∧ ¬ quoted.multiline then .done none
      else .more (plain ++ [c]) rest

/-- Puts characters in front of the content found further on. -/
def precede (chars : List Char) (found : List Char × List Char) : List Char × List Char :=
  (chars ++ found.1, found.2)

/-- The content up to the closing quote and what follows that quote, in a text that starts inside
the quotes. A round that leaves as much as there was is followed by the same round again, for
ever. -/
def scanBody (quoted : Quoted) (chars : List Char) : Scan (List Char × List Char) :=
  match quoted.round chars with
  | .done found => .ofOption found
  | .more content rest =>
    if rest.length < chars.length then (quoted.scanBody rest).map (precede content) else .endless
termination_by chars.length

/-- The characters of the quoted string at the head of a text, and the string that it yields. -/
def scan (quoted : Quoted) (chars : List Char) : Scan (List Char × List Char) :=
  if quoted.opening.isEmpty || quoted.closing.isEmpty ||
    !quoted.opening.isPrefixOf chars then .missing
  else
    (quoted.scanBody (chars.drop quoted.opening.length)).map fun found ↦
      let matched := chars.take (chars.length - found.2.length)
      (matched, if quoted.keepQuotes then matched else found.1)

/-- A short description of the quoted string. -/
def describe (quoted : Quoted) : String :=
  "quoted string, starting with " ++ String.ofList quoted.opening ++ " ending with " ++
    String.ofList quoted.closing

end Quoted

end Packrat
