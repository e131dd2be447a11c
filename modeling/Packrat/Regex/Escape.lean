import Packrat.Decimal.Reading
import Packrat.Regex.Property
import Packrat.Regex.Switches

/-!
# Escapes of patterns

After a backslash a pattern holds a character by its code, a class by its letter or its name, a
condition, or a character that would otherwise have a meaning.
-/

set_option autoImplicit false
set_option relaxedAutoImplicit false

namespace Packrat

namespace Regex

/-- What an escape stands for. -/
inductive Escape where
  /-- A character; `coded` tells that it is written as the code of a byte. -/
  | char (c : Char) (coded : Bool)
  /-- A class of characters. -/
  | charClass (accepted : CharClass)
  /-- A condition. -/
  | look (condition : Look)

/-! ### Codes of characters -/

def hexValue? (c : Char) : Option Nat :=
  if isDigit c then some (digitValue c)
  else if 'a' ≤ c ∧ c ≤ 'f' then some (c.toNat - 87)
  else if 'A' ≤ c ∧ c ≤ 'F' then some (c.toNat - 55)
  else none

/-- The character whose code is written by hexadecimal digits. -/
def hexChar? (digits : List Char) : Option Char :=
  if digits = [] then none
  else
    (digits.mapM hexValue?).bind fun values ↦
      let code := values.foldl (fun total value ↦ 16 * total + value) 0
      if code.isValidChar then some (Char.ofNat code) else none

def readFixed? (switches : Switches) : Nat → List Char → Option (List Char × List Char)
  | 0, chars => some ([], chars)
  | count + 1, chars =>
    match switches.skip chars with
    | [] => none
    | c :: rest => (readFixed? switches count rest).map fun found ↦ (c :: found.1, found.2)

/-- Reads up to a closing brace, which comes after fewer characters than told. -/
def readBraced? (switches : Switches) : Nat → List Char → Option (List Char × List Char)
  | 0, _ => none
  | steps + 1, chars =>
    match switches.skip chars with
    | [] => none
    | '\x7d' :: rest => some ([], rest)
    | c :: rest => (readBraced? switches steps rest).map fun found ↦ (c :: found.1, found.2)

/-- Reads the code of a character: digits in braces, or a fixed number of digits. -/
def readHex? (switches : Switches) (count : Nat) (chars : List Char) :
    Option (Escape × List Char) := do
  match switches.skip chars with
  | '\x7b' :: rest =>
    let (digits, rest) ← readBraced? switches (rest.length + 1) rest
    pure (.char (← hexChar? digits) false, rest)
  | chars =>
    let (digits, rest) ← readFixed? switches count chars
    pure (.char (← hexChar? digits) (count == 2), rest)

/-! ### Classes -/

/-- A class by its letter: the class itself, or the characters outside it. -/
def letterClass? (switches : Switches) (negated : Bool) (accepted : CharClass) :
    Option Escape :=
  (switches.negate? negated
    (if switches.wide then accepted else accepted.intersection .ascii)).map .charClass

/-- Splits the text between braces into the name and the value of a property. An exclamation mark
before the equals sign negates. -/
def splitProperty (name : List Char) : Option (List Char × List Char × Bool) :=
  match cut ['!', '='] name with
  | some (property, value) => some (property, value, true)
  | none =>
    match (cut [':'] name).or (cut ['='] name) with
    | some (property, value) => some (property, value, false)
    | none => none
where
  /-- The texts before and after the first place at which a mark stands. -/
  cut (mark : List Char) : List Char → Option (List Char × List Char)
    | [] => none
    | c :: rest =>
      if mark.isPrefixOf (c :: rest) then some ([], (c :: rest).drop mark.length)
      else (cut mark rest).map fun found ↦ (c :: found.1, found.2)

/-- Reads the name of a class, of one letter or in braces. -/
def readProperty? (switches : Switches) (negated : Bool) (chars : List Char) :
    Option (Escape × List Char) := do
  let (found, negated, rest) ←
    match switches.skip chars with
    | [] => none
    | '\x7b' :: rest => do
      let (name, rest) ← readBraced? switches (rest.length + 1) rest
      match splitProperty name with
      | some (property, value, differs) =>
        pure (← CharClass.valued? property value, negated != differs, rest)
      | none => pure (← CharClass.named? name, negated, rest)
    | c :: rest => do pure (← CharClass.named? [c], negated, rest)
  if switches.wide then
    pure (.charClass (← switches.negate? negated (switches.fold found)), rest)
  else none

/-! ### Conditions -/

/-- The condition on words with the given name. -/
def wordLook? (ascii : Bool) (name : List Char) : Option Look :=
  match String.ofList name with
  | "start" => some (.wordStart ascii)
  | "end" => some (.wordEnd ascii)
  | "start-half" => some (.wordStartHalf ascii)
  | "end-half" => some (.wordEndHalf ascii)
  | _ => none

/-- Reads a condition on words that may have a name in braces. Braces that do not start with a
letter or a dash hold the bounds of a repetition. -/
def readWordLook? (switches : Switches) (chars : List Char) : Option (Escape × List Char) :=
  let plain : Option (Escape × List Char) := some (.look (.wordBoundary !switches.wide), chars)
  match chars with
  | '\x7b' :: rest =>
    match switches.skip rest with
    | [] => none
    | c :: _ =>
      if c.isAlpha || c == '-' then do
        let (name, rest) ← readBraced? switches (rest.length + 1) rest
        pure (.look (← wordLook? (!switches.wide) name), rest)
      else plain
  | _ => plain

/-! ### Escapes -/

/-- Reads what follows a backslash. Letters and digits without a meaning are refused. -/
def readEscape? (switches : Switches) : List Char → Option (Escape × List Char)
  | [] => none
  | c :: rest =>
    let ascii := !switches.wide
    match c with
    | 'd' => (letterClass? switches false .digit).map (·, rest)
    | 'D' => (letterClass? switches true .digit).map (·, rest)
    | 'w' => (letterClass? switches false .word).map (·, rest)
    | 'W' => (letterClass? switches true .word).map (·, rest)
    | 's' => (letterClass? switches false .blank).map (·, rest)
    | 'S' => (letterClass? switches true .blank).map (·, rest)
    | 'p' => readProperty? switches false rest
    | 'P' => readProperty? switches true rest
    | 'a' => some (.char '\x07' false, rest)
    | 'f' => some (.char '\x0c' false, rest)
    | 't' => some (.char '\t' false, rest)
    | 'n' => some (.char '\n' false, rest)
    | 'r' => some (.char '\r' false, rest)
    | 'v' => some (.char '\x0b' false, rest)
    | 'x' => readHex? switches 2 rest
    | 'u' => readHex? switches 4 rest
    | 'U' => readHex? switches 8 rest
    | 'A' => some (.look .textStart, rest)
    | 'z' => some (.look .textEnd, rest)
    | 'b' => readWordLook? switches rest
    | 'B' => some (.look (.noWordBoundary ascii), rest)
    | '<' => some (.look (.wordStart ascii), rest)
    | '>' => some (.look (.wordEnd ascii), rest)
    | _ => if c.toNat < 128 ∧ ¬ c.isAlphanum then some (.char c false, rest) else none

end Regex

end Packrat
