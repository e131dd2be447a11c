import Packrat.Decimal.Reading
import Packrat.Results.Token

/-!
# Numerals

Whole numbers are runs of decimal digits, with a sign if the kind allows one; they have to fit into
64 bits. Numbers in general may have a fraction and an exponent. A number with either is a float,
and so is a whole number that does not fit.
-/

set_option autoImplicit false
set_option relaxedAutoImplicit false

namespace Packrat

/-- Which numbers are accepted. -/
inductive Numeral where
  /-- Digits. -/
  | natural
  /-- Digits after an optional sign. -/
  | integer
  /-- A number with an optional sign, fraction and exponent. -/
  | real
deriving DecidableEq, Repr

namespace Numeral

def describe : Numeral → String
  | .natural => "integer"
  | .integer => "signed integer"
  | .real => "number"

/-- The sign at the head of a text, if the kind of number has one. -/
def sign (kind : Numeral) : List Char → List Char
  | c :: _ => if kind ≠ .natural ∧ (c = '+' ∨ c = '-') then [c] else []
  | [] => []

/-- The fraction at the head of a text: a point and digits. A lone point is a fraction only after
digits. -/
def fraction (afterDigits : Bool) : List Char → List Char
  | '.' :: rest =>
    let digits := rest.takeWhile isDigit
    if afterDigits || !digits.isEmpty then '.' :: digits else []
  | _ => []

/-- The exponent at the head of a text: its mark, an optional sign, and digits. -/
def exponent : List Char → List Char
  | c :: rest =>
    if c = 'e' ∨ c = 'E' then
      let mark := sign .integer rest
      let digits := (rest.drop mark.length).takeWhile isDigit
      if digits.isEmpty then [] else c :: mark ++ digits
    else []
  | [] => []

def exponentValue (chars : List Char) : Int := (readExponent chars).getD 0

/-- The token of a whole number: a 64-bit number if it fits. -/
def wholeToken? (negative : Bool) (digits : List Char) : Option Token :=
  let value : Int := if negative then -(digitsValue digits : Int) else digitsValue digits
  if fitsInt64 value then some (.int (Int64.ofInt value)) else none

/-- The number at the head of a text: its characters and its token. -/
def scan (kind : Numeral) (chars : List Char) : Option (List Char × Token) :=
  let sign := kind.sign chars
  let negative := sign = ['-']
  let unsigned := chars.drop sign.length
  let digits := unsigned.takeWhile isDigit
  let afterDigits := unsigned.dropWhile isDigit
  let fraction := if kind = .real then fraction (!digits.isEmpty) afterDigits else []
  if digits.isEmpty && fraction.isEmpty then none
  else
    let exponent := if kind = .real then exponent (afterDigits.drop fraction.length) else []
    let matched := sign ++ digits ++ fraction ++ exponent
    let float : Token :=
      .float (signed negative (nearestFloat (digitsValue (digits ++ fraction.drop 1))
        (exponentValue exponent - (fraction.length - 1 : Nat))))
    if fraction.isEmpty && exponent.isEmpty then
      match wholeToken? negative digits with
      | some token => some (matched, token)
      | none => if kind = .real then some (matched, float) else none
    else some (matched, float)

end Numeral

end Packrat
