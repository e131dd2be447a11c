import Packrat.Decimal.Shortest

/-!
# Reading numbers

A decimal is read as the nearest float, and of two equally near ones as the one with an even last
bit. Whole numbers are read into 64 bits, and a text that is no such number is refused for the first
reason met from left to right.
-/

set_option autoImplicit false
set_option relaxedAutoImplicit false

namespace Packrat

def isDigit (c : Char) : Bool := '0' ≤ c && c ≤ '9'

def digitValue (c : Char) : Nat := c.toNat - 48

/-- The whole number written by a run of digits. -/
def digitsValue (digits : List Char) : Nat :=
  digits.foldl (fun total c ↦ 10 * total + digitValue c) 0

/-! ### Floats -/

/-- A quotient rounded to the nearest whole number, a half to the even one. -/
def roundHalfEven (numerator denominator : Nat) : Nat :=
  let whole := numerator / denominator
  let twice := 2 * (numerator % denominator)
  if twice > denominator || (twice == denominator && whole % 2 == 1) then whole + 1 else whole

/-- The bits of infinity. -/
def infinityBits : Nat := (exponentCount - 1) * fractionCount

/-- The bits of the float nearest to a positive fraction. The last bit of the mantissa stands for
`2 ^ power`; a mantissa that rounds up to the next power of two carries into the exponent. -/
def fractionBits (numerator denominator : Nat) : Nat :=
  let scaled (power : Int) : Nat × Nat :=
    (numerator * Nat.pow 2 (-power).toNat, denominator * Nat.pow 2 power.toNat)
  let guess : Int := max ((numerator.log2 : Int) - denominator.log2 - 53) (-1074)
  let (above, below) := scaled guess
  let power := if 2 * fractionCount ≤ above / below then guess + 1 else guess
  let (above, below) := scaled power
  min ((power + 1074).toNat * fractionCount + roundHalfEven above below) infinityBits

/-- The float nearest to `digits * 10 ^ exponent`. Numbers far outside the range of floats are
decided by their size alone. -/
def nearestFloat (digits : Nat) (exponent : Int) : Float :=
  let place := ((Nat.toDigits 10 digits).length : Int) + exponent
  let bits :=
    if digits = 0 ∨ place < -400 then 0
    else if 400 < place then infinityBits
    else fractionBits (digits * Nat.pow 10 exponent.toNat) (Nat.pow 10 (-exponent).toNat)
  Float.ofBits bits.toUInt64

/-- The float with the sign of a written number. -/
def signed (negative : Bool) (x : Float) : Float := if negative then -x else x

/-- A sign at the head of a text: whether it is a minus, and what follows. -/
def splitSign : List Char → Bool × List Char
  | '-' :: rest => (true, rest)
  | '+' :: rest => (false, rest)
  | chars => (false, chars)

/-- Reads the exponent of a decimal, `e` and a signed whole number; an absent one is zero. -/
def readExponent : List Char → Option Int
  | [] => some 0
  | c :: rest =>
    let (negative, digits) := splitSign rest
    if (c = 'e' ∨ c = 'E') ∧ digits ≠ [] ∧ digits.all isDigit then
      some (if negative then -(digitsValue digits : Int) else digitsValue digits)
    else none

/-- Reads an unsigned decimal with an optional fraction and an optional exponent. -/
def readDecimal (chars : List Char) : Option Float :=
  let whole := chars.takeWhile isDigit
  let afterWhole := chars.dropWhile isDigit
  let (fraction, rest) :=
    match afterWhole with
    | '.' :: more => (more.takeWhile isDigit, more.dropWhile isDigit)
    | _ => ([], afterWhole)
  if whole.isEmpty && fraction.isEmpty then none
  else
    (readExponent rest).map fun exponent ↦
      nearestFloat (digitsValue (whole ++ fraction)) (exponent - fraction.length)

/-- Reads a float: a signed decimal, or a signed name of infinity or of no number. -/
def readFloat (chars : List Char) : Option Float :=
  let (negative, rest) := splitSign chars
  let name := String.ofList (rest.map Char.toLower)
  if name = "inf" ∨ name = "infinity" then some (signed negative (1.0 / 0.0))
  else if name = "nan" then some (0.0 / 0.0)
  else (readDecimal rest).map (signed negative)

/-! ### Whole numbers -/

/-- Why a text is no 64-bit whole number. -/
inductive IntegerError where
  /-- There is nothing to read. -/
  | empty
  /-- A character is no digit, or there are no digits. -/
  | invalidDigit
  /-- The number is above the greatest one. -/
  | tooLarge
  /-- The number is below the least one. -/
  | tooSmall
deriving DecidableEq, Repr

def IntegerError.message : IntegerError → String
  | .empty => "cannot parse integer from empty string"
  | .invalidDigit => "invalid digit found in string"
  | .tooLarge => "number too large to fit in target type"
  | .tooSmall => "number too small to fit in target type"

/-- Whether a whole number fits into 64 bits. -/
def fitsInt64 (n : Int) : Bool := Int64.minValue.toInt ≤ n && n ≤ Int64.maxValue.toInt

/-- Reads digits after `total`, from left to right; the number may not leave the range on the
way. -/
def readDigits (negative : Bool) (total : Int) : List Char → Except IntegerError Int
  | [] => .ok total
  | c :: rest =>
    if isDigit c then
      let next := if negative then 10 * total - digitValue c else 10 * total + digitValue c
      if fitsInt64 next then readDigits negative next rest
      else .error (if negative then .tooSmall else .tooLarge)
    else .error .invalidDigit

/-- Reads a 64-bit whole number with an optional sign. -/
def readInteger (chars : List Char) : Except IntegerError Int64 :=
  match chars, splitSign chars with
  | [], _ => .error .empty
  | _, (_, []) => .error .invalidDigit
  | _, (negative, digits) => (readDigits negative 0 digits).map Int64.ofInt

end Packrat
