import Mathlib.Algebra.Group.Int.Defs
import Mathlib.Data.List.TakeWhile
import Packrat.Proofs.Text.Places

/-!
# Whole numbers

A whole number in a text is a sign, if there may be one, and digits after which there is no further
one (`Numeral.Whole`). Its value may be any integer, a token holds one of 64 bits with a sign.

A kind of number without fractions finds something just where a whole number stands whose value a
token can hold, and then all of its digits (`Numeral.scan_eq_some_iff`). So what was written as the
decimal text of a 64-bit number is read back (`Numeral.scan_integerText`). The kind that may have a
fraction finds the same where neither a point nor an exponent follows
(`Numeral.scan_real_of_whole`).
-/

set_option autoImplicit false
set_option relaxedAutoImplicit false

namespace Packrat

/-! ### Digits -/

theorem isDigit_of_mem_toDigits {value : Nat} {c : Char} (hc : c ∈ Nat.toDigits 10 value) :
    isDigit c = true := by
  have hdigit := Nat.isDigit_of_mem_toDigits (by decide) (by decide) hc
  simpa [isDigit, Char.isDigit, Char.le_def] using hdigit

/-- The values that fit are those of 64 bits with a sign. -/
theorem fitsInt64_iff {value : Int} :
    fitsInt64 value = true ↔ -2 ^ 63 ≤ value ∧ value < 2 ^ 63 := by
  have hmost : Int64.maxValue.toInt = 2 ^ 63 - 1 := by decide
  have hleast : Int64.minValue.toInt = -2 ^ 63 := by decide
  rw [fitsInt64, Bool.and_eq_true, decide_eq_true_eq, decide_eq_true_eq, hmost,
    hleast, Int.le_sub_one_iff]

/-- A 64-bit number is the one that is made of its value, and this fits. -/
theorem toInt_eq_iff {number : Int64} {value : Int} :
    number.toInt = value ↔ fitsInt64 value = true ∧ number = Int64.ofInt value := by
  constructor
  · rintro rfl
    exact ⟨fitsInt64_iff.mpr ⟨Int64.le_toInt number, Int64.toInt_lt number⟩,
      (Int64.ofInt_toInt number).symm⟩
  · rintro ⟨hfits, rfl⟩
    obtain ⟨hleast, hmost⟩ := fitsInt64_iff.mp hfits
    exact Int64.toInt_ofInt_of_le hleast hmost

namespace Numeral

/-! ### Whole numbers in a text -/

/-- A whole number that certain characters follow: a sign, if the kind of number has one and it is
written, and digits after which there is no further one. -/
structure Whole (kind : Numeral) (sign digits more : List Char) : Prop where
  /-- There is a sign only if the kind of number has one. -/
  sign : sign = [] ∨ kind ≠ .natural ∧ (sign = ['+'] ∨ sign = ['-'])
  /-- There are digits. -/
  nonempty : digits ≠ []
  /-- They are decimal digits. -/
  digits : ∀ c ∈ digits, isDigit c = true
  /-- There are no more of them. -/
  ends : ∀ c ∈ more.head?, ¬ isDigit c = true

/-- The value of a whole number. -/
def wholeValue (sign digits : List Char) : Int :=
  if sign = ['-'] then -(Nat.ofDigitChars 10 digits 0 : Int) else Nat.ofDigitChars 10 digits 0

/-- Whether an exponent stands at the head of a text: its mark, an optional sign and a digit. -/
def StartsExponent (chars : List Char) : Prop :=
  ∃ mark sign digit rest, chars = mark :: (sign ++ digit :: rest) ∧ (mark = 'e' ∨ mark = 'E') ∧
    (sign = [] ∨ sign = ['+'] ∨ sign = ['-']) ∧ isDigit digit = true

variable {kind : Numeral} {sign digits more chars : List Char} {found : List Char × Token}

/-- The sign that is written is the one that is found. -/
theorem Whole.sign_eq (hwhole : kind.Whole sign digits more) :
    kind.sign (sign ++ (digits ++ more)) = sign := by
  rcases hwhole.sign with rfl | ⟨hkind, rfl | rfl⟩
  · obtain ⟨c, others, rfl⟩ := List.exists_cons_of_ne_nil hwhole.nonempty
    have hc := hwhole.digits c List.mem_cons_self
    have hplus : c ≠ '+' := fun hsame ↦ by rw [hsame] at hc; exact absurd hc (by decide)
    have hminus : c ≠ '-' := fun hsame ↦ by rw [hsame] at hc; exact absurd hc (by decide)
    simp [Numeral.sign, hplus, hminus]
  · simp [Numeral.sign, hkind]
  · simp [Numeral.sign, hkind]

/-- A sign is found only if the kind of number has one. -/
theorem sign_eq_nil_or (kind : Numeral) (chars : List Char) :
    kind.sign chars = [] ∨ kind ≠ .natural ∧
      (kind.sign chars = ['+'] ∨ kind.sign chars = ['-']) := by
  cases chars with
  | nil => exact Or.inl rfl
  | cons c rest =>
    rw [Numeral.sign]
    split_ifs with hsign
    · obtain ⟨hkind, rfl | rfl⟩ := hsign
      · exact Or.inr ⟨hkind, Or.inl rfl⟩
      · exact Or.inr ⟨hkind, Or.inr rfl⟩
    · exact Or.inl rfl

/-- A text with digits after the sign that is found starts with a whole number. -/
theorem exists_whole (hdigits : (chars.drop (kind.sign chars).length).takeWhile isDigit ≠ []) :
    ∃ sign digits more, chars = sign ++ (digits ++ more) ∧ kind.Whole sign digits more := by
  obtain ⟨unsigned, hchars⟩ := kind.sign_isPrefix chars
  have hunsigned : chars.drop (kind.sign chars).length = unsigned :=
    (congrArg (List.drop (kind.sign chars).length) hchars).symm.trans List.drop_left
  rw [hunsigned] at hdigits
  refine ⟨kind.sign chars, unsigned.takeWhile isDigit, unsigned.dropWhile isDigit, ?_,
    kind.sign_eq_nil_or chars, hdigits, fun c hc ↦ List.mem_takeWhile_imp hc, fun c hc ↦ ?_⟩
  · rw [List.takeWhile_append_dropWhile, hchars]
  · have hstop := List.head?_dropWhile_not isDigit unsigned
    rw [Option.mem_def.mp hc] at hstop
    exact Bool.eq_false_iff.mp hstop

/-- The token of a whole number is its value, if this fits. -/
theorem wholeToken?_eq (sign digits : List Char) :
    wholeToken? (sign = ['-']) digits =
      if fitsInt64 (wholeValue sign digits) then some (.int (Int64.ofInt (wholeValue sign digits)))
        else none := by
  simp only [wholeToken?, wholeValue, decide_eq_true_eq]
  rfl

theorem fraction_eq_nil (afterDigits : Bool) (hpoint : more.head? ≠ some '.') :
    fraction afterDigits more = [] := by
  cases more with
  | nil => rfl
  | cons c rest =>
    unfold fraction
    split
    next hchars =>
      obtain ⟨rfl, -⟩ := List.cons.inj hchars
      exact absurd rfl hpoint
    next => rfl

theorem exponent_eq_nil (hnone : ¬ StartsExponent more) : exponent more = [] := by
  cases more with
  | nil => rfl
  | cons c rest =>
    simp only [exponent]
    split_ifs with hmark hempty
    · rfl
    · obtain ⟨sign, digits, others, hrest, hwhole⟩ := exists_whole (mt List.isEmpty_iff.mpr hempty)
      obtain ⟨digit, further, rfl⟩ := List.exists_cons_of_ne_nil hwhole.nonempty
      refine absurd ⟨c, sign, digit, further ++ others, by rw [hrest]; rfl, hmark, ?_, ?_⟩ hnone
      · exact hwhole.sign.imp_right And.right
      · exact hwhole.digits digit List.mem_cons_self
    · rfl

/-- Where a whole number stands it is found if its value fits. For numbers that may have a fraction
or an exponent, this is so if neither follows. -/
theorem scan_of_whole (hwhole : kind.Whole sign digits more)
    (hreal : kind = .real →
      more.head? ≠ some '.' ∧ ¬ StartsExponent more ∧ fitsInt64 (wholeValue sign digits) = true) :
    kind.scan (sign ++ (digits ++ more)) =
      if fitsInt64 (wholeValue sign digits) then some
        (sign ++ digits, .int (Int64.ofInt (wholeValue sign digits)))
      else none := by
  have htake : (digits ++ more).takeWhile isDigit = digits :=
    takeWhile_append_eq hwhole.digits hwhole.ends
  have hdrop : (digits ++ more).dropWhile isDigit = more := by
    have hall := List.takeWhile_append_dropWhile (p := isDigit) (l := digits ++ more)
    rw [htake] at hall
    exact List.append_cancel_left hall
  have hnonempty : digits.isEmpty = false := List.isEmpty_eq_false_iff.mpr hwhole.nonempty
  by_cases hkind : kind = .real
  · obtain ⟨hpoint, hexponent, hfits⟩ := hreal hkind
    simp only [scan, hwhole.sign_eq, List.drop_left, htake, hdrop, hnonempty, if_pos hkind,
      fraction_eq_nil _ hpoint, List.length_nil, List.drop_zero, exponent_eq_nil hexponent,
      wholeToken?_eq, if_pos hfits]
    simp
  · simp only [scan, hwhole.sign_eq, List.drop_left, htake, hdrop, hnonempty,
      if_neg hkind, wholeToken?_eq]
    cases fitsInt64 (wholeValue sign digits) <;> simp

/-- Where no whole number stands, a kind of number without fractions finds nothing. -/
theorem scan_eq_none (hkind : kind ≠ .real)
    (hnone : ∀ sign digits more, chars = sign ++ (digits ++ more) → ¬ kind.Whole sign digits more) :
    kind.scan chars = none := by
  have hdigits : (chars.drop (kind.sign chars).length).takeWhile isDigit = [] := by
    by_contra hsome
    obtain ⟨sign, digits, more, hchars, hwhole⟩ := exists_whole hsome
    exact hnone sign digits more hchars hwhole
  simp only [scan, hdigits, if_neg hkind]
  rfl

/-- A kind of number without fractions finds something just where a whole number stands that has the
value of a 64-bit number. What it finds are all digits of the whole number, and the 64-bit
number. -/
theorem scan_eq_some_iff (hkind : kind ≠ .real) :
    kind.scan chars = some found ↔
      ∃ sign digits more number, chars = sign ++ (digits ++ more) ∧ kind.Whole sign digits more ∧
        Int64.toInt number = wholeValue sign digits ∧ found = (sign ++ digits, .int number) := by
  constructor
  · intro hscan
    have hsome : ∃ sign digits more, chars = sign ++ (digits ++ more) ∧
        kind.Whole sign digits more := by
      by_contra hnone
      rw [scan_eq_none hkind fun sign digits more hchars hwhole ↦
        hnone ⟨sign, digits, more, hchars, hwhole⟩] at hscan
      cases hscan
    obtain ⟨sign, digits, more, rfl, hwhole⟩ := hsome
    rw [scan_of_whole hwhole fun hreal ↦ absurd hreal hkind] at hscan
    split_ifs at hscan with hfits
    exact ⟨sign, digits, more, _, rfl, hwhole, toInt_eq_iff.mpr ⟨hfits, rfl⟩,
      (Option.some.inj hscan).symm⟩
  · rintro ⟨sign, digits, more, number, rfl, hwhole, hvalue, rfl⟩
    obtain ⟨hfits, rfl⟩ := toInt_eq_iff.mp hvalue
    rw [scan_of_whole hwhole fun hreal ↦ absurd hreal hkind, if_pos hfits]

/-! ### Decimal texts -/

/-- The digits of a number are a whole number, after a sign that the kind of number has. -/
theorem whole_toDigits (value : Nat) (hsign : sign = [] ∨ kind ≠ .natural ∧
      (sign = ['+'] ∨ sign = ['-']))
    (hends : ∀ c ∈ more.head?, ¬ isDigit c = true) : kind.Whole sign (Nat.toDigits 10 value) more :=
  ⟨hsign, Nat.toDigits_ne_nil, fun _ hc ↦ isDigit_of_mem_toDigits hc, hends⟩

/-- Without a sign the value of its digits is the number. -/
theorem wholeValue_toDigits (value : Nat) : wholeValue [] (Nat.toDigits 10 value) = value := by
  rw [wholeValue, if_neg (List.cons_ne_nil _ _).symm, Nat.ofDigitChars_ten_toDigits]

/-- The decimal text of a number is a whole number of its value. -/
theorem exists_integerText (value : Int) (hends : ∀ c ∈ more.head?, ¬ isDigit c = true) :
    ∃ sign digits, integerText value = sign ++ digits ∧ Numeral.integer.Whole sign digits more ∧
      wholeValue sign digits = value := by
  by_cases hnegative : value < 0
  · refine ⟨['-'], Nat.toDigits 10 value.natAbs, by rw [integerText, if_pos hnegative]; rfl,
      whole_toDigits _ (Or.inr ⟨nofun, Or.inr rfl⟩) hends, ?_⟩
    rw [wholeValue, if_pos rfl, Nat.ofDigitChars_ten_toDigits]
    omega
  · refine ⟨[], Nat.toDigits 10 value.natAbs, by rw [integerText, if_neg hnegative]; rfl,
      whole_toDigits _ (Or.inl rfl) hends, ?_⟩
    rw [wholeValue_toDigits]
    omega

/-- The decimal text of a 64-bit number is read back. -/
theorem scan_integerText (number : Int64) (hends : ∀ c ∈ more.head?, ¬ isDigit c = true) :
    Numeral.integer.scan (integerText number.toInt ++ more) =
      some (integerText number.toInt, .int number) := by
  have hkind : Numeral.integer ≠ .real := nofun
  obtain ⟨sign, digits, htext, hwhole, hvalue⟩ := exists_integerText number.toInt hends
  exact (scan_eq_some_iff hkind).mpr
    ⟨sign, digits, more, number, by rw [htext,
      List.append_assoc], hwhole, hvalue.symm, by rw [htext]⟩

/-! ### Numbers that may have a fraction -/

/-- A whole number of a kind that may have a fraction is one of the kind that may have a sign. -/
theorem Whole.integer (hwhole : Numeral.real.Whole sign digits more) :
    Numeral.integer.Whole sign digits more :=
  ⟨hwhole.sign.imp_right fun hsome ↦ ⟨nofun, hsome.2⟩, hwhole.nonempty, hwhole.digits, hwhole.ends⟩

/-- Where a whole number stands that fits and neither a point nor an exponent follows, a number that
may have a fraction is the whole number with a sign. -/
theorem scan_real_of_whole (hwhole : Numeral.real.Whole sign digits more)
    (hfits : fitsInt64 (wholeValue sign digits) = true) (hpoint : more.head? ≠ some '.')
    (hexponent : ¬ StartsExponent more) :
    Numeral.real.scan (sign ++ (digits ++ more)) =
      Numeral.integer.scan (sign ++ (digits ++ more)) := by
  rw [scan_of_whole hwhole fun _ ↦ ⟨hpoint, hexponent, hfits⟩, scan_of_whole hwhole.integer nofun]

end Numeral

end Packrat
