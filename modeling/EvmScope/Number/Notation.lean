import EvmScope.Number.Binary64

set_option autoImplicit false

/-! # Notations with a given number of digits

The magnitude of a number rounded to a number of decimal places, in positional notation, in scientific
notation, or in the shorter of the two. Rounding is exact, a tie going to the even digit. A *full*
notation always has a decimal point, and the shorter of the two keeps the zeros at its end only if it is
full. -/

namespace EvmScope.Binary64

/-- The magnitude of a finite number as a fraction. -/
def fraction (mantissa : Nat) (exponent : Int) : Nat × Nat :=
  if 0 ≤ exponent then (mantissa * Nat.pow 2 exponent.toNat, 1)
  else (mantissa, Nat.pow 2 (-exponent).toNat)

/-- Digits with a decimal point in front of the last `places` of them. -/
def placePoint (full : Bool) (places : Nat) (digits : List Char) : List Char :=
  let padded := List.replicate (places + 1 - digits.length) '0' ++ digits
  let whole := padded.take (padded.length - places)
  if places = 0 && !full then whole else whole ++ '.' :: padded.drop (padded.length - places)

/-- Positional notation of `num / den` with a number of decimal places. -/
def fixedPlaces (full : Bool) (places num den : Nat) : List Char :=
  placePoint full places (Nat.toDigits 10 (roundEven (num * Nat.pow 10 places) den))

/-- The first `places + 1` digits of `num / den` as one number, and the exponent of the first of
    them. -/
def leadingDigits (places num den : Nat) : Nat × Int :=
  if num = 0 then (0, 0)
  else
    let exponent := decimalPoint num den - 1
    let shift := (places : Int) - exponent
    let digits :=
      if 0 ≤ shift then roundEven (num * Nat.pow 10 shift.toNat) den
      else roundEven num (den * Nat.pow 10 (-shift).toNat)
    if digits = Nat.pow 10 (places + 1) then (Nat.pow 10 places, exponent + 1)
    else (digits, exponent)

/-- Scientific notation of `num / den` with a number of decimal places. -/
def scientificPlaces (full : Bool) (places num den : Nat) : List Char :=
  let (digits, exponent) := leadingDigits places num den
  placePoint full places (Nat.toDigits 10 digits) ++ 'e' :: exponentText exponent

/-- Drop the zeros at the end of a fraction, and its point if nothing is left behind it. -/
def dropEndZeros (digits : List Char) : List Char :=
  if digits.contains '.' then
    let kept := (digits.reverse.dropWhile (· = '0')).reverse
    if kept.getLast? = some '.' then kept.dropLast else kept
  else digits

/-- `num / den` with a number of significant digits: positional if the exponent is at least -4 and less
    than that number, else scientific; zeros at the end are left out unless the notation is full. -/
def significant (full : Bool) (count num den : Nat) : List Char :=
  let count := max count 1
  let (digits, exponent) := leadingDigits (count - 1) num den
  let shorten (shown : List Char) : List Char := if full then shown else dropEndZeros shown
  if -4 ≤ exponent && exponent < count then
    shorten (fixedPlaces full ((count : Int) - 1 - exponent).toNat num den)
  else
    shorten (placePoint full (count - 1) (Nat.toDigits 10 digits)) ++ 'e' :: exponentText exponent

end EvmScope.Binary64
