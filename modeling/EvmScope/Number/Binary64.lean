set_option autoImplicit false

/-! # Binary floating-point numbers

The numbers of the 64-bit binary format, kept as an exact `mantissa * 2 ^ exponent` so that reading,
writing and comparing them is integer arithmetic. A finite number is in its one normal form: the
mantissa has 53 bits, or the exponent is the least one, `-1074`.

`ofDecimal` gives the number nearest to a decimal fraction, an exact tie going to the even mantissa.
`text` writes the shortest decimal fraction that reads back as the number, the nearest of those. For
each digit count it is enough to try the two neighbours of the number on that decimal grid: if any
grid point reads back, one of the neighbours does. -/

namespace EvmScope

/-- A number of the 64-bit binary floating-point format. -/
inductive Binary64
  /-- `± mantissa * 2 ^ exponent` -/
  | finite (negative : Bool) (mantissa : Nat) (exponent : Int)
  | infinite (negative : Bool)
  | nan
  deriving DecidableEq, Repr

namespace Binary64

/-- The least exponent, that of the numbers nearest to zero. -/
def minExponent : Int := -1074

/-- The greatest exponent of a finite number. -/
def maxExponent : Int := 971

/-- Zero, with either sign. -/
def zero (negative : Bool) : Binary64 := .finite negative 0 minExponent

/-! ## Rounding a fraction -/

/-- The integer nearest to `num / den`, the even one of two equally near. -/
def roundEven (num den : Nat) : Nat :=
  let q := num / den
  let r := num % den
  if 2 * r < den || (2 * r == den && q % 2 == 0) then q else q + 1

/-- The fraction `num / den / 2 ^ exponent`. -/
def scaled (num den : Nat) (exponent : Int) : Nat × Nat :=
  if 0 ≤ exponent then (num, den * Nat.pow 2 exponent.toNat)
  else (num * Nat.pow 2 (-exponent).toNat, den)

/-- The exponent at which the mantissa of `num / den` has 53 bits, or the least one. -/
def exponentOf (num den : Nat) : Int :=
  let guess : Int := (Nat.log2 num : Int) - Nat.log2 den - 52
  let s := scaled num den guess
  max minExponent (if s.1 / s.2 < Nat.pow 2 52 then guess - 1 else guess)

/-- The number nearest to `num / den`. -/
def ofRatio (negative : Bool) (num den : Nat) : Binary64 :=
  if num = 0 then zero negative
  else
    let exponent := exponentOf num den
    let s := scaled num den exponent
    let mantissa := roundEven s.1 s.2
    let carried := mantissa = Nat.pow 2 53
    let exponent := if carried then exponent + 1 else exponent
    if maxExponent < exponent then .infinite negative
    else .finite negative (if carried then Nat.pow 2 52 else mantissa) exponent

/-- The number nearest to `digits * 10 ^ exponent`. Numbers of over 310 digits before the point are
    infinite and those with over 330 zeros behind it are zero, whatever their digits. -/
def ofDecimal (negative : Bool) (digits : Nat) (exponent : Int) : Binary64 :=
  let point : Int := (Nat.toDigits 10 digits).length + exponent
  if digits = 0 || point < -330 then zero negative
  else if 310 < point then .infinite negative
  else if 0 ≤ exponent then ofRatio negative (digits * Nat.pow 10 exponent.toNat) 1
  else ofRatio negative digits (Nat.pow 10 (-exponent).toNat)

/-! ## Integers -/

/-- The integer part, `none` where there is none. -/
def truncate? : Binary64 → Option Int
  | .finite negative mantissa exponent =>
    let whole : Nat :=
      if 0 ≤ exponent then mantissa * Nat.pow 2 exponent.toNat
      else mantissa / Nat.pow 2 (-exponent).toNat
    some (if negative then -(whole : Int) else whole)
  | _ => none

/-- Whether the number is an integer. -/
def isIntegral : Binary64 → Bool
  | .finite _ mantissa exponent => 0 ≤ exponent || mantissa % Nat.pow 2 (-exponent).toNat == 0
  | _ => false

/-- Whether the number is a zero. -/
def isZero : Binary64 → Bool
  | .finite _ mantissa _ => mantissa == 0
  | _ => false

/-- Whether the number is greater than an integer. -/
def exceeds (x : Binary64) (n : Int) : Bool :=
  match x with
  | .finite negative mantissa exponent =>
    let signed : Int := if negative then -(mantissa : Int) else mantissa
    if 0 ≤ exponent then n < signed * (Nat.pow 2 exponent.toNat : Nat)
    else n * (Nat.pow 2 (-exponent).toNat : Nat) < signed
  | .infinite negative => !negative
  | .nan => false

/-- The greatest integer that is not above the number. -/
def floor? (x : Binary64) : Option Int :=
  x.truncate?.map (fun n => if x.isIntegral || x.exceeds n then n else n - 1)

/-- The least integer that is not below the number. -/
def ceiling? (x : Binary64) : Option Int :=
  x.truncate?.map (fun n => if x.exceeds n then n + 1 else n)

/-! ## Shortest decimal text -/

/-- The place of the first digit of `num / den`: `10 ^ (p - 1) ≤ num / den < 10 ^ p`. -/
def decimalPoint (num den : Nat) : Int :=
  (Nat.toDigits 10 (num * Nat.pow 10 330 / den)).length - 330

/-- The grid point `floor (num / den / 10 ^ grid)` below a number and twice its distance to it, as
    the numerator over the given denominator. -/
def gridBelow (num den : Nat) (grid : Int) : Nat × Nat × Nat :=
  let n := if 0 ≤ grid then num else num * Nat.pow 10 (-grid).toNat
  let d := if 0 ≤ grid then den * Nat.pow 10 grid.toNat else den
  (n / d, 2 * (n % d), d)

/-- The neighbour of `num / den` with `count` digits that reads back as `x`, the nearer of two. -/
def withDigits? (x : Binary64) (num den count : Nat) : Option (Nat × Int) :=
  let grid := decimalPoint num den - count
  let (below, twice, d) := gridBelow num den grid
  let reads (digits : Nat) : Bool := ofDecimal false digits grid == x
  let preferUpper := d < twice || (d == twice && below % 2 == 1)
  match reads below, reads (below + 1) with
  | true, true => some (if preferUpper then below + 1 else below, grid)
  | true, false => some (below, grid)
  | false, true => some (below + 1, grid)
  | false, false => none

/-- Drop the zeros at the end of a digit string and count them. -/
def dropZeros (digits : List Char) : List Char × Nat :=
  let kept := (digits.reverse.dropWhile (· = '0')).reverse
  (kept, digits.length - kept.length)

/-- The digits of the shortest decimal fraction that reads back as `mantissa * 2 ^ exponent`, and the
    place of the decimal point counted from the first digit. -/
def shortest (mantissa : Nat) (exponent : Int) : List Char × Int :=
  let num := if 0 ≤ exponent then mantissa * Nat.pow 2 exponent.toNat else mantissa
  let den := if 0 ≤ exponent then 1 else Nat.pow 2 (-exponent).toNat
  let x : Binary64 := .finite false mantissa exponent
  let found := (List.range 17).findSome? (fun i => withDigits? x num den (i + 1))
  let (digits, grid) := found.getD (0, 0)
  let (kept, zeros) := dropZeros (Nat.toDigits 10 digits)
  (kept, kept.length + (grid + zeros))

/-- The exponent of scientific notation: its sign and at least two digits. -/
def exponentText (exponent : Int) : List Char :=
  let digits := Nat.toDigits 10 exponent.natAbs
  (if exponent < 0 then '-' else '+') :: (List.replicate (2 - digits.length) '0' ++ digits)

/-- Write digits with the decimal point at `point`. Numbers from `10 ^ -4` up to, but not including,
    `10 ^ 16` are written positionally, always with a digit behind the point; all others in scientific
    notation. -/
def layOut (digits : List Char) (point : Int) : List Char :=
  if -4 < point && point ≤ 16 then
    if point ≤ 0 then '0' :: '.' :: (List.replicate (-point).toNat '0' ++ digits)
    else if (digits.length : Int) ≤ point then
      digits ++ List.replicate (point.toNat - digits.length) '0' ++ ['.', '0']
    else digits.take point.toNat ++ '.' :: digits.drop point.toNat
  else
    let tail := digits.drop 1
    digits.take 1 ++ (if tail.isEmpty then [] else '.' :: tail) ++ 'e' :: exponentText (point - 1)

/-- The text of a number, with the given words for the values that have no digits. -/
def textWith (infinityWord nanWord : String) : Binary64 → String
  | .finite negative mantissa exponent =>
    let shown := if mantissa = 0 then ['0', '.', '0'] else
      let (digits, point) := shortest mantissa exponent
      layOut digits point
    String.ofList (if negative then '-' :: shown else shown)
  | .infinite negative => (if negative then "-" else "") ++ infinityWord
  | .nan => nanWord

/-- The text of a number in messages. -/
def text (x : Binary64) : String := textWith "inf" "nan" x

end Binary64

end EvmScope
