import EvmScope.Text.Blank
import EvmScope.Text.Digit
import EvmScope.Text.Quoted

set_option autoImplicit false

/-! # Integer numerals

Reading and writing of integers. A numeral is an optional sign and a run of digits in which single
underscores may separate digits, with blanks allowed around it. The digits of every script count as
the ASCII digits of their value. A hexadecimal numeral may carry the mark `0x`; a *marked* numeral
must carry `0x`, `0o` or `0b` unless it is decimal, and a decimal one does not start with a zero
unless its value is zero.

Decimal numerals are limited to `maxDigits` digits in both directions, as the conversion takes
quadratic time; the other radices have no limit. -/

namespace EvmScope

/-- How the radix of a numeral is told. -/
inductive Radix
  /-- Ten. -/
  | decimal
  /-- Sixteen, with or without the mark `0x`. -/
  | hexadecimal
  /-- By the mark of the numeral itself, ten without one. -/
  | marked
  deriving DecidableEq, Repr

/-- The radix as messages show it; zero stands for a radix that the numeral itself tells. -/
def Radix.shown : Radix → Nat
  | .decimal => 10
  | .hexadecimal => 16
  | .marked => 0

/-- Why a text and an integer could not be converted into one another. -/
inductive NumeralError
  /-- The text is no numeral of this radix. -/
  | malformed (radix : Radix) (text : String)
  /-- A decimal numeral has more than `Numeral.maxDigits` digits. -/
  | tooLong (digits : Nat)
  /-- The decimal numeral of an integer would have more than `Numeral.maxDigits` digits. -/
  | tooLongToWrite
  deriving DecidableEq, Repr

namespace Numeral

/-- The number of digits a decimal numeral may have. -/
def maxDigits : Nat := 4300

/-- The number of characters of a quoted text that a message shows. -/
def shownQuote : Nat := 200

/-! ## Characters -/

/-- The ASCII character that a character of a numeral stands for: a digit of any script stands for
    its value, a blank for a space. A character that no numeral holds becomes a question mark. -/
def toPlain (c : Char) : Char :=
  if c.toNat < 127 then c
  else if isBlank c then ' '
  else
    match decimalValue? c with
    | some value => asciiDigit value
    | none => '?'

/-- The value of an ASCII digit or letter in a radix. -/
def digitValue? (radix : Nat) (c : Char) : Option Nat :=
  let n := c.toNat
  let value :=
    if 48 ≤ n && n ≤ 57 then n - 48
    else if 97 ≤ n && n ≤ 122 then n - 87
    else if 65 ≤ n && n ≤ 90 then n - 55
    else radix
  if value < radix then some value else none

/-- A character of a run of digits: a digit or a separating underscore. -/
def inRun (radix : Nat) (c : Char) : Bool :=
  c = '_' || (digitValue? radix c).isSome

/-- A run begins and ends with a digit and holds no two underscores in a row; `afterDigit` says
    whether a digit stands before the run. -/
def separated : Bool → List Char → Bool
  | afterDigit, [] => afterDigit
  | afterDigit, c :: rest => if c = '_' then afterDigit && separated false rest else separated true rest

/-- The digits of a run, underscores left out. -/
def runDigits (radix : Nat) (run : List Char) : List Nat :=
  run.filterMap (digitValue? radix)

/-- The value of digits in a radix, the most significant first. -/
def ofDigits (radix : Nat) (digits : List Nat) : Nat :=
  digits.foldl (fun value digit => value * radix + digit) 0

/-! ## Reading -/

/-- What is left of a numeral once its sign is taken off: the radix its digits are read in, whether
    only the value zero is allowed, and the text from the first digit on. -/
structure Unsigned where
  radix : Nat
  onlyZero : Bool
  text : List Char

/-- Take off one underscore, which may follow a radix mark. -/
def dropUnderscore : List Char → List Char
  | '_' :: rest => rest
  | cs => cs

/-- Settle the radix of a numeral without sign and take its mark off. -/
def settle (radix : Radix) (cs : List Char) : Unsigned :=
  match radix, cs with
  | .decimal, _ => ⟨10, false, cs⟩
  | .hexadecimal, '0' :: mark :: rest =>
    if mark = 'x' || mark = 'X' then ⟨16, false, dropUnderscore rest⟩ else ⟨16, false, cs⟩
  | .hexadecimal, _ => ⟨16, false, cs⟩
  | .marked, '0' :: mark :: rest =>
    if mark = 'x' || mark = 'X' then ⟨16, false, dropUnderscore rest⟩
    else if mark = 'o' || mark = 'O' then ⟨8, false, dropUnderscore rest⟩
    else if mark = 'b' || mark = 'B' then ⟨2, false, dropUnderscore rest⟩
    else ⟨10, true, cs⟩
  | .marked, _ => ⟨10, false, cs⟩

/-- Take off a sign; the first part says whether it was a minus. -/
def splitSign : List Char → Bool × List Char
  | '-' :: rest => (true, rest)
  | '+' :: rest => (false, rest)
  | cs => (false, cs)

/-- Read the magnitude of a numeral whose radix is settled; blanks may follow it. `none` stands for
    a malformed text. -/
def magnitude (form : Unsigned) : Except NumeralError (Option Nat) :=
  let run := form.text.takeWhile (inRun form.radix)
  let behind := form.text.dropWhile (inRun form.radix)
  let digits := runDigits form.radix run
  if !separated false run then .ok none
  else if form.radix = 10 && maxDigits < digits.length then .error (.tooLong digits.length)
  else
    let value := ofDigits form.radix digits
    if (form.onlyZero && value != 0) || !behind.all isPlainBlank then .ok none
    else .ok (some value)

/-- Read an integer numeral. -/
def read (radix : Radix) (text : String) : Except NumeralError Int :=
  let (negative, rest) := splitSign ((text.toList.map toPlain).dropWhile isPlainBlank)
  match magnitude (settle radix rest) with
  | .error e => .error e
  | .ok none => .error (.malformed radix text)
  | .ok (some value) => .ok (if negative then -(value : Int) else value)

/-- Read an integer numeral, `none` for a text that is none. -/
def read? (radix : Radix) (text : String) : Option Int :=
  (read radix text).toOption

/-! ## Writing -/

/-- The decimal numeral of an integer. -/
def decimal (n : Int) : String :=
  let digits := Nat.toDigits 10 n.natAbs
  String.ofList (if n < 0 then '-' :: digits else digits)

/-- The decimal numeral of an integer if it keeps the limit on digits. -/
def decimalWithin (n : Int) : Except NumeralError String :=
  if maxDigits < (Nat.toDigits 10 n.natAbs).length then .error .tooLongToWrite else .ok (decimal n)

/-- The hexadecimal numeral of an integer: a minus sign if need be, the mark `0x`, and the small
    digits without zeros in front. -/
def hex (n : Int) : String :=
  let digits := '0' :: 'x' :: Nat.toDigits 16 n.natAbs
  String.ofList (if n < 0 then '-' :: digits else digits)

end Numeral

/-- The message of a failed conversion. -/
def NumeralError.message : NumeralError → String
  | .malformed radix text =>
    "invalid literal for int() with base " ++ Numeral.decimal radix.shown ++ ": "
      ++ String.ofList ((Quoted.quote text).toList.take Numeral.shownQuote)
  | .tooLong digits =>
    "Exceeds the limit (" ++ Numeral.decimal Numeral.maxDigits
      ++ " digits) for integer string conversion: value has " ++ Numeral.decimal digits
      ++ " digits; use sys.set_int_max_str_digits() to increase the limit"
  | .tooLongToWrite =>
    "Exceeds the limit (" ++ Numeral.decimal Numeral.maxDigits
      ++ " digits) for integer string conversion; use sys.set_int_max_str_digits() to increase the limit"

end EvmScope
