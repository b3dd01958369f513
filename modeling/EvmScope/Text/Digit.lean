import EvmScope.Text.CharSet

set_option autoImplicit false

/-! # Decimal digits of all scripts

Every script that writes decimal numbers has its ten digits next to one another, so the digits of
all scripts are given by their zeros. A character is a decimal digit when one of the zeros stands
at most nine places below it, and the distance is its value. Characters such as superscripts show
a digit without being usable in a numeral; `isDigitLike` admits both kinds. -/

namespace EvmScope

/-- The code points of the zeros of all scripts, in increasing order. -/
def digitZeros : List Nat :=
  [
    48, 1632, 1776, 1984, 2406, 2534, 2662, 2790, 2918, 3046, 3174, 3302, 3430, 3558, 3664, 3792,
    3872, 4160, 4240, 6112, 6160, 6470, 6608, 6784, 6800, 6992, 7088, 7232, 7248, 42528, 43216,
    43264, 43472, 43504, 43600, 44016, 65296, 66720, 68912, 69734, 69872, 69942, 70096, 70384,
    70736, 70864, 71248, 71360, 71472, 71904, 72016, 72784, 73040, 73120, 92768, 92864, 93008,
    120782, 120792, 120802, 120812, 120822, 123200, 123632, 125264, 130032]

/-- The value of a decimal digit of any script, `none` for any other character. -/
def decimalValue? (c : Char) : Option Nat :=
  (digitZeros.find? (fun first => first ≤ c.toNat && c.toNat < first + 10)).map (c.toNat - ·)

/-- A decimal digit of some script. -/
def isDecimalDigit (c : Char) : Bool :=
  (decimalValue? c).isSome

/-- Characters that show a digit but build no numeral, such as superscripts and circled digits. -/
def ornamentalDigits : CharSet where
  flips := [
    178, 180, 185, 186, 4969, 4978, 6618, 6619, 8304, 8305, 8308, 8314, 8320, 8330, 9312, 9321,
    9332, 9341, 9352, 9361, 9450, 9451, 9461, 9470, 9471, 9472, 10102, 10111, 10112, 10121, 10122,
    10131, 68160, 68164, 69216, 69225, 69714, 69723, 127232, 127243]

/-- A character that shows one digit: a decimal digit, a superscript, a circled digit. -/
def isDigitLike (c : Char) : Bool :=
  isDecimalDigit c || ornamentalDigits.contains c

/-- The digit character of ASCII for a value below ten. -/
def asciiDigit (value : Nat) : Char :=
  Char.ofNat (48 + value)

end EvmScope
