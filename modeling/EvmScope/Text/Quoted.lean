import EvmScope.Text.Printable

set_option autoImplicit false

/-! # Quoted text

A text in quotes, as messages show it. The quotes are single unless the text holds a single and no
double quote. The quote in use and the backslash are escaped, tabs and line ends have their letter
escapes, and every other character that is not printable is written by its code point in two, four
or eight hexadecimal digits. -/

namespace EvmScope.Quoted

/-- The single quote. -/
def single : Char := Char.ofNat 0x27

/-- The double quote. -/
def double : Char := Char.ofNat 0x22

/-- The backslash. -/
def backslash : Char := Char.ofNat 0x5C

/-- The small hexadecimal digits of a number, with zeros in front up to `width` digits. -/
def hexPadded (width n : Nat) : List Char :=
  let digits := Nat.toDigits 16 n
  List.replicate (width - digits.length) '0' ++ digits

/-- The escape of a character by its code point, in two, four or eight digits. -/
def codeEscape (c : Char) : List Char :=
  let n := c.toNat
  if n ≤ 0xFF then backslash :: 'x' :: hexPadded 2 n
  else if n ≤ 0xFFFF then backslash :: 'u' :: hexPadded 4 n
  else backslash :: 'U' :: hexPadded 8 n

/-- One character inside quotes of kind `quote`. -/
def escapeChar (quote c : Char) : List Char :=
  let n := c.toNat
  if c = quote || c = backslash then [backslash, c]
  else if n = 9 then [backslash, 't']
  else if n = 10 then [backslash, 'n']
  else if n = 13 then [backslash, 'r']
  else if isPrintable c then [c]
  else codeEscape c

/-- The quote that a text is put in. -/
def quoteFor (cs : List Char) : Char :=
  if cs.contains single && !cs.contains double then double else single

/-- A text in quotes. -/
def quote (text : String) : String :=
  let cs := text.toList
  let mark := quoteFor cs
  String.ofList (mark :: cs.flatMap (escapeChar mark) ++ [mark])

/-- A text with every character beyond ASCII escaped. -/
def escapeBeyondAscii (text : String) : String :=
  String.ofList (text.toList.flatMap (fun c => if c.toNat < 128 then [c] else codeEscape c))

end EvmScope.Quoted
