import EvmScope.Text.CharSet

set_option autoImplicit false

/-! # Blank characters

The characters that text is trimmed of: the Unicode white space together with the four ASCII
information separators. Trimming takes them off both ends of a text; `removeBlanks` takes them out
everywhere. -/

namespace EvmScope

/-- A blank character: a horizontal or vertical space, a line or paragraph end, or one of the
    information separators `U+001C` to `U+001F`. -/
def isBlank (c : Char) : Bool :=
  let n := c.toNat
  (9 ≤ n && n ≤ 13) || (28 ≤ n && n ≤ 32) || n == 0x85 || n == 0xA0 || n == 0x1680
    || (0x2000 ≤ n && n ≤ 0x200A) || n == 0x2028 || n == 0x2029 || n == 0x202F || n == 0x205F
    || n == 0x3000

/-- The six blank characters of ASCII that a numeral may be surrounded by; the information
    separators are not among them. -/
def isPlainBlank (c : Char) : Bool :=
  let n := c.toNat
  (9 ≤ n && n ≤ 13) || n == 32

/-- Drop the members of a class from both ends of a text. -/
def trimChars (drop : Char → Bool) (cs : List Char) : List Char :=
  ((cs.dropWhile drop).reverse.dropWhile drop).reverse

/-- Drop the blanks at both ends of a text. -/
def trimBlanks (text : String) : String :=
  String.ofList (trimChars isBlank text.toList)

/-- Take the blanks out of a text, wherever they stand. -/
def removeBlanks (cs : List Char) : List Char :=
  cs.filter (fun c => !isBlank c)

end EvmScope
