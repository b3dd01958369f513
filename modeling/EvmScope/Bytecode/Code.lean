import EvmScope.Text.Blank
import EvmScope.Text.Numeral

set_option autoImplicit false

/-! # Code as a row of cells

Code comes as hexadecimal text or as bytes. Either way it is a row of *cells*, one for each byte; a
cell is empty where the text does not give the byte.

Of a text, the blanks and one mark `0x` in front are left out. The characters that remain are first read
as plain hexadecimal, which has two digits for every byte and nothing else. If that is not what they
are, they are taken in pairs and each pair is read as a numeral of its own; a pair that is none, and a
single character left at the end, give an empty cell. -/

namespace EvmScope

/-- A byte of code, `none` where the text does not give it. -/
abbrev Cell := Option UInt8

/-- Code to be decoded. -/
inductive Code
  /-- No code at all. -/
  | absent
  /-- Hexadecimal text. -/
  | text (hex : String)
  /-- The bytes themselves. -/
  | bytes (values : List UInt8)

namespace Code

/-- Leave out one mark `0x` in front. -/
def dropMark : List Char → List Char
  | '0' :: mark :: rest => if mark = 'x' || mark = 'X' then rest else '0' :: mark :: rest
  | cs => cs

/-! ## Plain hexadecimal -/

/-- The byte of a pair of hexadecimal digits. -/
def byteOfDigits? (high low : Char) : Option UInt8 :=
  match Numeral.digitValue? 16 high, Numeral.digitValue? 16 low with
  | some h, some l => some (UInt8.ofNat (16 * h + l))
  | _, _ => none

/-- The bytes of a text of plain hexadecimal, in which blanks may stand between the pairs of digits;
    `none` for any other text. `out` holds the bytes before it, last first. -/
def plainBytes? (out : List UInt8) : List Char → Option (List UInt8)
  | [] => some out.reverse
  | [c] => if isPlainBlank c then some out.reverse else none
  | high :: low :: rest =>
    if isPlainBlank high then plainBytes? out (low :: rest)
    else
      match byteOfDigits? high low with
      | some byte => plainBytes? (byte :: out) rest
      | none => none

/-! ## Any text -/

/-- The cell of a pair of characters, empty unless they are letters or digits of ASCII and together a
    hexadecimal numeral. -/
def cellOfPair (high low : Char) : Cell :=
  if high.isAlphanum && low.isAlphanum then
    (Numeral.read? .hexadecimal (String.ofList [high, low])).map (fun n => UInt8.ofNat n.toNat)
  else none

/-- The cells of the pairs of a text; `out` holds the cells before it, last first. -/
def pairUp (out : List Cell) : List Char → List Cell
  | [] => out.reverse
  | [_] => (none :: out).reverse
  | high :: low :: rest => pairUp (cellOfPair high low :: out) rest

/-- The characters of a text that are read: all but its blanks and a mark in front. -/
def readable (hex : String) : List Char :=
  dropMark (removeBlanks hex.toList)

/-- The cells of a hexadecimal text. -/
def cellsOfText (hex : String) : List Cell :=
  match plainBytes? [] (readable hex) with
  | some values => values.map some
  | none => pairUp [] (readable hex)

/-- The cells of a code. -/
def cells : Code → List Cell
  | absent => []
  | text hex => cellsOfText hex
  | bytes values => values.map some

end Code

end EvmScope
