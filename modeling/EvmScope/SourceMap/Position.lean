import EvmScope.Text.Utf8

set_option autoImplicit false

/-! # Positions in a source text

Compilers count offsets in bytes of the UTF-8 form of a text, people count lines and columns of
characters. The form of the text is cut off at a byte offset, and the characters that can still be read
become a line and a column, both from zero. A text of ASCII alone has one byte for every character and
its offsets stay as they are. -/

namespace EvmScope

/-- A place in a text: its line and its column, both counted from zero. -/
structure Position where
  line : Nat
  column : Nat
  deriving DecidableEq, Repr

namespace Position

/-- The position behind one more character. -/
def advance (p : Position) (c : Char) : Position :=
  if c = Char.ofNat 10 then ⟨p.line + 1, 0⟩ else ⟨p.line, p.column + 1⟩

/-- The position behind a row of characters. -/
def behind (cs : List Char) : Position :=
  cs.foldl advance ⟨0, 0⟩

/-- The position at a character offset; an offset outside the text counts as the nearer end. -/
def ofOffset (source : String) (offset : Int) : Position :=
  behind (source.toList.take offset.toNat)

end Position

/-- Whether a text has ASCII characters only. -/
def isAscii (text : String) : Bool :=
  text.toList.all (fun c => c.toNat < 128)

/-- The character offset of a byte offset. -/
def charOffset (source : String) (byteOffset : Int) : Int :=
  if isAscii source then byteOffset
  else (charsOfBytes ((bytesOfChars source.toList).take byteOffset.toNat)).length

/-- The position at a byte offset. -/
def positionAt (source : String) (byteOffset : Int) : Position :=
  Position.ofOffset source (charOffset source byteOffset)

end EvmScope
