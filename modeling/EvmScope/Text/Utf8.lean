set_option autoImplicit false

/-! # Texts in bytes

The UTF-8 form of a text is that of its characters one behind the other. In the other direction every row
of bytes can be read: a byte at which no form of a character begins is passed over, as are the bytes of a
form that was cut off. -/

namespace EvmScope

/-- The bytes of a row of characters. -/
def bytesOfChars (cs : List Char) : List UInt8 :=
  cs.flatMap String.utf8EncodeChar

/-- The character whose form stands in front of a row of bytes; a form has no more than four bytes. -/
def firstChar? (bytes : List UInt8) : Option Char :=
  (bytes.take 4).toByteArray.utf8DecodeChar? 0

/-- The characters of a row of bytes of which the first `inside` belong to the character before; `out`
    holds the characters before, last first. -/
def charsBehind (out : List Char) : Nat → List UInt8 → List Char
  | _, [] => out.reverse
  | inside + 1, _ :: rest => charsBehind out inside rest
  | 0, byte :: rest =>
    match firstChar? (byte :: rest) with
    | some c => charsBehind (c :: out) (c.utf8Size - 1) rest
    | none => charsBehind out 0 rest

/-- The characters of a row of bytes. -/
def charsOfBytes (bytes : List UInt8) : List Char :=
  charsBehind [] 0 bytes

end EvmScope
