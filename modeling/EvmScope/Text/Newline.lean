set_option autoImplicit false

/-! # Line ends

Files may end their lines with a line feed, a carriage return, or both; text that was read has line
feeds only. -/

namespace EvmScope

/-- The line feed. -/
def lineFeed : Char := Char.ofNat 10

/-- The carriage return. -/
def carriageReturn : Char := Char.ofNat 13

/-- Replace every line end by a line feed; `afterReturn` says whether a carriage return stands before
    the text, so that a line feed next to it is part of the same line end. -/
def unifyFrom (afterReturn : Bool) : List Char → List Char
  | [] => []
  | c :: rest =>
    if c = carriageReturn then lineFeed :: unifyFrom true rest
    else if c = lineFeed && afterReturn then unifyFrom false rest
    else c :: unifyFrom false rest

/-- A text with line feeds as its only line ends. -/
def unifyLineEnds (text : String) : String :=
  String.ofList (unifyFrom false text.toList)

end EvmScope
