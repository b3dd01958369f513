set_option autoImplicit false

/-! # Splitting at a separator

A text is cut at every occurrence of a separator character. There is always one piece more than there
are separators, so the empty text has one empty piece, and joining the pieces with the separator gives
the text back. -/

namespace EvmScope

/-- Cut a text at a separator; `piece` holds the characters since the last one and `out` the pieces
    before it, both last first. -/
def splitFrom (separator : Char) (piece : List Char) (out : List (List Char)) :
    List Char → List (List Char)
  | [] => (piece.reverse :: out).reverse
  | c :: rest =>
    if c = separator then splitFrom separator [] (piece.reverse :: out) rest
    else splitFrom separator (c :: piece) out rest

/-- The pieces of a text between separators. -/
def splitAtChar (separator : Char) (cs : List Char) : List (List Char) :=
  splitFrom separator [] [] cs

end EvmScope
