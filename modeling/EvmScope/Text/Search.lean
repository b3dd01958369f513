set_option autoImplicit false

/-! # Searching text

Whether one text stands in front of, or somewhere within, another. -/

namespace EvmScope

/-- Whether a run of characters stands somewhere in a text. -/
def occursIn (wanted : List Char) : List Char → Bool
  | [] => wanted.isEmpty
  | c :: rest => wanted.isPrefixOf (c :: rest) || occursIn wanted rest

/-- Whether a text contains another one. -/
def containsText (text wanted : String) : Bool :=
  occursIn wanted.toList text.toList

/-- Whether a text begins with another one. -/
def beginsWith (text start : String) : Bool :=
  start.toList.isPrefixOf text.toList

/-- A text without its first characters. -/
def dropChars (count : Nat) (text : String) : String :=
  String.ofList (text.toList.drop count)

/-- Fill a text up with a character on its left. -/
def padLeft (width : Nat) (fill : Char) (text : String) : String :=
  String.ofList (List.replicate (width - text.length) fill ++ text.toList)

/-- Fill a text up with blanks on its right. -/
def padRight (width : Nat) (text : String) : String :=
  String.ofList (text.toList ++ List.replicate (width - text.length) ' ')

end EvmScope
