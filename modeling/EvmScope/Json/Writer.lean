import EvmScope.Json.Value
import EvmScope.Text.Numeral

set_option autoImplicit false

/-! # Writing JSON

JSON text in ASCII: every character outside the printable ASCII range is an escape, those beyond the
basic plane as a pair of surrogates. A `Layout` says what separates items and whether every item has a
line of its own. -/

namespace EvmScope.Json

/-- How the items of arrays and objects are set apart. -/
structure Layout where
  /-- What stands between two items of one line. -/
  itemSeparator : String
  /-- What stands between a name and its value. -/
  nameSeparator : String
  /-- The indentation of one level if every item has a line of its own. -/
  indent : Option Nat

/-- On one line, without blanks. -/
def Layout.compact : Layout := ⟨",", ":", none⟩

/-- On one line, with a blank behind every separator. -/
def Layout.spaced : Layout := ⟨", ", ": ", none⟩

/-- Every item on a line of its own, indented by two per level. -/
def Layout.indented : Layout := ⟨",", ": ", some 2⟩

/-! ## Strings -/

/-- A code unit of sixteen bits as an escape. -/
def unitEscape (n : Nat) : List Char :=
  Quoted.backslash :: 'u' :: Quoted.hexPadded 4 n

/-- One character of a string. -/
def escapeChar (c : Char) : List Char :=
  let n := c.toNat
  if c = Quoted.double || c = Quoted.backslash then [Quoted.backslash, c]
  else if 32 ≤ n && n ≤ 126 then [c]
  else if n = 10 then [Quoted.backslash, 'n']
  else if n = 13 then [Quoted.backslash, 'r']
  else if n = 9 then [Quoted.backslash, 't']
  else if n = 12 then [Quoted.backslash, 'f']
  else if n = 8 then [Quoted.backslash, 'b']
  else if n ≤ 0xFFFF then unitEscape n
  else
    let m := n - 0x10000
    unitEscape (0xD800 + m / 0x400) ++ unitEscape (0xDC00 + m % 0x400)

/-- A string in double quotes. -/
def quote (text : String) : String :=
  String.ofList (Quoted.double :: (text.toList.flatMap escapeChar ++ [Quoted.double]))

/-! ## Values -/

/-- The line break in front of an item at a depth, empty in a one-line layout. -/
def Layout.newline (layout : Layout) (depth : Nat) : String :=
  match layout.indent with
  | none => ""
  | some width => String.ofList (Char.ofNat 10 :: List.replicate (width * depth) ' ')

/-- Put written items between brackets. -/
def Layout.enclose (layout : Layout) (depth : Nat) (opening closing : String)
    (items : List String) : String :=
  match items with
  | [] => opening ++ closing
  | items =>
    let separator := layout.itemSeparator ++ layout.newline (depth + 1)
    opening ++ layout.newline (depth + 1) ++ separator.intercalate items
      ++ layout.newline depth ++ closing

/-- The opening brace. -/
def openBrace : String := "\x7b"

/-- The closing brace. -/
def closeBrace : String := "\x7d"

mutual

/-- The text of a value at a depth. -/
def write (layout : Layout) (depth : Nat) : Json → String
  | .null => "null"
  | .bool value => if value then "true" else "false"
  | .int value => Numeral.decimal value
  | .float value => value.textWith "Infinity" "NaN"
  | .str value => quote value
  | .arr items => layout.enclose depth "[" "]" (writeItems layout (depth + 1) items)
  | .obj fields => layout.enclose depth openBrace closeBrace (writeFields layout (depth + 1) fields)

/-- The texts of the items of an array. -/
def writeItems (layout : Layout) (depth : Nat) : List Json → List String
  | [] => []
  | item :: rest => write layout depth item :: writeItems layout depth rest

/-- The texts of the fields of an object. -/
def writeFields (layout : Layout) (depth : Nat) : List (String × Json) → List String
  | [] => []
  | (name, value) :: rest =>
    (quote name ++ layout.nameSeparator ++ write layout depth value)
      :: writeFields layout depth rest

end

/-- The text of a value. -/
def render (layout : Layout) (value : Json) : String :=
  write layout 0 value

mutual

/-- Whether every integer of a value keeps the limit on decimal digits. -/
def withinLimit : Json → Bool
  | .int value => (Numeral.decimalWithin value).toBool
  | .arr items => itemsWithinLimit items
  | .obj fields => fieldsWithinLimit fields
  | _ => true

/-- Whether every integer of the items keeps the limit. -/
def itemsWithinLimit : List Json → Bool
  | [] => true
  | item :: rest => withinLimit item && itemsWithinLimit rest

/-- Whether every integer of the fields keeps the limit. -/
def fieldsWithinLimit : List (String × Json) → Bool
  | [] => true
  | (_, value) :: rest => withinLimit value && fieldsWithinLimit rest

end

/-- The text of a value whose integers keep the limit on decimal digits. -/
def renderWithin (layout : Layout) (value : Json) : Except NumeralError String :=
  if withinLimit value then .ok (render layout value) else .error .tooLongToWrite

end EvmScope.Json
