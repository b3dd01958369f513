import EvmScope.Json.Value
import EvmScope.Text.Numeral

set_option autoImplicit false

/-! # Values in messages

How a JSON value is shown inside a message: `None`, `True` and `False` for the constants, quoted text
for strings, brackets and braces with a blank behind every comma. A value that is shown on its own
rather than inside another one shows a string without quotes.

Integers are written here without a look at the limit on digits. The values shown were read from JSON texts,
whose reader refuses longer integers (`Json.withinLimit_of_read`); the arguments of a log line, which may also
be computed, are asked for `Json.withinLimit` before they are shown. -/

namespace EvmScope.Json

mutual

/-- A value as it stands inside a message. -/
def literal : Json → String
  | .null => "None"
  | .bool value => if value then "True" else "False"
  | .int value => Numeral.decimal value
  | .float value => value.text
  | .str value => Quoted.quote value
  | .arr items => "[" ++ ", ".intercalate (literalItems items) ++ "]"
  | .obj fields => "\x7b" ++ ", ".intercalate (literalFields fields) ++ "\x7d"

/-- The items of an array. -/
def literalItems : List Json → List String
  | [] => []
  | item :: rest => literal item :: literalItems rest

/-- The fields of an object. -/
def literalFields : List (String × Json) → List String
  | [] => []
  | (name, value) :: rest => (Quoted.quote name ++ ": " ++ literal value) :: literalFields rest

end

/-- A value on its own: a string shows its characters. -/
def display : Json → String
  | .str value => value
  | value => literal value

end EvmScope.Json
