set_option autoImplicit false

/-! # Text styles

A terminal takes the style of text from control sequences: a sequence turns a colour or weight on, and the
reset sequence turns all of them off. Text that goes to a file is written plain. -/

namespace EvmScope

/-- A colour or weight of text. -/
inductive Style
  | bold
  | dim
  | red
  | green
  | yellow
  | magenta
  | cyan
  | brightRed
  | brightGreen
  | brightYellow
  | brightCyan
  | orange
  deriving DecidableEq, Repr

namespace Style

/-- The number of a style. -/
def code : Style → String
  | bold => "1"
  | dim => "2"
  | red => "31"
  | green => "32"
  | yellow => "33"
  | magenta => "35"
  | cyan => "36"
  | brightRed => "91"
  | brightGreen => "92"
  | brightYellow => "93"
  | brightCyan => "96"
  | orange => "38;5;208"

/-- The control sequence of a number. -/
def sequence (code : String) : String :=
  String.ofList [Char.ofNat 27] ++ "[" ++ code ++ "m"

/-- Turn a style on. -/
def start (style : Style) : String := sequence style.code

/-- Turn all styles off. -/
def reset : String := sequence "0"

/-- Text in some styles. -/
def paint (styles : List Style) (text : String) : String :=
  String.join (styles.map start) ++ text ++ reset

/-- Text in some styles, or plain if there are no colours. -/
def paintIf (colours : Bool) (styles : List Style) (text : String) : String :=
  if colours then paint styles text else text

end Style

end EvmScope
