import EvmScope.Json.Literal
import EvmScope.Json.Writer
import EvmScope.Number.Notation
import EvmScope.Text.Casing
import EvmScope.Text.Search

set_option autoImplicit false

/-! # Message templates

A template is text with directives. A directive begins with a percent sign and ends with a letter that
says how its argument is written; between them may stand the name of a field in parentheses, flags, a
width and a precision. Two percent signs are one percent sign of the text.

Directives take the arguments in order, a width or precision that is a star taking one of its own. Where
the only argument is an object, a directive with a name takes that field; without a name it takes what is
at hand, which is the object itself or the field that was named last, and only once. A template fits its
arguments if every directive finds an argument of its kind and no argument of several is left. -/

namespace EvmScope.Template

/-! ## Directives -/

/-- A width or a precision. -/
inductive Measure
  | fixed (n : Nat)
  /-- The next argument says it. -/
  | star
  deriving DecidableEq, Repr

/-- A directive of a template. -/
structure Directive where
  /-- The field that is written, if it is named. -/
  field? : Option String
  flags : List Char
  width? : Option Measure
  precision? : Option Measure
  letter : Char
  deriving Repr

/-- A flag in front of a width. -/
def isFlag (c : Char) : Bool :=
  c = '-' || c = '+' || c = ' ' || c = '#' || c = '0'

/-- A decimal digit of ASCII. -/
def isPlainDigit (c : Char) : Bool := '0' ≤ c && c ≤ '9'

/-- The number in front of a text, zero if there is none. -/
def splitNumber (cs : List Char) : Nat × List Char :=
  let digits := cs.takeWhile isPlainDigit
  (Numeral.ofDigits 10 (Numeral.runDigits 10 digits), cs.drop digits.length)

/-- The name that ends at the parenthesis which closes the first one; `depth` counts those that are open
    beside it. -/
def splitName (depth : Nat) (name : List Char) : List Char → Option (String × List Char)
  | [] => none
  | c :: rest =>
    if c = ')' then
      match depth with
      | 0 => some (String.ofList name.reverse, rest)
      | depth + 1 => splitName depth (c :: name) rest
    else if c = '(' then splitName (depth + 1) (c :: name) rest
    else splitName depth (c :: name) rest

/-- The name in parentheses in front of a text. -/
def splitField : List Char → Option (Option String × List Char)
  | '(' :: rest => (splitName 0 [] rest).map (fun (name, behind) => (some name, behind))
  | cs => some (none, cs)

/-- The width in front of a text. -/
def splitWidth : List Char → Option Measure × List Char
  | '*' :: rest => (some .star, rest)
  | cs =>
    let (width, behind) := splitNumber cs
    (some (.fixed width), behind)

/-- The precision in front of a text. -/
def splitPrecision : List Char → Option Measure × List Char
  | '.' :: '*' :: rest => (some .star, rest)
  | '.' :: rest =>
    let (precision, behind) := splitNumber rest
    (some (.fixed precision), behind)
  | cs => (none, cs)

/-- Pass over a mark of size, which has no meaning. -/
def dropSize : List Char → List Char
  | 'h' :: rest | 'l' :: rest | 'L' :: rest => rest
  | cs => cs

/-- The directive behind a percent sign; `none` if the text ends within it. -/
def splitDirective (cs : List Char) : Option (Directive × List Char) := do
  let (field?, cs) ← splitField cs
  let flags := cs.takeWhile isFlag
  let (width?, cs) := splitWidth (cs.drop flags.length)
  let (precision?, cs) := splitPrecision cs
  match dropSize cs with
  | letter :: rest => some (⟨field?, flags, width?, precision?, letter⟩, rest)
  | [] => none

/-! ## Arguments -/

/-- What directives take their arguments from. -/
inductive Source
  | inOrder (arguments : List Json)
  /-- A single object, and the value that is at hand. -/
  | object (fields : List (String × Json)) (atHand : Option Json)

namespace Source

/-- Take the next argument. -/
def take? : Source → Option (Json × Source)
  | inOrder (argument :: rest) => some (argument, inOrder rest)
  | inOrder [] => none
  | object fields (some value) => some (value, object fields none)
  | object _ none => none

/-- Put the field of a name at hand. -/
def reach? (source : Source) (name : String) : Option Source :=
  match source with
  | inOrder _ => none
  | object fields _ => (fields.lookup name).map (fun value => object fields (some value))

/-- Whether no argument is left over. -/
def isUsedUp : Source → Bool
  | inOrder arguments => arguments.isEmpty
  | object _ _ => true

/-- The largest width and precision. -/
def maxMeasure : Nat := 2147483647

/-- The number that a measure stands for, zero if there is none. -/
def measure? (source : Source) (m : Option Measure) : Option (Int × Source) := do
  let (n, source) ←
    match m with
    | none => some (0, source)
    | some (.fixed n) => some ((n : Int), source)
    | some .star => do
      let (value, source) ← source.take?
      let n ← value.int?
      some (n, source)
  if n.natAbs ≤ maxMeasure then some (n, source) else none

end Source

/-! ## Writing an argument -/

/-- How an argument is written. -/
structure Shape where
  /-- Whether the text begins at the left end of its width. -/
  leftBound : Bool
  plus : Bool
  blank : Bool
  /-- Whether the notation is written in full: with the mark of its radix, with a decimal point. -/
  full : Bool
  zeros : Bool
  width : Nat
  precision? : Option Nat
  letter : Char
  deriving Repr

namespace Shape

/-- The shape that a directive asks for with these numbers for its width and precision. A negative width
    binds the text to the left, a negative precision is zero. -/
def ofDirective (d : Directive) (width precision : Int) : Shape where
  leftBound := d.flags.contains '-' || width < 0
  plus := d.flags.contains '+'
  blank := d.flags.contains ' '
  full := d.flags.contains '#'
  zeros := d.flags.contains '0'
  width := width.natAbs
  precision? := d.precision?.map (fun _ => precision.toNat)
  letter := d.letter

/-- Fill text up to the width. -/
def fillText (s : Shape) (text : String) : String :=
  if s.leftBound then padRight s.width text else padLeft s.width ' ' text

/-- Fill a number up to the width, zeros going between its sign and its digits. -/
def fillNumber (s : Shape) (negative : Bool) (mark digits : String) : String :=
  let sign := if negative then "-" else if s.plus then "+" else if s.blank then " " else ""
  let head := sign ++ mark
  if s.zeros && !s.leftBound then head ++ padLeft (s.width - head.length) '0' digits
  else s.fillText (head ++ digits)

/-- Write text, cut to the precision. -/
def text (s : Shape) (shown : String) : String :=
  s.fillText (match s.precision? with
    | some count => String.ofList (shown.toList.take count)
    | none => shown)

/-- Write an integer in a radix with at least as many digits as the precision says. -/
def integer (s : Shape) (radix : Nat) (mark : String) (capitals : Bool) (n : Int) : String :=
  let digits := String.ofList (Nat.toDigits radix n.natAbs)
  let digits := padLeft (s.precision?.getD 0) '0' digits
  let shown := if capitals then toCapitals digits else digits
  s.fillNumber (n < 0) (if s.full then mark else "") shown

/-- Write a number in one of the notations for fractions. -/
def fractional (s : Shape) (value : Binary64) : String :=
  let places := s.precision?.getD 6
  let capitals := ['E', 'F', 'G'].contains s.letter
  let cased (text : String) : String := if capitals then toCapitals text else text
  match value with
  | .finite negative mantissa exponent =>
    let (num, den) := Binary64.fraction mantissa exponent
    let digits :=
      match s.letter.toLower with
      | 'f' => Binary64.fixedPlaces s.full places num den
      | 'e' => Binary64.scientificPlaces s.full places num den
      | _ => Binary64.significant s.full places num den
    s.fillNumber negative "" (cased (String.ofList digits))
  | .infinite negative => s.fillNumber negative "" (cased "inf")
  | .nan => s.fillNumber false "" (cased "nan")

/-- A value as a fractional number; an integer must not be too large for one. -/
def fractionOf? : Json → Option Binary64
  | .float value => some value
  | value =>
    match value.int? with
    | none => none
    | some n =>
      match Binary64.ofRatio (n < 0) n.natAbs 1 with
      | .infinite _ => none
      | value => some value

/-- The integer of a number, a fraction cut off. -/
def wholeOf? : Json → Option Int
  | .float value => value.truncate?
  | value => value.int?

/-- An integer in decimal digits, `none` if it has too many. -/
def decimal? (s : Shape) (n : Int) : Option String :=
  match Numeral.decimalWithin n with
  | .ok _ => some (s.integer 10 "" false n)
  | .error _ => none

/-- A value as a single character. -/
def characterOf? : Json → Option String
  | .str text => if text.length = 1 then some text else none
  | value =>
    match value.int? with
    | some n => if 0 ≤ n && n < 0x110000 then some (String.singleton (Char.ofNat n.toNat)) else none
    | none => none

/-- Write an argument; `none` if it is not of the kind that the letter asks for. -/
def show? (s : Shape) (argument : Json) : Option String :=
  match s.letter with
  | 's' => if argument.withinLimit then some (s.text argument.display) else none
  | 'r' => if argument.withinLimit then some (s.text argument.literal) else none
  | 'a' =>
    if argument.withinLimit then some (s.text (Quoted.escapeBeyondAscii argument.literal)) else none
  | 'd' | 'i' | 'u' => (wholeOf? argument).bind s.decimal?
  | 'x' => argument.int?.map (s.integer 16 "0x" false)
  | 'X' => argument.int?.map (s.integer 16 "0X" true)
  | 'o' => argument.int?.map (s.integer 8 "0o" false)
  | 'c' => (characterOf? argument).map s.fillText
  | 'e' | 'E' | 'f' | 'F' | 'g' | 'G' => (fractionOf? argument).map s.fractional
  | _ => none

end Shape

/-- Write the argument of a directive, with the source for the directives behind it. -/
def Directive.write? (d : Directive) (source : Source) : Option (String × Source) := do
  let source ←
    match d.field? with
    | some name => source.reach? name
    | none => some source
  let (width, source) ← source.measure? d.width?
  let (precision, source) ← source.measure? d.precision?
  let (argument, source) ← source.take?
  let shown ← (Shape.ofDirective d width precision).show? argument
  return (shown, source)

/-! ## Filling in -/

/-- Fill in the directives of a text; the fuel is the length of the text. -/
def fillFrom : Nat → Source → List Char → Option (List Char)
  | _, source, [] => if source.isUsedUp then some [] else none
  | 0, _, _ => none
  | fuel + 1, source, '%' :: '%' :: rest => (fillFrom fuel source rest).map ('%' :: ·)
  | fuel + 1, source, '%' :: rest => do
    let (d, behind) ← splitDirective rest
    let (shown, source) ← d.write? source
    let tail ← fillFrom fuel source behind
    return shown.toList ++ tail
  | fuel + 1, source, c :: rest => (fillFrom fuel source rest).map (c :: ·)

/-- The text of a template with its arguments; `none` if they do not fit. Without arguments a template
    stands for itself. -/
def fill? (template : String) (arguments : List Json) : Option String :=
  let run (source : Source) : Option String :=
    (fillFrom (template.length + 1) source template.toList).map String.ofList
  match arguments with
  | [] => some template
  | [.obj (field :: fields)] => run (.object (field :: fields) (some (.obj (field :: fields))))
  | arguments => run (.inOrder arguments)

end EvmScope.Template
