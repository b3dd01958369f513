import EvmScope.Json.Value
import EvmScope.Table
import EvmScope.Text.Blank
import EvmScope.Text.Numeral
import EvmScope.Text.Search

set_option autoImplicit false

/-! # Checking the fields of an object

Records such as the settings are read from objects whose fields are checked one by one. Every check
gives a value or an `Issue`, the issues of all fields are collected in the order of the fields, and a
record is made only if there are none.

Integers may come as numbers without fraction, truth values, or decimal text; truth values also as the
usual words and as zero and one. -/

namespace EvmScope

/-- What is wrong with a field. -/
inductive IssueKind
  | missing
  | stringType
  | intType
  | intParsing
  | intParsingSize
  | intFromFloat
  | boolType
  | boolParsing
  | enumeration
  | literalError
  | greaterThan
  | greaterThanEqual
  | extraForbidden
  | notFinite
  | dictType
  deriving DecidableEq, Repr

/-- The word for a kind of issue. -/
def IssueKind.name : IssueKind → String
  | missing => "missing"
  | stringType => "string_type"
  | intType => "int_type"
  | intParsing => "int_parsing"
  | intParsingSize => "int_parsing_size"
  | intFromFloat => "int_from_float"
  | boolType => "bool_type"
  | boolParsing => "bool_parsing"
  | enumeration => "enum"
  | literalError => "literal_error"
  | greaterThan => "greater_than"
  | greaterThanEqual => "greater_than_equal"
  | extraForbidden => "extra_forbidden"
  | notFinite => "finite_number"
  | dictType => "dict_type"

/-- A field and what is wrong with it. -/
structure Issue where
  field : String
  kind : IssueKind
  deriving DecidableEq, Repr

/-- The outcome of checking one value. -/
abbrev Checked (α : Type) := Except IssueKind α

namespace Schema

/-! ## Single values -/

/-- A string. -/
def string : Json → Checked String
  | .str text => .ok text
  | _ => .error .stringType

/-- A string or null. -/
def stringOrNull : Json → Checked (Option String)
  | .null => .ok none
  | value => (string value).map some

/-- A blank that text values may be surrounded by: the Unicode white space without the information
    separators. -/
def isTextBlank (c : Char) : Bool :=
  isBlank c && !(28 ≤ c.toNat && c.toNat ≤ 31)

/-- A digit other than zero. -/
def isLeadingDigit (c : Char) : Bool := '1' ≤ c && c ≤ '9'

/-- Pass over the zeros that a numeral begins with, and the underscores between and behind them, up to a
    digit, a minus or the last zero in front of a point; `last` is the character before. A numeral of
    nothing else keeps its last character. -/
def dropZerosBehind (last : Char) : List Char → Option (List Char)
  | [] => some [last]
  | c :: rest =>
    if c = '0' || c = '_' then dropZerosBehind c rest
    else if isLeadingDigit c || c = '-' then some (c :: rest)
    else if c = '.' then some (last :: c :: rest)
    else none

/-- A numeral without its leading zeros; `none` if it does not begin with a digit. -/
def dropLeadingZeros : List Char → Option (List Char)
  | [] => none
  | c :: rest =>
    if c = '0' then dropZerosBehind c rest else if isLeadingDigit c then some (c :: rest) else none

/-- Drop a fraction that consists of zeros, at least one. -/
def dropZeroFraction (cs : List Char) : List Char :=
  match cs.dropWhile (· ≠ '.') with
  | _ :: zero :: zeros => if (zero :: zeros).all (· = '0') then cs.takeWhile (· ≠ '.') else cs
  | _ => cs

/-- Drop the underscores of a numeral if they stand alone and within it. -/
def dropUnderscores (cs : List Char) : List Char :=
  if cs.head? = some '_' || cs.getLast? = some '_' || containsText (String.ofList cs) "__" then cs
  else cs.filter (· ≠ '_')

/-- The number of ASCII digits with no leading zero, with a minus in front if it is negative. -/
def plainInt? (cs : List Char) : Option Int :=
  let digits := if cs.head? = some '-' then cs.drop 1 else cs
  if digits.isEmpty || !digits.all (fun c => '0' ≤ c && c ≤ '9')
      || (digits.head? = some '0' && 1 < digits.length) then none
  else
    let n : Int := Numeral.ofDigits 10 (Numeral.runDigits 10 digits)
    some (if cs.head? = some '-' then -n else n)

/-- The numeral in a text: blanks around it, a plus, zeros in front, a fraction of zeros and
    underscores between digits are passed over. -/
def bareNumeral? (text : String) : Option (List Char) :=
  let cs := trimChars isTextBlank text.toList
  let (sign, rest) : List Char × List Char :=
    match cs with
    | '-' :: rest => (['-'], rest)
    | '+' :: rest => ([], rest)
    | cs => ([], cs)
  (dropLeadingZeros rest).map (fun cs => dropUnderscores (sign ++ dropZeroFraction cs))

/-- The integer of a text. Its numeral consists of ASCII digits with a minus in front if it is negative,
    and its length, the minus included, has a limit. -/
def intOfText (text : String) : Checked Int :=
  match bareNumeral? text with
  | none => .error .intParsing
  | some cs =>
    if Numeral.maxDigits < (String.ofList cs).utf8ByteSize then .error .intParsingSize
    else
      match plainInt? cs with
      | some n => .ok n
      | none => .error .intParsing

/-- The integers that floating-point numbers stand for lie strictly between these bounds. -/
def floatBound : Int := (Nat.pow 2 63 : Nat)

/-- The integer of a floating-point number. -/
def intOfFloat (value : Binary64) : Checked Int :=
  match value.truncate? with
  | none => .error .notFinite
  | some n =>
    if !value.isIntegral then .error .intFromFloat
    else if -floatBound < n && n < floatBound then .ok n
    else .error .intParsingSize

/-- An integer. -/
def int : Json → Checked Int
  | .int value => .ok value
  | .bool value => .ok (if value then 1 else 0)
  | .float value => intOfFloat value
  | .str text => intOfText text
  | _ => .error .intType

/-- An integer that is not below a bound. -/
def intFrom (least : Int) (value : Json) : Checked Int :=
  match int value with
  | .error e => .error e
  | .ok n => if least ≤ n then .ok n else .error .greaterThanEqual

/-- An integer above a bound. -/
def intAbove (bound : Int) (value : Json) : Checked Int :=
  match int value with
  | .error e => .error e
  | .ok n => if bound < n then .ok n else .error .greaterThan

/-- The words for true. -/
def trueWords : List String := ["1", "on", "t", "true", "y", "yes"]

/-- The words for false. -/
def falseWords : List String := ["0", "off", "f", "false", "n", "no"]

/-- The truth value of an integer. -/
def boolOfInt (value : Int) : Checked Bool :=
  if value = 1 then .ok true
  else if value = 0 then .ok false
  else if -floatBound ≤ value && value < floatBound then .error .boolParsing
  else .error .boolType

/-- A truth value. -/
def bool : Json → Checked Bool
  | .bool value => .ok value
  | .int value => boolOfInt value
  | .float value =>
    match intOfFloat value with
    | .ok n => boolOfInt n
    | .error _ => .error .boolType
  | .str text =>
    let word := String.ofList (text.toList.map Char.toLower)
    if trueWords.contains word then .ok true
    else if falseWords.contains word then .ok false
    else .error .boolParsing
  | _ => .error .boolType

/-! ## Fields -/

/-- A check in progress: a value, which counts only if there are no issues. -/
structure Reading (α : Type) where
  value : α
  issues : List Issue

/-- Check a field that must be there; `filler` stands in for the value if there is an issue. -/
def required {α : Type} (fields : List (String × Json)) (name : String)
    (check : Json → Checked α) (filler : α) : Reading α :=
  match fields.lookup name with
  | none => ⟨filler, [⟨name, .missing⟩]⟩
  | some value =>
    match check value with
    | .ok result => ⟨result, []⟩
    | .error kind => ⟨filler, [⟨name, kind⟩]⟩

/-- Check a field that has a default. -/
def optional {α : Type} (fields : List (String × Json)) (name : String)
    (check : Json → Checked α) (default : α) : Reading α :=
  match fields.lookup name with
  | none => ⟨default, []⟩
  | some value =>
    match check value with
    | .ok result => ⟨result, []⟩
    | .error kind => ⟨default, [⟨name, kind⟩]⟩

/-- The issues of the fields that are not among the known names. -/
def unexpected (fields : List (String × Json)) (known : List String) : List Issue :=
  (fields.filter (fun field => !known.contains field.1)).map (fun field => ⟨field.1, .extraForbidden⟩)

end Schema

end EvmScope
