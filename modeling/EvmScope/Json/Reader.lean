import EvmScope.Json.Value
import EvmScope.Table
import EvmScope.Text.Numeral

set_option autoImplicit false

/-! # Reading JSON

One value with blanks around it. Beyond the standard grammar the words `NaN`, `Infinity` and
`-Infinity` are numbers. A name that an object holds twice keeps its first place and its last value. A
decimal integer over the limit on digits is refused as a numeral, nesting over the limit on levels as
too deep, and everything else that is no JSON as malformed.

Every value takes at least one character of the text and every list of items another, so twice the length
of the text bounds the recursion; what is left of that bound is also more than a string is long. -/

namespace EvmScope.Json

/-- Why a text is no JSON value. -/
inductive ReadError
  /-- The text breaks the grammar. -/
  | malformed
  /-- An integer has more digits than can be converted. -/
  | numeral (cause : NumeralError)
  /-- Arrays and objects are nested deeper than is allowed. -/
  | tooDeep
  deriving DecidableEq, Repr

/-- A blank between tokens. -/
def isGap (c : Char) : Bool :=
  c = ' ' || c.toNat = 9 || c.toNat = 10 || c.toNat = 13

/-- Pass over blanks. -/
def skipGaps (cs : List Char) : List Char :=
  cs.dropWhile isGap

/-! ## Strings -/

/-- The value of four hexadecimal digits in front of a text. -/
def fourHex? : List Char → Option (Nat × List Char)
  | a :: b :: c :: d :: rest =>
    match Numeral.digitValue? 16 a, Numeral.digitValue? 16 b, Numeral.digitValue? 16 c,
      Numeral.digitValue? 16 d with
    | some a, some b, some c, some d => some (((a * 16 + b) * 16 + c) * 16 + d, rest)
    | _, _, _, _ => none
  | _ => none

/-- The character of a code unit; a surrogate on its own is replaced. -/
def unitChar (n : Nat) : Char :=
  if 0xD800 ≤ n && n ≤ 0xDFFF then Char.ofNat 0xFFFD else Char.ofNat n

/-- The character a letter stands for behind a backslash. -/
def shortEscape? (c : Char) : Option Char :=
  if c = Quoted.double || c = Quoted.backslash || c = '/' then some c
  else if c = 'b' then some (Char.ofNat 8)
  else if c = 'f' then some (Char.ofNat 12)
  else if c = 'n' then some (Char.ofNat 10)
  else if c = 'r' then some (Char.ofNat 13)
  else if c = 't' then some (Char.ofNat 9)
  else none

/-- The low surrogate escape in front of a text. -/
def lowSurrogate? : List Char → Option (Nat × List Char)
  | slash :: 'u' :: rest =>
    if slash = Quoted.backslash then
      match fourHex? rest with
      | some (n, rest) => if 0xDC00 ≤ n && n ≤ 0xDFFF then some (n, rest) else none
      | none => none
    else none
  | _ => none

/-- The character of an escape with hexadecimal digits, which may span two escapes. -/
def hexEscape? (cs : List Char) : Option (Char × List Char) :=
  match fourHex? cs with
  | none => none
  | some (n, rest) =>
    if 0xD800 ≤ n && n ≤ 0xDBFF then
      match lowSurrogate? rest with
      | some (low, rest) =>
        some (Char.ofNat (0x10000 + (n - 0xD800) * 0x400 + (low - 0xDC00)), rest)
      | none => some (unitChar n, rest)
    else some (unitChar n, rest)

/-- The rest of a string behind its opening quote; `out` holds the characters read, last first. -/
def readString : Nat → List Char → List Char → Option (String × List Char)
  | 0, _, _ => none
  | _ + 1, _, [] => none
  | fuel + 1, out, c :: rest =>
    if c = Quoted.double then some (String.ofList out.reverse, rest)
    else if c = Quoted.backslash then
      match rest with
      | 'u' :: more =>
        match hexEscape? more with
        | some (d, more) => readString fuel (d :: out) more
        | none => none
      | e :: more =>
        match shortEscape? e with
        | some d => readString fuel (d :: out) more
        | none => none
      | [] => none
    else if c.toNat < 32 then none
    else readString fuel (c :: out) rest

/-! ## Numbers -/

/-- A decimal digit of ASCII. -/
def isPlainDigit (c : Char) : Bool :=
  '0' ≤ c && c ≤ '9'

/-- The integer part of a number without sign: a zero alone or digits that do not start with one. -/
def splitWhole : List Char → Option (List Char × List Char)
  | '0' :: rest => some (['0'], rest)
  | cs =>
    let digits := cs.takeWhile isPlainDigit
    if digits.isEmpty then none else some (digits, cs.dropWhile isPlainDigit)

/-- The digits behind a decimal point, none where no digit follows it. -/
def splitFraction : List Char → List Char × List Char
  | '.' :: rest =>
    let digits := rest.takeWhile isPlainDigit
    if digits.isEmpty then ([], '.' :: rest) else (digits, rest.dropWhile isPlainDigit)
  | cs => ([], cs)

/-- The exponent of a number, `none` where the text does not go on with one. -/
def splitExponent : List Char → Option Int × List Char
  | e :: rest =>
    if e = 'e' || e = 'E' then
      let (negative, digitsOn) := Numeral.splitSign rest
      let digits := digitsOn.takeWhile isPlainDigit
      if digits.isEmpty then (none, e :: rest)
      else
        let n : Int := Numeral.ofDigits 10 (Numeral.runDigits 10 digits)
        (some (if negative then -n else n), digitsOn.dropWhile isPlainDigit)
    else (none, e :: rest)
  | [] => (none, [])

/-- A number behind its sign. -/
def readUnsigned (negative : Bool) (cs : List Char) : Except ReadError (Json × List Char) :=
  match splitWhole cs with
  | none => .error .malformed
  | some (whole, rest) =>
    let (fraction, rest) := splitFraction rest
    let (exponent, rest) := splitExponent rest
    if fraction.isEmpty && exponent.isNone then
      if Numeral.maxDigits < whole.length then .error (.numeral (.tooLong whole.length))
      else
        let n : Int := Numeral.ofDigits 10 (Numeral.runDigits 10 whole)
        .ok (.int (if negative then -n else n), rest)
    else
      let digits := Numeral.ofDigits 10 (Numeral.runDigits 10 (whole ++ fraction))
      let exponent := exponent.getD 0 - fraction.length
      .ok (.float (Binary64.ofDecimal negative digits exponent), rest)

/-! ## Values -/

/-- Take a word off the front of a text. -/
def dropWord? : List Char → List Char → Option (List Char)
  | [], cs => some cs
  | w :: word, c :: cs => if w = c then dropWord? word cs else none
  | _ :: _, [] => none

/-- The words that stand for a value. -/
def words : List (List Char × Json) :=
  [ ("null".toList, .null), ("true".toList, .bool true), ("false".toList, .bool false),
    ("NaN".toList, .float .nan), ("Infinity".toList, .float (.infinite false)),
    ("-Infinity".toList, .float (.infinite true)) ]

/-- A word or a number in front of a text. -/
def readScalar (cs : List Char) : Except ReadError (Json × List Char) :=
  match words.findSome? (fun (word, value) => (dropWord? word cs).map (value, ·)) with
  | some found => .ok found
  | none =>
    match cs with
    | '-' :: rest => readUnsigned true rest
    | cs => readUnsigned false cs

mutual

/-- A value in front of a text; in it arrays and objects may be nested `levels` deep. -/
def readValue : Nat → Nat → List Char → Except ReadError (Json × List Char)
  | 0, _, _ => .error .malformed
  | _ + 1, _, [] => .error .malformed
  | fuel + 1, levels, c :: rest =>
    if c = Quoted.double then
      match readString fuel [] rest with
      | some (text, rest) => .ok (.str text, rest)
      | none => .error .malformed
    else if c = '[' then
      match levels, skipGaps rest with
      | 0, _ => .error .tooDeep
      | _ + 1, ']' :: rest => .ok (.arr [], rest)
      | inner + 1, rest => readItems fuel inner [] rest
    else if c = '\x7b' then
      match levels, skipGaps rest with
      | 0, _ => .error .tooDeep
      | _ + 1, '\x7d' :: rest => .ok (.obj [], rest)
      | inner + 1, rest => readFields fuel inner [] rest
    else readScalar (c :: rest)

/-- The items of an array from one on; `out` holds the items read, last first. -/
def readItems : Nat → Nat → List Json → List Char → Except ReadError (Json × List Char)
  | 0, _, _, _ => .error .malformed
  | fuel + 1, levels, out, cs =>
    match readValue fuel levels cs with
    | .error e => .error e
    | .ok (item, rest) =>
      match skipGaps rest with
      | ',' :: rest => readItems fuel levels (item :: out) (skipGaps rest)
      | ']' :: rest => .ok (.arr (item :: out).reverse, rest)
      | _ => .error .malformed

/-- The fields of an object from one on. -/
def readFields : Nat → Nat → List (String × Json) → List Char → Except ReadError (Json × List Char)
  | 0, _, _, _ => .error .malformed
  | fuel + 1, levels, out, cs =>
    match cs with
    | [] => .error .malformed
    | c :: rest =>
      if c = Quoted.double then
        match readString fuel [] rest with
        | none => .error .malformed
        | some (name, rest) =>
          match skipGaps rest with
          | ':' :: rest =>
            match readValue fuel levels (skipGaps rest) with
            | .error e => .error e
            | .ok (value, rest) =>
              let out := Table.put out name value
              match skipGaps rest with
              | ',' :: rest => readFields fuel levels out (skipGaps rest)
              | '\x7d' :: rest => .ok (.obj out, rest)
              | _ => .error .malformed
          | _ => .error .malformed
      else .error .malformed

end

/-- How deep arrays and objects may be nested unless another depth is given. -/
def standardLevels : Nat := 985

/-- Read a text that holds one value, in which arrays and objects may be nested `levels` deep. -/
def read (text : String) (levels : Nat := standardLevels) : Except ReadError Json :=
  let cs := text.toList
  match readValue (2 * cs.length + 1) levels (skipGaps cs) with
  | .error e => .error e
  | .ok (value, rest) => if (skipGaps rest).isEmpty then .ok value else .error .malformed

end EvmScope.Json
