import EvmScope.Fault
import EvmScope.Json.Literal
import EvmScope.Text.Casing
import EvmScope.Text.Search

set_option autoImplicit false

/-! # Storage words

Slots and values of storage are numbers. They are read from numbers or hexadecimal text and written in
hexadecimal without zeros in front, so two spellings of one number have one written form. A type name
says how a word is shown to people. -/

namespace EvmScope.Word

/-! ## Reading -/

/-- Leave out one mark `0x` in front. -/
def dropMark (text : String) : String :=
  if beginsWith text "0x" then dropChars 2 text else text

/-- The number of a hexadecimal text. -/
def ofText (text : String) : Except Fault Int :=
  let digits := dropMark (toSmall (trimBlanks text))
  if digits = "" then .error (.word .empty)
  else (Numeral.read .hexadecimal digits).mapError Fault.numeral

/-- The number of a value: hexadecimal text or an integer that is not negative. -/
def ofJson : Json → Except Fault Int
  | .str text => ofText text
  | .int value => if value < 0 then .error (.word (.negative value)) else .ok value
  | value => .error (.word (.notAWord value.literal))

/-! ## Type names -/

/-- Types with a longer name for people. -/
def friendlyNames : List (String × String) :=
  [ ("uint256", "Number (uint256)"), ("uint128", "Number (uint128)"),
    ("uint64", "Number (uint64)"), ("uint32", "Number (uint32)"),
    ("uint16", "Number (uint16)"), ("uint8", "Number (uint8)"),
    ("int256", "Signed Number (int256)"), ("int128", "Signed Number (int128)"),
    ("int64", "Signed Number (int64)"), ("int32", "Signed Number (int32)"),
    ("int16", "Signed Number (int16)"), ("int8", "Signed Number (int8)"),
    ("address", "Ethereum Address"), ("bool", "Boolean"), ("string", "Text String"),
    ("bytes", "Byte Array"), ("bytes32", "Fixed Bytes (32)") ]

/-- The name of a type for people. -/
def friendlyType (label : String) : String :=
  (friendlyNames.lookup label).getD label

/-- Zero. -/
def zeroText : String := Numeral.hex 0

/-- The number of digits of an address. -/
def addressDigits : Nat := 40

/-- The address of digits zero. -/
def zeroAddress : String :=
  "0x" ++ String.ofList (List.replicate addressDigits '0')

/-- The value of a fresh variable of a type. -/
def defaultText (label : String) : String :=
  if label = "address" then zeroAddress else zeroText

/-- The type that the written form of a word suggests. -/
def inferType (written : String) : String :=
  let digits := dropMark written
  if digits = "0" || digits = "1" then "Boolean or Number"
  else if digits.length = addressDigits then "Likely Address"
  else if digits.length ≤ 4 then "Small Number"
  else "Number or Bytes"

/-- The number of binary digits of a magnitude. -/
def bitLength (n : Int) : Nat :=
  if n = 0 then 0 else n.natAbs.log2 + 1

/-- A word written with at least `width` characters behind the mark, zeros filling up behind the
    sign. -/
def paddedHex (width : Nat) (n : Int) : String :=
  let sign := if n < 0 then "-" else ""
  let digits := String.ofList (Nat.toDigits 16 n.natAbs)
  "0x" ++ sign ++ padLeft (width - sign.length) '0' digits

/-- The type that the value of a word suggests. A value of the size of an address counts as one even
    if its first digits are zeros. -/
def inferTypeOf (n : Int) : String :=
  let bits := bitLength n
  inferType (if 153 ≤ bits && bits ≤ 160 then paddedHex addressDigits n else Numeral.hex n)

/-! ## Display -/

/-- The decimal form of hexadecimal digits, or the written word where there is none. -/
def displayNumber (written digits : String) : String :=
  match Numeral.read? .hexadecimal digits with
  | some n => (Numeral.decimalWithin n).toOption.getD written
  | none => written

/-- A word of a type that is not known. -/
def displayPlain (written digits : String) : String :=
  if digits = "0" || digits = "1" then digits
  else if digits.length = addressDigits then "0x" ++ toSmall digits
  else written

/-- A written word as people read it; the type decides, if there is one. -/
def display (written : String) (type? : Option String) : String :=
  let digits := dropMark written
  let type := type?.getD ""
  if written = "" then "null"
  else if containsText type "Boolean" then
    (if digits.toList.all (· = '0') then "false" else "true")
  else if containsText type "Address" then "0x" ++ padLeft addressDigits '0' (toSmall digits)
  else if containsText type "Number" then displayNumber written digits
  else displayPlain written digits

end EvmScope.Word
