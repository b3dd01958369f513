import EvmScope.Fault
import EvmScope.Json.Literal
import EvmScope.Storage.Word
import EvmScope.Text.Newline

set_option autoImplicit false

/-! # Checking arguments

Addresses, transaction hashes and arguments of calls come as text. Each kind has a grammar on the
characters of the text; a line end behind the text does no harm. Integers must also lie in the range of
their type, and bytes must not exceed its size. Types without a rule of their own take any text that is
not empty. The range of an integer type is bounded by a power of two that is computed; how many bits there is
memory for is up to the machine, so every check takes it as a parameter. -/

namespace EvmScope

/-- What is wrong with an argument. -/
inductive ArgumentProblem
  | emptyAddress
  | badAddress
  | emptyHash
  | badHash
  | zeroAddress
  | empty
  | notUnsigned
  | notInteger
  | beyondUnsigned (bits : Nat)
  | beyondSigned (bits : Nat)
  | notBool
  | notBytes
  /-- There are more bytes than the size in the type, shown as the type writes it. -/
  | tooManyBytes (size : String)
  deriving DecidableEq, Repr

/-- A problem in words. -/
def ArgumentProblem.message : ArgumentProblem → String
  | emptyAddress => "Address cannot be empty"
  | badAddress => "Invalid Ethereum address format (must be 0x followed by 40 hex characters)"
  | emptyHash => "Transaction hash cannot be empty"
  | badHash => "Invalid transaction hash format (must be 0x followed by 64 hex characters)"
  | zeroAddress => "Cannot use zero address"
  | empty => "Input cannot be empty"
  | notUnsigned => "Must be a valid unsigned integer"
  | notInteger => "Must be a valid integer"
  | beyondUnsigned bits => "Value does not fit in uint" ++ Numeral.decimal bits
  | beyondSigned bits => "Value does not fit in int" ++ Numeral.decimal bits
  | notBool => "Must be true, false, 0, or 1"
  | notBytes => "Must be 0x-prefixed hex bytes"
  | tooManyBytes size => "At most " ++ size ++ " bytes allowed"

namespace Argument

/-- The outcome of a check that was made: a problem or none. -/
abbrev Verdict := Option ArgumentProblem

/-! ## Grammars -/

/-- A hexadecimal digit of ASCII. -/
def isHexDigit (c : Char) : Bool :=
  (Numeral.digitValue? 16 c).isSome

/-- Leave out one line end behind a text. -/
def dropLineEnd (cs : List Char) : List Char :=
  if cs.getLast? = some lineFeed then cs.dropLast else cs

/-- The mark `0x` and a number of hexadecimal digits. -/
def isHexOf (length : Nat) (text : String) : Bool :=
  match dropLineEnd text.toList with
  | '0' :: 'x' :: digits => digits.length = length && digits.all isHexDigit
  | _ => false

/-- The mark `0x` and pairs of hexadecimal digits. -/
def isHexBytes (text : String) : Bool :=
  match dropLineEnd text.toList with
  | '0' :: 'x' :: digits => digits.length % 2 = 0 && digits.all isHexDigit
  | _ => false

/-- One or more decimal digits of any script. -/
def isUnsigned (text : String) : Bool :=
  let digits := dropLineEnd text.toList
  !digits.isEmpty && digits.all isDecimalDigit

/-- One or more decimal digits with a minus sign allowed in front. -/
def isSigned (text : String) : Bool :=
  match text.toList with
  | '-' :: digits => isUnsigned (String.ofList digits)
  | _ => isUnsigned text

/-! ## Addresses and hashes -/

/-- Check a value against a grammar. Fails on a value that is neither text nor absent. -/
def checkText (value : Json) (absent bad : ArgumentProblem) (fits : String → Bool) :
    Except Fault Verdict :=
  if !value.isPresent then .ok (some absent)
  else
    match value with
    | .str text => .ok (if fits text then none else some bad)
    | _ => .error .wrongKind

/-- Check an address. -/
def checkAddress (value : Json) : Except Fault Verdict :=
  checkText value .emptyAddress .badAddress (isHexOf 40)

/-- Check a transaction hash. -/
def checkHash (value : Json) : Except Fault Verdict :=
  checkText value .emptyHash .badHash (isHexOf 64)

/-- Check that a value is not the zero address. -/
def checkNotZero : Json → Except Fault Verdict
  | .null => .ok none
  | .str text => .ok (if toSmall text = Word.zeroAddress then some .zeroAddress else none)
  | _ => .error .noFields

/-! ## Types -/

/-- The types of arguments that have a rule. -/
inductive ArgumentType
  /-- An integer, signed or not, of as many bits as the digits say; 256 without digits. -/
  | integer (signed : Bool) (bits : List Char)
  | address
  | bool
  /-- Bytes, as many as the digits say at most; any number without digits. -/
  | bytes (size : List Char)
  | other
  deriving DecidableEq, Repr

/-- The rest of a text behind a word if only decimal digits follow the word. -/
def digitsBehind? (word : String) (cs : List Char) : Option (List Char) :=
  let behind := cs.drop word.length
  if word.toList.isPrefixOf cs && (dropLineEnd behind).all isDecimalDigit then
    some (dropLineEnd behind)
  else none

/-- The type that a text names. -/
def typeOf (name : String) : ArgumentType :=
  let cs := name.toList
  match digitsBehind? "uint" cs, digitsBehind? "int" cs, digitsBehind? "bytes" cs with
  | some bits, _, _ => .integer false bits
  | _, some bits, _ => .integer true bits
  | _, _, some size => .bytes size
  | _, _, _ => if name = "address" then .address else if name = "bool" then .bool else .other

/-- The number that digits in a type stand for. -/
def numberOf (digits : List Char) : Except Fault Nat :=
  ((Numeral.read .decimal (String.ofList digits)).map Int.toNat).mapError Fault.numeral

/-- The number of bits that a number can have at all: it is kept in digits of thirty bits, and there is a
    limit to their number. -/
def mostBits : Nat := 30 * (Nat.pow 2 61 - 8)

/-- The bits of memory that a number may take unless another number of them is given. -/
def standardMemory : Nat := Nat.pow 2 40

/-- The power of two with this exponent must be one that can be computed where so many bits fit into
    memory. -/
def checkPower (bits memory : Nat) : Except Fault Unit :=
  if mostBits < bits then .error .tooLarge
  else if memory < bits then .error .outOfMemory
  else .ok ()

/-- Check that an unsigned integer has no more than a number of bits. -/
def checkUnsigned (text : String) (bits memory : Nat) : Except Fault Verdict :=
  if !isUnsigned text then .ok (some .notUnsigned)
  else
    match Numeral.read .decimal text with
    | .error cause => .error (.numeral cause)
    | .ok n =>
      (checkPower bits memory).map (fun _ =>
        if Word.bitLength n ≤ bits then none else some (.beyondUnsigned bits))

/-- Check that an integer lies in the range of signed integers of a number of bits, which cannot be
    none. -/
def checkSigned (text : String) (bits memory : Nat) : Except Fault Verdict :=
  if !isSigned text then .ok (some .notInteger)
  else
    match Numeral.read .decimal text with
    | .error cause => .error (.numeral cause)
    | .ok n =>
      if bits = 0 then .error .negativeShift
      else
        let magnitude := if n < 0 then -n - 1 else n
        (checkPower (bits - 1) memory).map (fun _ =>
          if Word.bitLength magnitude ≤ bits - 1 then none else some (.beyondSigned bits))

/-- Check bytes against a size. -/
def checkBytes (text : String) (size : List Char) : Except Fault Verdict :=
  if !isHexBytes text then .ok (some .notBytes)
  else if size.isEmpty then .ok none
  else
    (numberOf size).map (fun most =>
      if most * 2 + 2 < text.length then some (.tooManyBytes (String.ofList size)) else none)

/-- The text of an argument: truth values in small letters, all else without blanks around it. An integer is
    within the limit on digits, since it was read from a JSON text (`Json.withinLimit_of_read`). -/
def textOf : Json → String
  | .bool value => if value then "true" else "false"
  | value => trimBlanks value.display

/-- Whether an argument is missing. -/
def isMissing : Json → Bool
  | .null => true
  | .str text => text = ""
  | _ => false

/-- Check a text against a type. -/
def checkTyped (text : String) (type : ArgumentType) (memory : Nat) : Except Fault Verdict :=
  match type with
  | .integer signed digits =>
    match if digits.isEmpty then .ok 256 else numberOf digits with
    | .error fault => .error fault
    | .ok bits => if signed then checkSigned text bits memory else checkUnsigned text bits memory
  | .address => checkAddress (.str text)
  | .bool =>
    .ok (if ["true", "false", "0", "1"].contains (toSmall text) then none else some .notBool)
  | .bytes size => checkBytes text size
  | .other => .ok none

/-- Check an argument against the name of its type. -/
def check (value : Json) (typeName : String) (memory : Nat := standardMemory) :
    Except Fault Verdict :=
  if isMissing value then .ok (some .empty) else checkTyped (textOf value) (typeOf typeName) memory

end Argument

end EvmScope
