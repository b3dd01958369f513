import EvmScope.Json.Value
import EvmScope.Text.Casing
import EvmScope.Text.Numeral

set_option autoImplicit false

/-! # Entries of an execution trace

One entry of a struct-log trace records one executed instruction. An entry is kept if each of its
fields can be read; integers may come as numbers or as decimal or hexadecimal text, and stack words as
text or as numbers. Names of instructions are put in capital letters. -/

namespace EvmScope

/-- One executed instruction. -/
structure TraceEntry where
  /-- The offset of the instruction in its code. -/
  pc : Int
  /-- The name of the instruction. -/
  op : String
  /-- The gas that remained before it. -/
  gas : Int
  /-- The gas it took, if recorded. -/
  gasCost : Option Int
  /-- The depth of its call frame. -/
  depth : Int
  /-- The stack words before it, the top word last. -/
  stack : List String
  deriving DecidableEq, Repr

namespace TraceEntry

/-- The integer of a text: hexadecimal if it starts with `0x`, else decimal. -/
def intOfText? (text : String) : Option Int :=
  let text := trimBlanks text
  match text.toList with
  | '0' :: mark :: _ =>
    Numeral.read? (if mark = 'x' || mark = 'X' then .hexadecimal else .decimal) text
  | _ => Numeral.read? .decimal text

/-- The integers that floating-point numbers stand for lie strictly between these bounds. -/
def floatBound : Int := (Nat.pow 2 63 : Nat)

/-- The integer of a value: a number without fraction, a truth value, or text. -/
def int? : Json → Option Int
  | .int value => some value
  | .bool value => some (if value then 1 else 0)
  | .str text => intOfText? text
  | .float value =>
    match value.truncate? with
    | some n => if value.isIntegral && -floatBound < n && n < floatBound then some n else none
    | none => none
  | _ => none

/-- One stack word: text as it is, a number in hexadecimal. -/
def word? : Json → Option String
  | .str text => some text
  | .int value => some (Numeral.hex value)
  | .bool value => some (Numeral.hex (if value then 1 else 0))
  | _ => none

/-- The words of a stack; a null stack is empty. -/
def stack? : Json → Option (List String)
  | .null => some []
  | .arr items => items.mapM word?
  | _ => none

/-- An integer field that may be missing. -/
def intField? (fields : List (String × Json)) (name : String) (missing : Int) : Option Int :=
  match fields.lookup name with
  | none => some missing
  | some value => int? value

/-- The recorded cost of an entry, under either of its two names; null stands for no record. -/
def gasCost? (fields : List (String × Json)) : Option (Option Int) :=
  match (fields.lookup "gasCost").or (fields.lookup "gas_cost") with
  | none => some none
  | some .null => some none
  | some value => (int? value).map some

/-- The entry of an object, `none` if a field is missing or unreadable. -/
def ofFields? (fields : List (String × Json)) : Option TraceEntry := do
  let pc ← int? (← fields.lookup "pc")
  let op ← (← fields.lookup "op").str?
  let gas ← intField? fields "gas" 0
  let gasCost ← gasCost? fields
  let depth ← intField? fields "depth" 1
  let stack ← match fields.lookup "stack" with
    | none => some []
    | some value => stack? value
  if pc < 0 then none
  else some ⟨pc, toCapitals op, gas, gasCost, depth, stack⟩

/-- The entry of a value, `none` if it is no object or not readable. -/
def ofJson? : Json → Option TraceEntry
  | .obj fields => ofFields? fields
  | _ => none

end TraceEntry

end EvmScope
