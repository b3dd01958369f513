import EvmScope.Storage.Projection

set_option autoImplicit false

/-! # Likely effects of a call

What a call does to the state is guessed from the name of its function: transfers move an amount between
balances, minting and burning change the supply, setters store their argument, and any other function
counts the first variable up that may change. A `Draft` holds the state under way with the changes made;
it is kept only if every step succeeds. -/

namespace EvmScope

/-- A state under way. -/
structure Draft where
  state : Projection
  /-- The changes so far, the last one first. -/
  changes : List StateChange

namespace Draft

/-! ## Finding variables -/

/-- The variable of a name in any letter case, else the first one whose key contains the name. -/
def find? (d : Draft) (name : String) : Option String :=
  let wanted := toSmall name
  let keys := Table.keys d.state
  (keys.find? (fun key => toSmall key == wanted)).or
    (keys.find? (fun key => containsText (toSmall key) wanted))

/-- Whether a variable may change by its name. -/
def isMutable (key : String) : Bool :=
  let key := toSmall key
  !containsText key "constant" && !containsText key "immutable"

/-- The first variable that may change, else the first one. -/
def findMutable? (d : Draft) : Option String :=
  let keys := Table.keys d.state
  (keys.find? isMutable).or keys.head?

/-! ## Values -/

/-- The number that an entry holds. -/
def numberAt (d : Draft) (key : String) : Except Fault Int :=
  match d.state.lookup key with
  | none => .error .noEntry
  | some entry => (Numeral.read .hexadecimal entry.value).mapError Fault.numeral

/-- The number that an argument stands for. -/
def amountOf : Json → Except Fault Int
  | .bool value => .ok (if value then 1 else 0)
  | .int value => .ok value
  | value => (Numeral.read .marked (trimBlanks value.display)).mapError Fault.numeral

/-- The bytes of the UTF-8 form of a text in hexadecimal digits. -/
def utf8Hex (text : String) : String :=
  String.ofList (text.toUTF8.toList.flatMap (fun byte => Quoted.hexPadded 2 byte.toNat))

/-- The word that an argument is stored as: numbers in hexadecimal, other text by its bytes. -/
def wordOf : Json → Except Fault String
  | .bool value => .ok (Numeral.hex (if value then 1 else 0))
  | .int value => .ok (Numeral.hex value)
  | value =>
    let text := value.display
    if beginsWith text "0x" then .ok (toSmall text)
    else if !text.isEmpty && text.toList.all isDigitLike then
      ((Numeral.read .decimal text).map Numeral.hex).mapError Fault.numeral
    else .ok ("0x" ++ utf8Hex text)

/-! ## Writing -/

/-- Write a word to an entry. -/
def write (d : Draft) (key word operation : String) : Except Fault Draft :=
  match d.state.lookup key with
  | none => .error .noEntry
  | some entry =>
    let change : StateChange :=
      { slot := if entry.slot = "" then "0x0" else entry.slot
        oldValue := entry.value
        newValue := word
        variableName := if beginsWith key "slot_" then none else some key
        typeName := some entry.typeName
        operation := operation
        offset := 0
        depth := 0
        transactionHash := none }
    let entry :=
      { entry with
        value := word
        display := Word.display word (some entry.typeName)
        previous := entry.value
        operation := operation }
    .ok ⟨Table.put d.state key entry, change :: d.changes⟩

/-- Write a number to an entry. Fails if it is negative. -/
def writeNumber (d : Draft) (key : String) (value : Int) (operation : String) :
    Except Fault Draft :=
  if value < 0 then .error (.underflow key) else d.write key (Numeral.hex value) operation

/-! ## Effects -/

/-- Move an amount from the balance variable to the balance of a recipient, if the state has one. -/
def transfer (d : Draft) (recipient amount : Json) : Except Fault Draft :=
  match d.find? "balance" with
  | none => .ok d
  | some source => do
    let amount ← amountOf amount
    let held ← d.numberAt source
    let debited ← d.writeNumber source (held - amount) "TRANSFER_FROM"
    let target := recipient.display ++ "_balance"
    if (debited.state.lookup target).isNone then return debited
    let balance ← debited.numberAt target
    debited.writeNumber target (balance + amount) "TRANSFER_TO"

/-- Change the supply by an amount, up or down. -/
def changeSupply (d : Draft) (amount : Json) (sign : Int) (operation : String) :
    Except Fault Draft :=
  match d.find? "totalSupply" with
  | none => .ok d
  | some supply => do
    let held ← d.numberAt supply
    let amount ← amountOf amount
    d.writeNumber supply (held + sign * amount) operation

/-- Store an argument in the variable that a setter is named for. -/
def assign (d : Draft) (variableName : String) (value : Json) : Except Fault Draft :=
  match d.find? variableName with
  | none => .ok d
  | some target => do
    let word ← wordOf value
    d.write target word "SET"

/-- Count the first variable that may change up by one. -/
def countUp (d : Draft) (operation : String) : Except Fault Draft :=
  match d.findMutable? with
  | none => .ok d
  | some target => do
    let held ← d.numberAt target
    d.writeNumber target (held + 1) operation

/-- The effect of a call by the name of its function. -/
def apply (d : Draft) (name : String) (arguments : List Json) : Except Fault Draft :=
  let small := toSmall name
  match arguments with
  | first :: second :: _ =>
    if containsText small "transfer" then d.transfer first second
    else applyToFirst small first
  | [first] => applyToFirst small first
  | [] => d.countUp (toCapitals name)
where
  /-- The effect of a call that is no transfer and has an argument. -/
  applyToFirst (small : String) (first : Json) : Except Fault Draft :=
    if containsText small "mint" then d.changeSupply first 1 "MINT"
    else if containsText small "burn" then d.changeSupply first (-1) "BURN"
    else if beginsWith small "set" then d.assign (dropChars 3 name) first
    else d.countUp (toCapitals name)

end Draft

end EvmScope
