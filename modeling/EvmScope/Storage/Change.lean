import EvmScope.Schema
import EvmScope.Storage.Word
import EvmScope.Text.Quoted

set_option autoImplicit false

/-! # Changes, snapshots and entries

A change is one write to storage, attributed to a variable where one is known. The changes of one
transaction or simulated call make a snapshot, and an entry is the current value of a variable or a slot
that results from them. All three are read from and written as JSON objects. -/

namespace EvmScope

/-- One write to storage. -/
structure StateChange where
  slot : String
  oldValue : String
  newValue : String
  /-- The label of the variable that was written. -/
  variableName : Option String
  typeName : Option String
  /-- What caused the write. -/
  operation : String
  /-- The offset of the instruction that wrote. -/
  offset : Int
  /-- The depth of its call frame. -/
  depth : Int
  transactionHash : Option String
  deriving DecidableEq, Repr

namespace StateChange

/-- The key that a slot without a variable has in the current state. -/
def slotKey (slot : String) : String := "slot_" ++ slot

/-- The key of a change in the current state: its variable, else its slot. -/
def key (c : StateChange) : String :=
  match c.variableName with
  | some name => if name = "" then slotKey c.slot else name
  | none => slotKey c.slot

/-- A change as JSON. -/
def toJson (c : StateChange) : Json :=
  .obj
    [ ("slot", .str c.slot), ("old_value", .str c.oldValue), ("new_value", .str c.newValue),
      ("variable_name", Json.ofOption .str c.variableName),
      ("type_info", Json.ofOption .str c.typeName), ("operation", .str c.operation),
      ("program_counter", .int c.offset), ("call_depth", .int c.depth),
      ("transaction_hash", Json.ofOption .str c.transactionHash) ]

/-- Read a change from the fields of an object. -/
def ofFields (fields : List (String × Json)) : Except (List Issue) StateChange :=
  let slot := Schema.required fields "slot" Schema.string ""
  let oldValue := Schema.required fields "old_value" Schema.string ""
  let newValue := Schema.required fields "new_value" Schema.string ""
  let variableName := Schema.optional fields "variable_name" Schema.stringOrNull none
  let typeName := Schema.optional fields "type_info" Schema.stringOrNull none
  let operation := Schema.required fields "operation" Schema.string ""
  let offset := Schema.optional fields "program_counter" Schema.int 0
  let depth := Schema.optional fields "call_depth" Schema.int 0
  let hash := Schema.optional fields "transaction_hash" Schema.stringOrNull none
  let issues := slot.issues ++ oldValue.issues ++ newValue.issues ++ variableName.issues
    ++ typeName.issues ++ operation.issues ++ offset.issues ++ depth.issues ++ hash.issues
  if issues.isEmpty then
    .ok ⟨slot.value, oldValue.value, newValue.value, variableName.value, typeName.value,
      operation.value, offset.value, depth.value, hash.value⟩
  else .error issues

end StateChange

/-- The changes of one transaction or simulated call. -/
structure Snapshot where
  /-- The place of the snapshot in its history. -/
  id : Nat
  changes : List StateChange
  transactionHash : Option String
  /-- What the snapshot comes from, in named values. -/
  context : List (String × Json)

/-- The value of a variable or slot after some changes. -/
structure StateEntry where
  typeName : String
  value : String
  /-- The value as people read it. -/
  display : String
  previous : String
  /-- The snapshot of the last change. -/
  lastChanged : Int
  slot : String
  operation : String
  deriving DecidableEq, Repr

namespace StateEntry

/-- The entry that a change leaves behind. -/
def ofChange (snapshot : Nat) (c : StateChange) : StateEntry where
  typeName := if (c.typeName.getD "") = "" then "unknown" else c.typeName.getD ""
  value := c.newValue
  display := Word.display c.newValue c.typeName
  previous := c.oldValue
  lastChanged := snapshot
  slot := c.slot
  operation := c.operation

/-- An entry as JSON. -/
def toJson (e : StateEntry) : Json :=
  .obj
    [ ("type", .str e.typeName), ("value", .str e.value), ("display_value", .str e.display),
      ("previous_value", .str e.previous), ("last_changed", .int e.lastChanged),
      ("slot", .str e.slot), ("operation", .str e.operation) ]

/-- Read an entry from the fields of an object. -/
def ofFields (fields : List (String × Json)) : Except (List Issue) StateEntry :=
  let typeName := Schema.required fields "type" Schema.string ""
  let value := Schema.required fields "value" Schema.string ""
  let display := Schema.required fields "display_value" Schema.string ""
  let previous := Schema.required fields "previous_value" Schema.string ""
  let lastChanged := Schema.required fields "last_changed" Schema.int 0
  let slot := Schema.required fields "slot" Schema.string ""
  let operation := Schema.required fields "operation" Schema.string ""
  let issues := typeName.issues ++ value.issues ++ display.issues ++ previous.issues
    ++ lastChanged.issues ++ slot.issues ++ operation.issues
  if issues.isEmpty then
    .ok ⟨typeName.value, value.value, display.value, previous.value, lastChanged.value, slot.value,
      operation.value⟩
  else .error issues

end StateEntry

end EvmScope
