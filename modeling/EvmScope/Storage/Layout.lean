import EvmScope.Storage.Word

set_option autoImplicit false

/-! # Storage layouts

A compiler's storage layout says which variable lies in which bytes of which slot. A layout document is
a list of entries, alone or together with a table of types; entries without a usable slot or label are
left out. Several variables may share a slot: each has its bytes of the word. -/

namespace EvmScope

/-- A variable in storage. -/
structure StorageVariable where
  slot : Int
  label : String
  /-- The type as the compiler identifies it. -/
  typeId : String
  /-- The type as the source names it. -/
  typeLabel : String
  /-- The number of bytes of the slot below those of the variable. -/
  offset : Int
  /-- The number of bytes of the variable, one to thirty-two. -/
  byteCount : Int
  deriving DecidableEq, Repr

namespace StorageVariable

/-- The written form of the slot. -/
def slotText (v : StorageVariable) : String := Numeral.hex v.slot

/-- Whether the variable does not fill its slot. -/
def isPacked (v : StorageVariable) : Bool := 0 < v.offset || v.byteCount < 32

/-- The bytes of the variable within a word. -/
def extract (v : StorageVariable) (word : Int) : Except Fault Int :=
  if v.offset < 0 then .error .negativeShift
  else .ok (word.shiftRight (v.offset * 8).toNat % (Nat.pow 2 (v.byteCount * 8).toNat : Nat))

/-- A variable as JSON. -/
def toJson (v : StorageVariable) : Json :=
  .obj
    [ ("slot", .int v.slot), ("label", .str v.label), ("solidity_type", .str v.typeId),
      ("type_label", .str v.typeLabel), ("offset", .int v.offset),
      ("number_of_bytes", .int v.byteCount) ]

end StorageVariable

namespace Layout

/-! ## Numbers in entries -/

/-- The integer of a number or of decimal text, a fraction cut off. There is none in other values; an
    infinite number is a fault. -/
def integer? : Json → Except Fault (Option Int)
  | .float value =>
    match value with
    | .infinite _ => .error .notFinite
    | value => .ok value.truncate?
  | .str text => .ok (Numeral.read? .decimal text)
  | value => .ok value.int?

/-- The slot of an entry: an integer in any radix that its text marks. -/
def slot? (fields : List (String × Json)) : Option Int :=
  Numeral.read? .marked (((fields.lookup "slot").getD (.str "0")).display)

/-- The size of a type, a full slot where it is not told. Fails if the type is no object. -/
def size? (type : Json) : Except Fault (Option Int) :=
  if !type.isPresent then .ok (some 32)
  else
    match type with
    | .obj fields => integer? ((fields.lookup "numberOfBytes").getD (.int 32))
    | _ => .error .noFields

/-- The offset of an entry. -/
def offset? (fields : List (String × Json)) : Except Fault (Option Int) :=
  integer? ((Json.fieldOrNull "offset" fields).orElse (.int 0))

/-! ## Entries -/

/-- The name of a type: the one its description gives, else its identifier without the mark `t_`. -/
def typeLabel (typeId : String) (type : Json) : String :=
  let given := type.get "label"
  if given.isPresent then given.display
  else if beginsWith typeId "t_" then dropChars 2 typeId
  else typeId

/-- The variable of an entry, if it has a usable slot, size and offset. -/
def member? (types : List (String × Json)) (fields : List (String × Json)) (label : Json) :
    Except Fault (Option StorageVariable) :=
  let typeId := ((fields.lookup "type").getD (.str "")).display
  let type := Json.fieldOrNull typeId types
  match slot? fields with
  | none => .ok none
  | some slot =>
    match size? type with
    | .error e => .error e
    | .ok none => .ok none
    | .ok (some size) =>
      (offset? fields).map (fun offset? => offset?.map (fun offset =>
        { slot := slot
          label := label.display
          typeId := typeId
          typeLabel := typeLabel typeId type
          offset := offset
          byteCount := min (max size 1) 32 }))

/-- The variable of a value in the list of entries. -/
def ofItem? (types : List (String × Json)) : Json → Except Fault (Option StorageVariable)
  | .obj fields =>
    match fields.lookup "label" with
    | some label => member? types fields label
    | none => .ok none
  | _ => .ok none

/-- The variables of a list of entries. -/
def ofEntries (types : List (String × Json)) (entries : List Json) :
    Except Fault (List StorageVariable) :=
  (entries.mapM (ofItem? types)).map (fun found => found.filterMap id)

/-! ## Documents -/

/-- The table of types of a document. -/
def typesOf : Json → List (String × Json)
  | .obj types => types
  | _ => []

/-- Read a layout document. Fails if something that cannot be gone through stands in place of the
    entries. -/
def read : Json → Except Fault (List StorageVariable)
  | .arr entries => ofEntries [] entries
  | .obj fields =>
    match Json.fieldOrNull "storage" fields with
    | .arr entries => ofEntries (typesOf (Json.fieldOrNull "types" fields)) entries
    | .str _ | .obj _ => .ok []
    | value => if value.isPresent then .error .wrongKind else .ok []
  | _ => .ok []

/-- The variables of a slot. -/
def variablesAt (declared : List StorageVariable) (slot : String) : List StorageVariable :=
  declared.filter (fun v => v.slotText == slot)

end Layout

end EvmScope
