import EvmScope.Number.Binary64

set_option autoImplicit false

/-! # JSON values

The values that documents and execution traces are made of. Integers are exact and apart from
floating-point numbers: `1` and `1.0` are different values. An object keeps its fields in the order of
the document, each name once. -/

namespace EvmScope

/-- A JSON value. -/
inductive Json
  | null
  | bool (value : Bool)
  | int (value : Int)
  | float (value : Binary64)
  | str (value : String)
  | arr (items : List Json)
  | obj (fields : List (String × Json))

namespace Json

instance : Inhabited Json := ⟨.null⟩

/-- Whether a value counts as present: it is not null, false, zero, or empty. -/
def isPresent : Json → Bool
  | .null => false
  | .bool value => value
  | .int value => value != 0
  | .float value => !value.isZero
  | .str value => value != ""
  | .arr items => !items.isEmpty
  | .obj fields => !fields.isEmpty

/-- The value itself if it counts as present, else the other one. -/
def orElse (value other : Json) : Json :=
  if value.isPresent then value else other

/-- The field of a name in a list of fields. -/
def field? (name : String) (fields : List (String × Json)) : Option Json :=
  fields.lookup name

/-- The field of a name, null where the name is missing. -/
def fieldOrNull (name : String) (fields : List (String × Json)) : Json :=
  (fields.lookup name).getD .null

/-- The field of a name in a value, null where the value is no object or lacks the name. -/
def get (value : Json) (name : String) : Json :=
  match value with
  | .obj fields => fieldOrNull name fields
  | _ => .null

/-- The text of a string value. -/
def str? : Json → Option String
  | .str value => some value
  | _ => none

/-- The integer that a value stands for where integers and truth values are both taken. -/
def int? : Json → Option Int
  | .int value => some value
  | .bool value => some (if value then 1 else 0)
  | _ => none

/-- A written value, or null for none. -/
def ofOption {α : Type} (write : α → Json) : Option α → Json
  | some value => write value
  | none => .null

end Json

end EvmScope
