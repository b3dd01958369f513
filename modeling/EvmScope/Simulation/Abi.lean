import EvmScope.Storage.History

set_option autoImplicit false

/-! # Functions of a contract

The functions that a contract's list of descriptors names. Parameters are kept as they are described;
their types are looked at only where a call needs them. -/

namespace EvmScope

/-- A function of a contract. -/
structure AbiFunction where
  name : String
  inputs : List Json
  outputs : List Json
  /-- What the function may do to the state, as the descriptor says. -/
  mutability : Json

namespace AbiFunction

/-- Whether calls of the function leave the state alone. -/
def isReadOnly (f : AbiFunction) : Bool :=
  f.mutability.str? == some "view" || f.mutability.str? == some "pure"

/-- A named field of a parameter as text, a default where it is missing. Fails on a parameter that is no
    object. -/
def typeName : Json → Except Fault String
  | .obj fields => .ok ((fields.lookup "type").getD (.str "")).display
  | _ => .error .noFields

/-- The name of the function with the types of its parameters. -/
def signature (f : AbiFunction) : Except Fault String :=
  (f.inputs.mapM typeName).map (fun types => f.name ++ "(" ++ ",".intercalate types ++ ")")

/-- The function of a descriptor; descriptors of other things have none. -/
def ofDescriptor? : Json → Except Fault (Option AbiFunction)
  | .obj fields =>
    if (Json.fieldOrNull "type" fields).str? != some "function" then .ok none
    else do
      let inputs ← History.items (Json.fieldOrNull "inputs" fields)
      let outputs ← History.items (Json.fieldOrNull "outputs" fields)
      return some
        { name := ((fields.lookup "name").getD (.str "")).display
          inputs := inputs
          outputs := outputs
          mutability := (Json.fieldOrNull "stateMutability" fields).orElse (.str "nonpayable") }
  | _ => .ok none

/-- The functions of a list of descriptors. -/
def ofAbi : Json → Except Fault (List AbiFunction)
  | .arr descriptors => (descriptors.mapM ofDescriptor?).map (fun found => found.filterMap id)
  | _ => .error (.simulation .abiNotAList)

/-- The first function that a value names, by its name or its signature. Fails if a function before it
    has a parameter without a type. -/
def find? (wanted : Json) : List AbiFunction → Except Fault (Option AbiFunction)
  | [] => .ok none
  | f :: rest =>
    match f.signature with
    | .error fault => .error fault
    | .ok signature =>
      if wanted.str? == some f.name || wanted.str? == some signature then .ok (some f)
      else find? wanted rest

end AbiFunction

end EvmScope
