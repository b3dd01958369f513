import EvmScope.Fault
import EvmScope.Json.Literal

set_option autoImplicit false

/-! # Compiled contracts

A contract as a compiler leaves it. Fields that nothing is computed from are kept as the document gives
them; what is missing is empty, so an abstract contract is one without code. -/

namespace EvmScope

/-- A compiled contract. -/
structure Contract where
  name : Json
  abi : Json
  /-- The code that creates the contract, in hexadecimal. -/
  creationCode : String
  /-- The code of the deployed contract, in hexadecimal. -/
  runtimeCode : String
  creationMap : String
  runtimeMap : String
  storageLayout : Json
  sourcePath : String
  /-- The number of the source file in source maps. -/
  fileIndex : Json
  methodIdentifiers : Json

namespace Contract

/-- The name with the source path in front, if there is one. -/
def qualifiedName (c : Contract) : Json :=
  if c.sourcePath = "" then c.name else .str (c.sourcePath ++ ":" ++ c.name.display)

/-- The file that an analysis is restricted to by a file number: any file without a number, and no file
    for a value that equals no integer, as no source file has a negative number. -/
def fileFilter : Json → Option Int
  | .null => none
  | .float value => some (if value.isIntegral then value.truncate?.getD (-1) else -1)
  | value => some (value.int?.getD (-1))

/-- A contract as JSON. -/
def toJson (c : Contract) : Json :=
  .obj
    [ ("name", c.name), ("abi", c.abi), ("bytecode", .str c.creationCode),
      ("deployed_bytecode", .str c.runtimeCode), ("source_map", .str c.creationMap),
      ("deployed_source_map", .str c.runtimeMap), ("storage_layout", c.storageLayout),
      ("source_path", .str c.sourcePath), ("file_index", c.fileIndex),
      ("method_identifiers", c.methodIdentifiers), ("qualified_name", c.qualifiedName) ]

/-! ## Parts of documents -/

/-- The text of a value, empty for absent values. -/
def textOf (value : Json) : String :=
  if value.isPresent then value.display else ""

/-- A section of code with its source map: an object with both, or the code alone. -/
def codeAndMap : Json → String × String
  | .str code => (code, "")
  | .obj fields =>
    (textOf (Json.fieldOrNull "object" fields), textOf (Json.fieldOrNull "sourceMap" fields))
  | _ => ("", "")

/-- The fields of an object that may be absent. Fails on any other value. -/
def fieldsOf : Json → Except Fault (List (String × Json))
  | .obj fields => .ok fields
  | value => if value.isPresent then .error .noFields else .ok []

/-- An integer number as it is, null for all else. -/
def integerOrNull : Json → Json
  | .int value => .int value
  | .bool value => .bool value
  | _ => .null

end Contract

end EvmScope
