import EvmScope.Artifact.Contract

set_option autoImplicit false

/-! # Artifact documents

Two forms of documents describe compiled contracts: the output of a whole compilation, by source file and
contract name, alone or inside a build record, and the artifact of a single contract. -/

namespace EvmScope.Artifact

/-! ## Whole compilations -/

/-- The number of a source file. -/
def fileIndexOf (sources : List (String × Json)) (path : String) : Json :=
  Contract.integerOrNull ((Json.fieldOrNull path sources).get "id")

/-- The contract of one entry. -/
def contractOf (sources : List (String × Json)) (path name : String)
    (fields : List (String × Json)) : Except Fault Contract :=
  (Contract.fieldsOf (Json.fieldOrNull "evm" fields)).map (fun evm =>
    let creation := Contract.codeAndMap (Json.fieldOrNull "bytecode" evm)
    let runtime := Contract.codeAndMap (Json.fieldOrNull "deployedBytecode" evm)
    { name := .str name
      abi := (Json.fieldOrNull "abi" fields).orElse (.arr [])
      creationCode := creation.1
      runtimeCode := runtime.1
      creationMap := creation.2
      runtimeMap := runtime.2
      storageLayout := (Json.fieldOrNull "storageLayout" fields).orElse (.obj [])
      sourcePath := path
      fileIndex := fileIndexOf sources path
      methodIdentifiers := (Json.fieldOrNull "methodIdentifiers" evm).orElse (.obj []) })

/-- The contract of an entry of a source file; a value that is no object is passed over. -/
def contractOf? (sources : List (String × Json)) (path : String) :
    String × Json → Except Fault (Option Contract)
  | (name, .obj fields) => (contractOf sources path name fields).map some
  | _ => .ok none

/-- The contracts of one source file. -/
def contractsOfFile (sources : List (String × Json)) (path : String) :
    Json → Except Fault (List Contract)
  | .obj entries =>
    (entries.mapM (contractOf? sources path)).map
      (fun (found : List (Option Contract)) => found.filterMap id)
  | _ => .ok []

/-- The contracts of a compilation in the order of the document. -/
def contractsOfCompilation (fields : List (String × Json)) : Except Fault (List Contract) := do
  let sources ← Contract.fieldsOf (Json.fieldOrNull "sources" fields)
  let files ← Contract.fieldsOf (Json.fieldOrNull "contracts" fields)
  let contracts ← files.mapM (fun file => contractsOfFile sources file.1 file.2)
  return contracts.flatten

/-! ## Single contracts -/

/-- The source path of a single contract: its own, or that of its syntax tree. -/
def sourcePathOf (fields : List (String × Json)) : Except Fault String :=
  let name := Json.fieldOrNull "sourceName" fields
  if name.isPresent then .ok name.display
  else
    (Contract.fieldsOf (Json.fieldOrNull "ast" fields)).map (fun tree =>
      Contract.textOf (Json.fieldOrNull "absolutePath" tree))

/-- The contract of a document of one contract; `fallback` names it if the document does not. -/
def singleContract (fields : List (String × Json)) (fallback : String) : Except Fault Contract :=
  (sourcePathOf fields).map (fun path =>
    let creation := Contract.codeAndMap (Json.fieldOrNull "bytecode" fields)
    let runtime := Contract.codeAndMap (Json.fieldOrNull "deployedBytecode" fields)
    { name := (Json.fieldOrNull "contractName" fields).orElse (.str fallback)
      abi := (Json.fieldOrNull "abi" fields).orElse (.arr [])
      creationCode := creation.1
      runtimeCode := runtime.1
      creationMap := creation.2
      runtimeMap := runtime.2
      storageLayout := (Json.fieldOrNull "storageLayout" fields).orElse (.obj [])
      sourcePath := path
      fileIndex := Contract.integerOrNull (Json.fieldOrNull "id" fields)
      methodIdentifiers := (Json.fieldOrNull "methodIdentifiers" fields).orElse (.obj []) })

/-! ## Documents -/

/-- Whether a field is there, be it null. -/
def hasField (fields : List (String × Json)) (name : String) : Bool :=
  (fields.lookup name).isSome

/-- The fields of the compilation inside a build record, or the fields themselves. -/
def unwrap (fields : List (String × Json)) : List (String × Json) :=
  match fields.lookup "output" with
  | some (.obj inner) => if hasField inner "contracts" then inner else fields
  | _ => fields

/-- The name of a contract whose document and file do not name it. -/
def defaultName : String := "Contract"

/-- The contracts of a document. -/
def contracts (document : Json) (fallback : String) : Except Fault (List Contract) :=
  match document with
  | .obj fields =>
    let fields := unwrap fields
    if hasField fields "contracts" then contractsOfCompilation fields
    else if hasField fields "abi" || hasField fields "bytecode" then
      (singleContract fields fallback).map (fun c => [c])
    else .error (.artifact .unrecognised)
  | _ => .error (.artifact .notAnObject)

end EvmScope.Artifact
