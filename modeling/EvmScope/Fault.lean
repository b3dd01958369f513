import EvmScope.Schema

set_option autoImplicit false

/-! # Faults

Why an operation was given up. Poor input data is no fault: it is counted where it is met. A fault is a
wrong call, an unreadable document, or a value of a kind that an operation does not apply to. Every
fault is a cause; `message` puts it in words. -/

namespace EvmScope

/-- Stable codes of the faults that callers tell apart. -/
inductive ErrorCode
  | artifactNotFound
  | artifactInvalid
  | contractAmbiguous
  | contractNotFound
  | tourInvalidIndex
  | functionNotFound
  | invalidInput
  | abiInvalid
  deriving DecidableEq, Repr

/-- The word for a code. -/
def ErrorCode.name : ErrorCode → String
  | artifactNotFound => "ARTIFACT_NOT_FOUND"
  | artifactInvalid => "ARTIFACT_INVALID"
  | contractAmbiguous => "CONTRACT_AMBIGUOUS"
  | contractNotFound => "CONTRACT_NOT_FOUND"
  | tourInvalidIndex => "TOUR_INVALID_INDEX"
  | functionNotFound => "FUNCTION_NOT_FOUND"
  | invalidInput => "INVALID_INPUT"
  | abiInvalid => "ABI_INVALID"

/-! ## Kinds of faults -/

/-- Why no contract could be loaded from an artifact. -/
inductive ArtifactFault
  | notFound (path : String)
  | unreadable (path : String)
  | notAnObject
  | unrecognised
  | noSuchContract (wanted : String) (available : List String)
  | noContracts
  | ambiguous (candidates : List String)
  deriving DecidableEq, Repr

/-- Why a value is no storage word. -/
inductive WordFault
  /-- It is neither text nor an integer. -/
  | notAWord (shown : String)
  /-- It is a negative number. -/
  | negative (value : Int)
  /-- It is text without digits. -/
  | empty
  deriving DecidableEq, Repr

/-- Why a call could not be simulated. -/
inductive SimulationFault
  | functionNotFound (shown : String)
  /-- An argument does not fit its parameter. -/
  | badArgument (parameter reason : String)
  /-- Applying the call failed. -/
  | failed (reason : String)
  | abiNotAList
  deriving DecidableEq, Repr

/-- Why a command was given up. -/
inductive CommandFault
  | cannotRead (path : String)
  | cannotWrite (path : String)
  | noSnapshot (id : Int) (recorded : Nat)
  deriving DecidableEq, Repr

/-- Why an operation was given up. -/
inductive Fault
  | numeral (cause : NumeralError)
  | word (cause : WordFault)
  /-- A shift by a negative number of bits. -/
  | negativeShift
  /-- A word that names no severity. -/
  | notASeverity (shown : String)
  /-- A level name that stands for no logging level. -/
  | unknownLevel (shown : String)
  /-- A value of a log record has a name that is reserved. -/
  | reservedName (name : String)
  /-- A variable would become negative. -/
  | underflow (label : String)
  | fields (issues : List Issue)
  | artifact (cause : ArtifactFault)
  | tourIndex (index : Int)
  | simulation (cause : SimulationFault)
  | command (cause : CommandFault)
  /-- An operation met a value of a kind that it does not apply to. -/
  | wrongKind
  /-- A field was asked of a value that has none. -/
  | noFields
  /-- A key is not in its table. -/
  | noEntry
  /-- A number without an integer part was to be made an integer. -/
  | notFinite
  /-- A document is nested too deep to be read. -/
  | tooDeep
  /-- A number has more digits than can be counted. -/
  | tooLarge
  /-- A number does not fit into memory. -/
  | outOfMemory
  /-- The file system refuses a path. -/
  | badPath
  /-- A file that must hold text does not. -/
  | notText
  /-- A word that names no topic of events. -/
  | notATopic (shown : String)

/-! ## Words and codes -/

/-- The code of an artifact fault. -/
def ArtifactFault.code : ArtifactFault → ErrorCode
  | notFound _ => .artifactNotFound
  | unreadable _ | notAnObject | unrecognised => .artifactInvalid
  | noSuchContract _ _ | noContracts => .contractNotFound
  | ambiguous _ => .contractAmbiguous

/-- An artifact fault in words. -/
def ArtifactFault.message : ArtifactFault → String
  | notFound path => "Artifact not found: " ++ path
  | unreadable path => "Cannot read " ++ path
  | notAnObject => "Artifact must be a JSON object"
  | unrecognised => "Unrecognised artifact: expected solc standard JSON, Hardhat or Foundry output"
  | noSuchContract wanted available =>
    "Contract " ++ Quoted.quote wanted ++ " not found; available: " ++ ", ".intercalate available
  | noContracts => "Artifact contains no contracts"
  | ambiguous candidates =>
    "Several contracts found, select one of: " ++ ", ".intercalate candidates

/-- A word fault in words. -/
def WordFault.message : WordFault → String
  | notAWord shown => "not a storage word: " ++ shown
  | negative value => "negative storage word: " ++ Numeral.decimal value
  | empty => "empty storage word"

/-- The code of a simulation fault. -/
def SimulationFault.code : SimulationFault → ErrorCode
  | functionNotFound _ => .functionNotFound
  | badArgument _ _ | failed _ => .invalidInput
  | abiNotAList => .abiInvalid

/-- A simulation fault in words. -/
def SimulationFault.message : SimulationFault → String
  | functionNotFound shown => "Function " ++ shown ++ " not found in ABI"
  | badArgument parameter reason => parameter ++ ": " ++ reason
  | failed reason => reason
  | abiNotAList => "ABI must be a list of descriptors"

/-- A command fault in words. -/
def CommandFault.message : CommandFault → String
  | cannotRead path => "Cannot read " ++ path
  | cannotWrite path => "Cannot write " ++ path
  | noSnapshot id recorded =>
    "No snapshot " ++ Numeral.decimal id ++ "; " ++ Numeral.decimal recorded ++ " recorded"

namespace Fault

/-- The code of a fault that callers tell apart. -/
def code? : Fault → Option ErrorCode
  | artifact cause => some cause.code
  | tourIndex _ => some .tourInvalidIndex
  | simulation cause => some cause.code
  | command _ => some .invalidInput
  | _ => none

/-- A fault in words, empty for those that have none. -/
def message : Fault → String
  | numeral cause => cause.message
  | word cause => cause.message
  | negativeShift => "negative shift count"
  | notASeverity shown => shown ++ " is not a valid Severity"
  | unknownLevel shown => "Unknown level: " ++ shown
  | underflow label => label ++ " would underflow"
  | reservedName name => "Reserved name in a log record: " ++ Quoted.quote name
  | artifact cause => cause.message
  | tourIndex index => "Tour index must be >= 0, got " ++ Numeral.decimal index
  | simulation cause => cause.message
  | command cause => cause.message
  | notATopic shown => shown ++ " is not a valid EventType"
  | fields _ | wrongKind | noFields | noEntry | notFinite | tooDeep | tooLarge | outOfMemory
  | badPath | notText => ""

/-- Whether a fault is about the value of an argument, as opposed to a missing key, a missing field or
    a refused operation. -/
def isBadValue : Fault → Bool
  | numeral _ | word _ | negativeShift | notASeverity _ | unknownLevel _ | underflow _
  | notATopic _ => true
  | _ => false

end Fault

end EvmScope
