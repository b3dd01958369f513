import EvmScope.Text.Numeral

set_option autoImplicit false

/-! # Wasteful patterns and advice

A heuristic reading of the instructions of one source range: repeated storage reads, and a storage
write among so many instructions that it is likely to sit in a loop. The reads are looked at first.
Each pattern has its advice and most have a suggested fix; a range without a pattern gets advice by the
costliest kind of instruction in it. -/

namespace EvmScope

/-- A wasteful pattern. -/
inductive GasPattern
  | repeatedSload
  | storageInLoop
  | multipleSload
  | none
  deriving DecidableEq, Repr

namespace GasPattern

/-- All patterns. -/
def all : List GasPattern := [repeatedSload, storageInLoop, multipleSload, none]

/-- The word for a pattern. -/
def name : GasPattern → String
  | repeatedSload => "repeated-sload"
  | storageInLoop => "storage-in-loop"
  | multipleSload => "multiple-sload"
  | none => "none"

/-- The pattern that a word stands for; a word without a meaning stands for no pattern. -/
def ofName (word : String) : GasPattern :=
  (all.find? (fun p => p.name == word)).getD none

/-- The number of instructions up to which a storage write is not taken to be in a loop. -/
def standardLoopLength : Int := 5

/-- The pattern of a range with these instructions. -/
def detect (mnemonics : List String) (loopLength : Int) : GasPattern :=
  let reads := mnemonics.countP (· == "SLOAD")
  if 3 ≤ reads then multipleSload
  else if 2 ≤ reads then repeatedSload
  else if mnemonics.contains "SSTORE" && loopLength < mnemonics.length then storageInLoop
  else none

/-- The instructions that call another contract. -/
def externalCalls : List String := ["CALL", "DELEGATECALL", "STATICCALL", "CALLCODE"]

/-- The advice for a range with these instructions and this gas figure, already in digits. -/
def advice (pattern : GasPattern) (mnemonics : List String) (gas : String) : String :=
  match pattern with
  | repeatedSload =>
    "Repeated SLOAD operations detected (" ++ gas ++ " gas). "
      ++ "Consider caching the storage value in a memory variable."
  | storageInLoop =>
    "Storage write in loop detected (" ++ gas ++ " gas). "
      ++ "Consider accumulating changes and writing once after the loop."
  | multipleSload =>
    "Multiple SLOAD operations (" ++ gas ++ " gas). "
      ++ "Cache frequently accessed storage variables in memory."
  | none =>
    if mnemonics.contains "SSTORE" then
      "Storage write operation (" ++ gas ++ " gas). "
        ++ "Consider if this variable needs to be stored or can be computed."
    else if mnemonics.contains "SLOAD" then
      "Storage read operation (" ++ gas
        ++ " gas). If accessed multiple times, cache in memory."
    else if mnemonics.any externalCalls.contains then
      "External call detected (" ++ gas ++ " gas). "
        ++ "Ensure this is necessary and gas limits are appropriate."
    else "Gas usage: " ++ gas ++ ". Review if this operation can be optimized."

/-- The advice for a range; a gas figure over the limit on decimal digits has none. -/
def recommend (pattern : GasPattern) (mnemonics : List String) (gas : Int) :
    Except NumeralError String :=
  (Numeral.decimalWithin gas).map (pattern.advice mnemonics)

/-- Code that avoids the pattern. -/
def suggestedFix : GasPattern → Option String
  | repeatedSload | multipleSload =>
    some ("uint256 cachedValue = storageVariable; // Cache in memory\n"
      ++ "// Then use cachedValue instead of repeated storage reads")
  | storageInLoop =>
    some ("uint256 tempValue = 0;\nfor (...) \x7b\n  tempValue += ...; // Accumulate\n\x7d\n"
      ++ "storageVariable = tempValue; // Single write")
  | none => Option.none

end GasPattern

end EvmScope
