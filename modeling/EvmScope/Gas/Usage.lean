import EvmScope.Fault
import EvmScope.Table
import EvmScope.Trace.Parsed

set_option autoImplicit false

/-! # Gas usage of calls

A trace of a whole transaction is summed up as one usage record: the function that was called, the gas
it took, and how often it touched storage and other contracts, with advice drawn from these figures. The
ledger keeps the latest record of every function. -/

namespace EvmScope

/-- The usage of one call. -/
structure GasUsage where
  function : String
  /-- The gas figure as the trace gives it. -/
  gas : Json
  reads : Nat
  writes : Nat
  calls : Nat
  recommendations : List String

namespace GasUsage

/-! ## The called function -/

/-- The functions of well-known selectors. -/
def knownSelectors : List (String × String) :=
  [ ("0xa9059cbb", "transfer"), ("0x095ea7b3", "approve"), ("0x23b872dd", "transferFrom"),
    ("0x40c10f19", "mint"), ("0x42966c68", "burn"), ("0x70a08231", "balanceOf") ]

/-- The number of characters of a selector with its mark `0x`. -/
def selectorLength : Nat := 10

/-- The name of the function that call data addresses. -/
def functionName (callData : Option String) : String :=
  let cs := (callData.getD "").toList
  if cs.length < selectorLength then "Unknown Function"
  else
    let selector := toSmall (String.ofList (cs.take selectorLength))
    (knownSelectors.lookup selector).getD ("Function(" ++ selector ++ ")")

/-! ## Advice -/

/-- Whether a gas figure is above a bound; `none` for a value that has no size. -/
def exceeds? (gas : Json) (bound : Int) : Option Bool :=
  match gas with
  | .float x => some (x.exceeds bound)
  | value => value.int?.map (fun n => decide (bound < n))

/-- One piece of advice if it applies. -/
def when (applies : Bool) (advice : String) : List String :=
  if applies then [advice] else []

/-- The advice for the figures of a call; `isHigh` and `isModerate` tell the class of its gas. -/
def adviceFor (isHigh isModerate : Bool) (reads writes calls : Int) : List String :=
  let advice :=
    (if isHigh then
      ["High gas usage detected. Consider refactoring to reduce complexity."]
    else when isModerate "Moderate gas usage. Look for optimization opportunities.")
    ++ when (20 < reads)
      "High storage read count. Cache frequently accessed variables in memory."
    ++ when (10 < writes)
      ("High storage write count. Batch storage updates or use transient storage when "
        ++ "applicable.")
    ++ when (writes * 3 < reads)
      "Asymmetric storage pattern. Consider pre-loading data before operations."
    ++ when (5 < calls)
      "Multiple external calls detected. Minimize external dependencies if possible."
  if advice.isEmpty then ["Function is reasonably optimized."] else advice

/-- The advice for a call. Fails if the gas figure has no size. -/
def recommend (gas : Json) (reads writes calls : Int) : Except Fault (List String) :=
  match exceeds? gas 500000, exceeds? gas 100000 with
  | some isHigh, some isModerate => .ok (adviceFor isHigh isModerate reads writes calls)
  | _, _ => .error .wrongKind

/-! ## Records -/

/-- The number of entries of a trace whose instruction is one of the given. -/
def countOf (trace : ParsedTrace) (mnemonics : List String) : Nat :=
  trace.entries.countP (fun entry => mnemonics.contains entry.op)

/-- The usage that a trace shows; nothing for a document that is no trace and has no gas figure. -/
def ofTrace (trace : ParsedTrace) : Except Fault (Option GasUsage) :=
  if trace.malformed && trace.gasUsed.isNone then .ok none
  else
    let reads := countOf trace ["SLOAD"]
    let writes := countOf trace ["SSTORE"]
    let calls := countOf trace ["CALL", "DELEGATECALL"]
    let gas := (trace.gasUsed.getD .null).orElse (.int 0)
    (recommend gas reads writes calls).map (fun recommendations =>
      some ⟨functionName trace.inputData, gas, reads, writes, calls, recommendations⟩)

end GasUsage

/-- The latest usage of every function, in the order in which the functions first came. -/
abbrev UsageLedger := List (String × GasUsage)

namespace UsageLedger

/-- Keep a record in place of an earlier one of the same function. -/
def keep (ledger : UsageLedger) (usage : GasUsage) : UsageLedger :=
  Table.put ledger usage.function usage

/-- Record the usage that a trace shows. -/
def record (ledger : UsageLedger) (trace : ParsedTrace) :
    UsageLedger × Except Fault (Option GasUsage) :=
  match GasUsage.ofTrace trace with
  | .ok (some usage) => (ledger.keep usage, .ok (some usage))
  | other => (ledger, other)

end UsageLedger

end EvmScope
