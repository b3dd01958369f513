import EvmScope.Gas.Pattern
import EvmScope.Gas.Severity
import EvmScope.Schema

set_option autoImplicit false

/-! # Settings

The limits and thresholds that analyses work with. Settings are read from an object whose fields are
checked together: every field has a default, a field that is not known is an issue, and so is a value
that is out of range. -/

namespace EvmScope

/-- Where the program runs. -/
inductive Deployment
  | development
  | staging
  | production
  deriving DecidableEq, Repr

namespace Deployment

/-- The word for a deployment. -/
def name : Deployment → String
  | development => "development"
  | staging => "staging"
  | production => "production"

/-- The deployment that a value names. -/
def check : Json → Checked Deployment
  | .str "development" => .ok development
  | .str "staging" => .ok staging
  | .str "production" => .ok production
  | _ => .error .literalError

end Deployment

/-- The settings of the program. -/
structure Settings where
  appName : String
  deployment : Deployment
  logLevel : String
  /-- The gas figures from which a severity holds; none is negative. -/
  thresholds : Thresholds
  /-- The number of instructions up to which a storage write is not taken to be in a loop. -/
  loopLength : Int
  /-- The number of instructions that are decoded of a code. -/
  instructionLimit : Nat
  /-- The number of entries that are read of a trace. -/
  traceLimit : Nat
  /-- The number of snapshots from which a history counts as overfull. -/
  snapshotLimit : Nat
  /-- Whether storage writes have their slot rather than their value on top of the stack in traces. -/
  slotOnTop : Bool
  deriving Repr

namespace Settings

/-- The settings unless others are given. -/
def standard : Settings where
  appName := "gaslens"
  deployment := .development
  logLevel := "INFO"
  thresholds := Thresholds.standard
  loopLength := GasPattern.standardLoopLength
  instructionLimit := 100000
  traceLimit := 1000000
  snapshotLimit := 1000
  slotOnTop := false

/-- The settings by name. -/
def entries (s : Settings) : List (String × Json) :=
  [ ("app_name", .str s.appName),
    ("app_env", .str s.deployment.name),
    ("log_level", .str s.logLevel),
    ("severity_warning_threshold", .int s.thresholds.warning),
    ("severity_high_threshold", .int s.thresholds.high),
    ("severity_critical_threshold", .int s.thresholds.critical),
    ("storage_in_loop_min_opcodes", .int s.loopLength),
    ("bytecode_max_instructions", .int s.instructionLimit),
    ("trace_max_entries", .int s.traceLimit),
    ("state_max_snapshots", .int s.snapshotLimit),
    ("state_sstore_key_on_top", .bool s.slotOnTop) ]

/-- The names of all settings. -/
def names : List String :=
  standard.entries.map (·.1)

/-- A limit: an integer above zero. -/
def limit (value : Json) : Checked Nat :=
  (Schema.intAbove 0 value).map Int.toNat

/-- Read settings from the fields of an object. -/
def ofFields (fields : List (String × Json)) : Except (List Issue) Settings :=
  let d := standard
  let appName := Schema.optional fields "app_name" Schema.string d.appName
  let deployment := Schema.optional fields "app_env" Deployment.check d.deployment
  let logLevel := Schema.optional fields "log_level" Schema.string d.logLevel
  let threshold (name : String) (default : Int) :=
    Schema.optional fields name (Schema.intFrom 0) default
  let warning := threshold "severity_warning_threshold" d.thresholds.warning
  let high := threshold "severity_high_threshold" d.thresholds.high
  let critical := threshold "severity_critical_threshold" d.thresholds.critical
  let loopLength := threshold "storage_in_loop_min_opcodes" d.loopLength
  let instructions := Schema.optional fields "bytecode_max_instructions" limit d.instructionLimit
  let trace := Schema.optional fields "trace_max_entries" limit d.traceLimit
  let snapshots := Schema.optional fields "state_max_snapshots" limit d.snapshotLimit
  let slotOnTop := Schema.optional fields "state_sstore_key_on_top" Schema.bool d.slotOnTop
  let issues := appName.issues ++ deployment.issues ++ logLevel.issues ++ warning.issues
    ++ high.issues ++ critical.issues ++ loopLength.issues ++ instructions.issues ++ trace.issues
    ++ snapshots.issues ++ slotOnTop.issues ++ Schema.unexpected fields names
  if issues.isEmpty then
    .ok {
      appName := appName.value
      deployment := deployment.value
      logLevel := logLevel.value
      thresholds := ⟨warning.value, high.value, critical.value⟩
      loopLength := loopLength.value
      instructionLimit := instructions.value
      traceLimit := trace.value
      snapshotLimit := snapshots.value
      slotOnTop := slotOnTop.value }
  else .error issues

end Settings

end EvmScope
