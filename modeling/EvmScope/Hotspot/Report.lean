import EvmScope.Bytecode.Decoding
import EvmScope.Fault
import EvmScope.Hotspot.Attribution
import EvmScope.Hotspot.Basic
import EvmScope.Json.Literal
import EvmScope.Settings.Basic

set_option autoImplicit false

/-! # Gas reports

A report ranks the source ranges of a code by their gas. What was wrong with the input is not a fault:
it is counted in the diagnostics, and a report with such a count is *degraded*. -/

namespace EvmScope

/-- Counts of what one analysis met. -/
structure Diagnostics where
  instructions : Nat
  unknownOpcodes : Nat
  emptyCells : Nat
  /-- Whether the code ended inside a push or went beyond the limit on instructions. -/
  truncatedCode : Bool
  mapEntries : Nat
  malformedMapEntries : Nat
  unmapped : Nat
  traceEntries : Nat
  skippedTraceEntries : Nat
  unmatchedOffsets : Nat
  refinedInstructions : Nat
  /-- Whether there was no code. -/
  nothingToAnalyze : Bool
  deriving DecidableEq, Repr

namespace Diagnostics

/-- The diagnostics of an analysis without code. -/
def nothing : Diagnostics := ⟨0, 0, 0, false, 0, 0, 0, 0, 0, 0, 0, true⟩

/-- Whether some of the input could not be used. -/
def degraded (d : Diagnostics) : Bool :=
  d.unknownOpcodes != 0 || d.emptyCells != 0 || d.truncatedCode || d.malformedMapEntries != 0
    || d.unmapped != 0 || d.skippedTraceEntries != 0 || d.unmatchedOffsets != 0

/-- Diagnostics as JSON. -/
def toJson (d : Diagnostics) : Json :=
  .obj
    [ ("instruction_count", .int d.instructions),
      ("unknown_opcodes", .int d.unknownOpcodes),
      ("invalid_hex_bytes", .int d.emptyCells),
      ("truncated_bytecode", .bool d.truncatedCode),
      ("source_map_entries", .int d.mapEntries),
      ("malformed_source_map_entries", .int d.malformedMapEntries),
      ("unmapped_instructions", .int d.unmapped),
      ("trace_entries", .int d.traceEntries),
      ("skipped_trace_entries", .int d.skippedTraceEntries),
      ("unmatched_trace_pcs", .int d.unmatchedOffsets),
      ("runtime_refined_instructions", .int d.refinedInstructions),
      ("nothing_to_analyze", .bool d.nothingToAnalyze) ]

end Diagnostics

/-- The hotspots of a code in their ranking. -/
structure Report where
  hotspots : List Hotspot
  totalGas : Int
  diagnostics : Diagnostics
  deriving Repr

namespace Report

/-- The report on no code. -/
def nothing : Report := ⟨[], 0, Diagnostics.nothing⟩

/-! ## Making a report -/

/-- The trace of a document, of which no more entries are read than the settings allow; null is no
    trace. -/
def traceOf (settings : Settings) : Json → Option ParsedTrace
  | .null => none
  | document => some (ParsedTrace.ofJson (some settings.traceLimit) document)

/-- The hotspot of a group. Fails if the gas figure is too long to be written into the advice. -/
def hotspotOf (settings : Settings) (source : String) (range : Int × Int) (group : Group) :
    Except NumeralError Hotspot :=
  let mnemonics := group.mnemonics.reverse
  let pattern := GasPattern.detect mnemonics settings.loopLength
  (pattern.recommend mnemonics group.gas).map (fun recommendation =>
    { start := range.1
      finish := range.2
      startPosition := positionAt source range.1
      finishPosition := positionAt source range.2
      fileIndex := group.fileIndex
      gas := group.gas
      severity := Severity.ofGas settings.thresholds group.gas
      mnemonics := mnemonics
      pattern := pattern
      recommendation := recommendation
      suggestedFix := pattern.suggestedFix
      refined := group.refined })

/-- The hotspots of groups in their ranking. -/
def ranked (settings : Settings) (source : String) (groups : Groups) :
    Except NumeralError (List Hotspot) :=
  (groups.toList.mapM (fun (range, group) => hotspotOf settings source range group)).map
    (fun hotspots => List.mergeSort hotspots Hotspot.ranksBefore)

/-- Rank the source ranges of a code. The source map must belong to the code, and a trace must come from
    running it; `file?` restricts the report to one source file. -/
def analyze (settings : Settings) (code : Code) (map : SourceMap) (source : String)
    (trace? : Option ParsedTrace) (file? : Option Int) : Except Fault Report :=
  let decoding := decode settings.instructionLimit code
  if decoding.isEmpty then .ok nothing
  else
    let evidence :=
      match trace? with
      | some trace => RuntimeCosts.evidence decoding.instructions trace
      | none => RuntimeCosts.Evidence.none
    let placed := placements evidence.costs file? map decoding.instructions
    match ranked settings source (Groups.ofPlacements placed) with
    | .error cause => .error (.numeral cause)
    | .ok hotspots =>
      .ok {
        hotspots := hotspots
        totalGas := hotspots.foldl (fun total h => total + h.gas) 0
        diagnostics := {
          instructions := decoding.instructions.length
          unknownOpcodes := decoding.tally.unknown
          emptyCells := decoding.tally.emptyCells
          truncatedCode := decoding.tally.truncatedPush || decoding.limitHit
          mapEntries := map.entries.length
          malformedMapEntries := map.malformed
          unmapped := placed.countP (fun entry => entry.2 == .unmapped)
          traceEntries := (trace?.map (·.total)).getD 0
          skippedTraceEntries := (trace?.map (·.skipped)).getD 0 + evidence.unpriced
          unmatchedOffsets := evidence.unmatched
          refinedInstructions := evidence.costs.size
          nothingToAnalyze := false } }

/-! ## Reading a report -/

/-- The hotspots that are at least as grave as a named severity, all of them where no name is given. -/
def selection (hotspots : List Hotspot) (least : Json) : Except Fault (List Hotspot) :=
  if !least.isPresent then .ok hotspots
  else
    match least.str?.bind Severity.ofName? with
    | some severity => .ok (Hotspot.atLeast severity hotspots)
    | none => .error (.notASeverity least.literal)

/-- The number of hotspots of every severity as JSON. -/
def severityCounts (hotspots : List Hotspot) : List (String × Json) :=
  Severity.all.map (fun s => (s.name, .int (hotspots.countP (·.severity == s))))

/-- The figures of a report as JSON. -/
def summary (r : Report) : Json :=
  .obj
    [ ("hotspot_count", .int r.hotspots.length),
      ("total_gas", .int r.totalGas),
      ("by_severity", .obj (severityCounts r.hotspots)) ]

/-- Whether a hotspot is critical. -/
def isCritical (r : Report) : Bool :=
  r.hotspots.any (·.severity == .critical)

end Report

end EvmScope
