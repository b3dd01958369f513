import EvmScope.Gas.Pattern
import EvmScope.Gas.Severity
import EvmScope.Json.Value
import EvmScope.SourceMap.Position

set_option autoImplicit false

/-! # Hotspots

A hotspot is a source range with the gas of the instructions that were made from it. Hotspots are
ranked by falling gas; those of equal gas stand in the order of their ranges. -/

namespace EvmScope

/-- A source range and the gas of its instructions. -/
structure Hotspot where
  /-- The byte offset at which the range begins. -/
  start : Int
  /-- The byte offset behind the range. -/
  finish : Int
  startPosition : Position
  finishPosition : Position
  fileIndex : Int
  gas : Int
  severity : Severity
  /-- The names of the instructions in order. -/
  mnemonics : List String
  pattern : GasPattern
  recommendation : String
  suggestedFix : Option String
  /-- Whether a trace gave the cost of one of the instructions. -/
  refined : Bool
  deriving DecidableEq, Repr

/-- A place in a text as JSON. -/
def Position.toJson (p : Position) : Json :=
  .obj [("line", .int p.line), ("column", .int p.column)]

namespace Hotspot

/-- The ends of the range. -/
def range (h : Hotspot) : Int × Int := (h.start, h.finish)

/-- The ranking of hotspots: more gas first, then the range that begins or else ends first. -/
def ranksBefore (a b : Hotspot) : Bool :=
  b.gas < a.gas
    || (a.gas = b.gas && (a.start < b.start || (a.start = b.start && a.finish ≤ b.finish)))

/-- The hotspots that are at least as grave as a severity. -/
def atLeast (least : Severity) (hotspots : List Hotspot) : List Hotspot :=
  hotspots.filter (fun h => h.severity.rank ≤ least.rank)

/-- The range as JSON. -/
def rangeJson (h : Hotspot) : Json :=
  .arr [.int h.start, .int h.finish]

/-- A hotspot as JSON. -/
def toJson (h : Hotspot) : Json :=
  .obj
    [ ("source_range", h.rangeJson),
      ("start", h.startPosition.toJson),
      ("end", h.finishPosition.toJson),
      ("file_index", .int h.fileIndex),
      ("gas_used", .int h.gas),
      ("severity", .str h.severity.name),
      ("opcodes_involved", .arr (h.mnemonics.map Json.str)),
      ("pattern", .str h.pattern.name),
      ("recommendation", .str h.recommendation),
      ("suggested_fix", Json.ofOption Json.str h.suggestedFix),
      ("runtime_refined", .bool h.refined) ]

end Hotspot

end EvmScope
