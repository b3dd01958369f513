import EvmScope.Hotspot.Report
import EvmScope.Number.Notation
import EvmScope.Text.Search
import EvmScope.Text.Style

set_option autoImplicit false

/-! # Listings of hotspots

A report as people read it: a heading, how many hotspots there are of every severity, and the hotspots in
their ranking. Quiet listings leave out the heading and the advice. -/

namespace EvmScope.CommandLine

/-- The colour of a severity. -/
def colourOf : Severity → Style
  | .critical => .brightRed
  | .high => .orange
  | .warning => .brightYellow
  | .optimal => .brightGreen

/-- The number of mnemonics that a listing shows of a hotspot. -/
def shownMnemonics : Nat := 12

/-- How a listing is written. -/
structure ListingStyle where
  quiet : Bool
  colours : Bool
  deriving DecidableEq, Repr

namespace ListingStyle

/-- Text in the styles of a listing. -/
def paint (s : ListingStyle) (styles : List Style) (text : String) : String :=
  Style.paintIf s.colours styles text

end ListingStyle

/-- A duration in seconds with two places. -/
def secondsText : Binary64 → String
  | .finite _ mantissa exponent =>
    let (num, den) := Binary64.fraction mantissa exponent
    String.ofList (Binary64.fixedPlaces false 2 num den)
  | value => value.text

/-- The heading of a listing. -/
def headingLines (style : ListingStyle) (name : String) (r : Report) (seconds : Binary64) :
    Except NumeralError (List String) := do
  let d := r.diagnostics
  let total ← Numeral.decimalWithin r.totalGas
  let counts :=
    "  Instructions: " ++ Numeral.decimal d.instructions ++ "  |  Attributed gas: " ++ total
      ++ "  |  Duration: " ++ secondsText seconds ++ "s\n"
  let warning :=
    "  ! degraded input: " ++ Numeral.decimal d.unknownOpcodes ++ " unknown opcodes, "
      ++ Numeral.decimal d.unmapped ++ " unmapped instructions, "
      ++ Numeral.decimal d.skippedTraceEntries ++ " skipped trace entries\n"
  return [ "\n" ++ style.paint [.bold] "Gas analysis" ++ " — " ++ name, counts ]
    ++ (if d.degraded then [style.paint [.brightYellow] warning] else [])

/-- The name of a severity in capital letters. -/
def severityWord (s : Severity) : String := toCapitals s.name

/-- How many hotspots there are of every severity that occurs, the gravest first. -/
def countsLine (style : ListingStyle) (hotspots : List Hotspot) : String :=
  let counts := (Severity.all.reverse.map (fun s => (s, hotspots.countP (·.severity == s)))).filter
    (fun entry => entry.2 ≠ 0)
  let shown := counts.map (fun (s, n) =>
    style.paint [colourOf s] (Numeral.decimal n ++ " " ++ severityWord s))
  "  " ++ " · ".intercalate shown ++ "\n"

/-- The first mnemonics of a hotspot. -/
def mnemonicsText (mnemonics : List String) : String :=
  " ".intercalate (mnemonics.take shownMnemonics)
    ++ (if shownMnemonics < mnemonics.length then " …" else "")

/-- The lines of a hotspot with its place in the ranking. -/
def hotspotLines (style : ListingStyle) (place : Nat) (h : Hotspot) :
    Except NumeralError (List String) := do
  let gas ← Numeral.decimalWithin h.gas
  let line := Numeral.decimal (h.startPosition.line + 1)
  let column := Numeral.decimal (h.startPosition.column + 1)
  let badge := style.paint [colourOf h.severity, .bold] (" " ++ severityWord h.severity ++ " ")
  let pattern := if h.pattern = .none then "" else "  [" ++ h.pattern.name ++ "]"
  let refined := if h.refined then style.paint [.dim] " (runtime)" else ""
  let head :=
    "  " ++ style.paint [.dim] (padLeft 3 ' ' (Numeral.decimal place) ++ ".") ++ " " ++ badge ++ " "
      ++ style.paint [.bold] (gas ++ " gas") ++ refined
      ++ style.paint [.dim] ("  L" ++ line ++ ":" ++ column) ++ pattern
  let advice :=
    if style.quiet then []
    else
      [ "       " ++ style.paint [.dim] h.recommendation,
        "       " ++ style.paint [.dim] ("Opcodes: " ++ mnemonicsText h.mnemonics) ]
  return head :: advice ++ [""]

/-- A report as people read it, with the hotspots that are to be shown. Fails if a gas figure is too long
    to be written. -/
def gasListing (style : ListingStyle) (name : String) (r : Report) (shown : List Hotspot)
    (seconds : Binary64) : Except NumeralError String := do
  let heading ← if style.quiet then .ok [] else headingLines style name r seconds
  let body ←
    if r.diagnostics.nothingToAnalyze then
      .ok [style.paint [.dim] "  No bytecode (abstract contract or library); nothing to analyze."]
    else if shown.isEmpty then
      .ok [style.paint [.brightGreen] "  ✓ No hotspots at the requested severity level."]
    else do
      let lines ← shown.zipIdx.mapM (fun (h, i) => hotspotLines style (i + 1) h)
      .ok (countsLine style shown :: lines.flatten)
  return "\n".intercalate (heading ++ body)

end EvmScope.CommandLine
