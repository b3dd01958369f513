import EvmScope.Artifact.Selection
import EvmScope.Clock
import EvmScope.CommandLine.GasListing
import EvmScope.CommandLine.Invocation
import EvmScope.CommandLine.StateListing
import EvmScope.Json.Writer
import EvmScope.Log.Record
import EvmScope.Session
import EvmScope.Settings.Sources

set_option autoImplicit false

/-! # Execution

What the program prints, writes and answers when it is called with some words, as a function of what it
finds: the environment, the files and the clock. Nothing here has an effect; the files that are wanted
are those of `Invocation.inputs`, and the file to be written is part of the outcome.

A fault with a code ends a command with an error line. Other faults are none of the program's own and go
through to its caller. -/

namespace EvmScope.CommandLine

/-- What a call of the program finds. -/
structure World where
  environment : List (String × String)
  /-- The environment file. -/
  settingsFile : FileState
  /-- What paths lead to. -/
  file : String → FileState
  now : Clock
  /-- How long an analysis takes in milliseconds. -/
  elapsed : Nat
  /-- How deep the documents that are read may be nested. -/
  levels : Nat := Json.standardLevels

/-- What a call of the program leads to. -/
structure Outcome where
  /-- The text on standard output. -/
  output : String
  /-- The text on standard error. -/
  notes : String
  /-- A file to be written: its path and its text. -/
  file : Option (String × String)
  /-- The exit status, or the fault that goes through to the caller. -/
  status : Except Fault Nat

/-! ## Exit statuses and notes -/

/-- The exit status of success. -/
def exitSuccess : Nat := 0

/-- The exit status of a command that was given up. -/
def exitFailure : Nat := 1

/-- The exit status of an analysis that found a critical hotspot. -/
def exitCritical : Nat := 2

/-- The exit status of misuse. -/
def exitMisuse : Nat := 2

/-- The line that tells of a fault. -/
def errorLine (fault : Fault) : String :=
  Style.paint [.brightRed] ("Error: " ++ fault.message) ++ "\n"

/-- What is told of a fault that goes through to the caller. -/
def faultLines (fault : Fault) : String :=
  match fault with
  | .fields issues => ofLines (issues.map (fun i => "Error: " ++ i.field ++ ": " ++ i.kind.name))
  | fault => "Error: " ++ (if fault.message = "" then "unexpected value" else fault.message) ++ "\n"

namespace Outcome

/-- Print a text and succeed. -/
def printed (output : String) : Outcome := ⟨output, "", none, .ok exitSuccess⟩

/-- Give up because of a fault. -/
def ofFault (fault : Fault) : Outcome :=
  match fault.code? with
  | some _ => ⟨"", errorLine fault, none, .ok exitFailure⟩
  | none => ⟨"", "", none, .error fault⟩

/-- Put notes in front of those of an outcome. -/
def withNotes (notes : String) (o : Outcome) : Outcome := { o with notes := notes ++ o.notes }

/-- The outcome if its file could not be written. -/
def writeFailed (o : Outcome) : Outcome :=
  match o.file with
  | none => o
  | some (path, _) => (ofFault (.command (.cannotWrite path))).withNotes o.notes

/-- What became of a computation. -/
def ofResult : Except Fault Outcome → Outcome
  | .ok o => o
  | .error fault => ofFault fault

/-- What becomes of a call whose words do not lead to an execution. -/
def ofStop : Stop → Outcome
  | .help manual => printed manual.text
  | .misuse manual cause =>
    ⟨"", manual.usage ++ manual.program ++ ": error: " ++ cause.message ++ "\n", none,
      .ok exitMisuse⟩

end Outcome

/-! ## Reading files -/

/-- The text of a file. -/
def World.text (world : World) (path : String) : Except Fault String :=
  match (world.file path).text? with
  | some text => .ok text
  | none => .error (.command (.cannotRead path))

/-- The document in a file. -/
def World.document (world : World) (path : String) : Except Fault Json :=
  (world.file path).json (.command (.cannotRead path)) world.levels

/-! ## Hotspots -/

/-- What an analysis works with. -/
structure GasInput where
  contract : Contract
  source : String
  /-- The trace, null if there is none. -/
  trace : Json

/-- Read what an analysis works with. An empty path stands for no trace. -/
def GasRequest.input (world : World) (r : GasRequest) : Except Fault GasInput := do
  let contract ← Artifact.ofFile r.artifact (world.file r.artifact) r.contract world.levels
  let source ← world.text r.source
  let trace ←
    match r.trace.filter (· ≠ "") with
    | some path => world.document path
    | none => .ok .null
  return ⟨contract, source, trace⟩

/-- The hotspots of a report that a request wants to see. -/
def GasRequest.shown (r : GasRequest) (report : Report) : List Hotspot :=
  match r.least with
  | some severity => Hotspot.atLeast severity report.hotspots
  | none => report.hotspots

/-- The gas usage of a trace as an analysis shows it. -/
def usageFields (usage : Option GasUsage) : List (String × Json) :=
  match usage with
  | none => []
  | some u =>
    [("gas_usage", .obj
      [ ("function_name", .str u.function), ("gas_used", u.gas),
        ("recommendations", .arr (u.recommendations.map Json.str)) ])]

/-- A report as JSON. -/
def reportJson (name : Json) (r : Report) (shown : List Hotspot) (seconds : Binary64)
    (usage : Option GasUsage) : Json :=
  .obj
    ([ ("hotspots", .arr (shown.map Hotspot.toJson)),
       ("summary", r.summary),
       ("diagnostics", r.diagnostics.toJson),
       ("analysis_time_sec", .float seconds),
       ("contract", name) ] ++ usageFields usage)

/-- A document as the text of its indented form. -/
def indented (document : Json) : Except Fault String :=
  (Json.renderWithin Json.Layout.indented document).mapError Fault.numeral

/-- A report in the format of a request. Only JSON shows the gas usage of the trace. -/
def GasRequest.reportText (r : GasRequest) (quiet : Bool) (session : Session Unit)
    (input : GasInput) (report : Report) (seconds : Binary64) : Except Fault String :=
  match r.format with
  | .table =>
    (gasListing ⟨quiet, (r.output.filter (· ≠ "")).isNone⟩ input.contract.qualifiedName.display
      report (r.shown report) seconds).mapError Fault.numeral
  | .json => do
    let usage ←
      match input.trace with
      | .null => .ok none
      | trace => (session.recordUsage trace).result
    indented (reportJson input.contract.qualifiedName report (r.shown report) seconds usage)

/-- Where the text of a report goes: to the file that is asked for, or else to standard output. -/
def GasRequest.emit (r : GasRequest) (report : Report) (text : String) : Outcome :=
  let status : Nat := if report.isCritical then exitCritical else exitSuccess
  match r.output.filter (· ≠ "") with
  | some path => ⟨"", "", some (path, text), .ok status⟩
  | none => ⟨text ++ "\n", "", none, .ok status⟩

/-- Rank the hotspots of a contract. -/
def GasRequest.execute (world : World) (settings : Settings) (quiet : Bool) (r : GasRequest) :
    Outcome :=
  match r.input world with
  | .error fault => .ofFault fault
  | .ok input =>
    let name := Style.paint [.brightCyan] input.contract.qualifiedName.display
    let notes := if quiet then "" else "  Analyzing " ++ name ++ "…\n"
    let session : Session Unit := Session.begin settings Hub.empty
    let move := session.analyze input.contract input.source input.trace r.creation
    let seconds := Binary64.ofDecimal false world.elapsed (-3)
    Outcome.withNotes notes (.ofResult do
      let report ← move.result
      let text ← r.reportText quiet move.state input report seconds
      return r.emit report text)

/-! ## Storage -/

/-- A snapshot as JSON. -/
def snapshotJson (now : Clock) (s : Snapshot) : Json :=
  .obj
    [ ("id", .int s.id), ("timestamp", .int now.millis),
      ("changes", .arr (s.changes.map StateChange.toJson)),
      ("transaction_hash", Json.ofOption .str s.transactionHash),
      ("context_info", .obj s.context) ]

/-- Apply traces in order, with a note for every one that was applied. -/
def applyTraces (world : World) (quiet : Bool) (session : Session Unit) :
    List String → String × Except Fault (Session Unit)
  | [] => ("", .ok session)
  | path :: rest =>
    match world.document path with
    | .error fault => ("", .error fault)
    | .ok trace =>
      let move := session.applyTrace trace .null
      match move.result with
      | .error fault => ("", .error fault)
      | .ok snapshot =>
        let note :=
          "  Applied " ++ Style.paint [.brightCyan] path ++ ": "
            ++ Numeral.decimal snapshot.changes.length ++ " storage changes\n"
        let (notes, result) := applyTraces world quiet move.state rest
        ((if quiet then "" else note) ++ notes, result)

/-- The history of a contract in the format of a request. -/
def StateRequest.stateText (r : StateRequest) (world : World) (quiet : Bool) (contract : Contract)
    (history : History) : Except Fault String :=
  let state := history.currentState r.snapshot
  match r.format with
  | .table => .ok (stateListing quiet history.snapshots state)
  | .json =>
    indented (.obj
      [ ("contract", contract.qualifiedName),
        ("snapshots", .arr (history.snapshots.map (snapshotJson world.now))),
        ("current_state", state.toJson) ])

/-- The snapshot that a request asks for must be there. -/
def StateRequest.checkSnapshot (r : StateRequest) (history : History) : Except Fault Unit :=
  match r.snapshot with
  | none => .ok ()
  | some id =>
    match history.snapshot? id with
    | some _ => .ok ()
    | none => .error (.command (.noSnapshot id history.snapshots.length))

/-- Reconstruct the storage of a contract. -/
def StateRequest.execute (world : World) (settings : Settings) (quiet : Bool) (r : StateRequest) :
    Outcome :=
  match Artifact.ofFile r.artifact (world.file r.artifact) r.contract world.levels with
  | .error fault => .ofFault fault
  | .ok contract =>
    let session : Session Unit := Session.begin settings Hub.empty
    let loaded := session.loadState contract
    match loaded.result with
    | .error fault => .ofFault fault
    | .ok _ =>
      let (notes, applied) := applyTraces world quiet loaded.state r.traces
      Outcome.withNotes notes (.ofResult do
        let session ← applied
        r.checkSnapshot session.history
        let text ← r.stateText world quiet contract session.history
        return .printed (text ++ "\n"))

/-! ## Settings -/

/-- The settings as people read them, in the order of their names. -/
def settingsListing (settings : Settings) : String :=
  let entries := settings.entries.mergeSort (fun a b => !decide (b.1 < a.1))
  let lines := entries.map (fun (name, value) =>
    "  " ++ Style.paint [.dim] (name ++ ":") ++ "  " ++ value.display)
  "\n" ++ Style.paint [.bold] (programName ++ " Configuration") ++ "\n\n" ++ ofLines lines ++ "\n"

/-! ## The program -/

/-- The name of the program in large letters, with its purpose and version. -/
def banner : String :=
  let name := "\n".intercalate
    [ "  __ _  __ _ ___| | ___ _ __  ___",
      " / _` |/ _` / __| |/ _ \\ '_ \\/ __|",
      "| (_| | (_| \\__ \\ |  __/ | | \\__ \\",
      " \\__, |\\__,_|___/_|\\___|_| |_|___/",
      " |___/" ]
  "\n" ++ Style.paint [.bold, .brightCyan] name ++ "\n  "
    ++ Style.paint [.dim] ("EVM gas attribution — v" ++ version) ++ "\n"

/-- Execute a command. -/
def Command.execute (world : World) (settings : Settings) (quiet : Bool) : Command → Outcome
  | analyze request => request.execute world settings quiet
  | state request => request.execute world settings quiet
  | config => .printed (settingsListing settings)

/-- The settings of a call. The log is set up from them, quiet calls taking warnings only; a level that
    cannot be set is a fault. -/
def Invocation.settings (world : World) (i : Invocation) : Except Fault Settings := do
  let settingsText ← world.settingsFile.optionalText
  let sources : Settings.Sources := ⟨[], world.environment, settingsText⟩
  let settings ← sources.settings.mapError Fault.fields
  let level := if i.quiet then LogLevel.warning.name else settings.logLevel
  let _ ← Log.setUp settings.deployment.name level
  return settings

/-- Do what an invocation asks for. -/
def Invocation.execute (world : World) (i : Invocation) : Outcome :=
  if i.version then .printed (programName ++ " " ++ CommandLine.version ++ "\n")
  else
    match i.settings world with
    | .error fault => ⟨"", "", none, .error fault⟩
    | .ok settings =>
      let notes := if i.noBanner || i.quiet then "" else banner ++ "\n"
      Outcome.withNotes notes
        (match i.command with
        | none => .printed programManual.text
        | some command => command.execute world settings i.quiet)

/-- Call the program with some words. -/
def execute (world : World) (words : List String) : Outcome :=
  match Invocation.read words with
  | .error stop => .ofStop stop
  | .ok invocation => invocation.execute world

end EvmScope.CommandLine
