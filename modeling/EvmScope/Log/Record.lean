import EvmScope.Clock
import EvmScope.Json.Writer
import EvmScope.Log.Level
import EvmScope.Settings.Basic
import EvmScope.Text.Style
import EvmScope.Text.Template

set_option autoImplicit false

/-! # Log records

A record is written as one line, in colours for people or as a JSON object for machines, which of the two
by where the program runs. A record whose message does not fit its arguments is left out. -/

namespace EvmScope

/-- A failure that led to a record: its kind and its text. -/
structure Failure where
  kind : String
  text : String
  deriving DecidableEq, Repr

/-- The line that shows a failure. -/
def Failure.line (f : Failure) : String :=
  if f.text = "" then f.kind else f.kind ++ ": " ++ f.text

/-- The name of the logger that all others stand under. -/
def rootLogger : String := "root"

/-- The names that a record keeps for its own values. -/
def reservedNames : List String :=
  [ "name", "msg", "args", "levelname", "levelno", "pathname", "filename", "module", "exc_info",
    "exc_text", "stack_info", "lineno", "funcName", "created", "msecs", "relativeCreated", "thread",
    "threadName", "processName", "process", "message", "asctime" ]

/-- What is logged. -/
structure LogRecord where
  /-- The message, a template for the arguments. -/
  message : String
  arguments : List Json
  level : LogLevel
  /-- The name of the logger, empty for the root logger. -/
  logger : String
  /-- The path of the file that logs. -/
  path : Json
  line : Json
  function : Json
  failure : Option Failure
  /-- Named values that go with the record; the names must not be reserved. -/
  extra : List (String × Json)

/-- How records are written. -/
inductive LogFormat
  | lines
  | objects
  deriving DecidableEq, Repr

/-- The format for where the program runs: objects in staging and production. -/
def LogFormat.forDeployment (deployment : String) : LogFormat :=
  if deployment = Deployment.staging.name || deployment = Deployment.production.name then .objects
  else .lines

namespace LogRecord

/-- The message with its arguments filled in; `none` if they do not fit. -/
def text? (r : LogRecord) : Option String :=
  Template.fill? r.message r.arguments

/-- The last component of a path. -/
def fileName (path : String) : List Char :=
  (path.toList.reverse.takeWhile (· ≠ '/')).reverse

/-- The name of a file without its ending. A dot at the very front begins no ending. -/
def moduleOfPath (path : String) : String :=
  let name := fileName path
  let leading := name.takeWhile (· = '.')
  let rest := name.drop leading.length
  if rest.contains '.' then
    String.ofList (leading ++ ((rest.reverse.dropWhile (· ≠ '.')).drop 1).reverse)
  else String.ofList name

/-- The module that logs, by the path of its file. -/
def module (r : LogRecord) : String :=
  match r.path with
  | .str path => moduleOfPath path
  | _ => "Unknown module"

/-- The name of the logger as it is shown. -/
def loggerName (r : LogRecord) : String :=
  if r.logger = "" then rootLogger else r.logger

/-- The first reserved name among the named values. -/
def reserved? (r : LogRecord) : Option String :=
  (r.extra.map (·.1)).find? (fun name => reservedNames.contains name)

/-! ## Lines -/

/-- The colour of a level. -/
def colour : LogLevel → String
  | .debug => Style.start .cyan
  | .info => Style.start .green
  | .warning => Style.start .yellow
  | .error => Style.start .red
  | .critical => Style.start .magenta
  | .notSet => ""

/-- The number of characters of a session's number that a line shows. -/
def shownSession : Nat := 8

/-- The message with the session in front, if the record belongs to one; `none` if the session has no
    beginning to be shown. -/
def withSession? (session : Json) (message : String) : Option String :=
  if !session.isPresent then some message
  else
    match session with
    | .str id => some ("[" ++ String.ofList (id.toList.take shownSession) ++ "] " ++ message)
    | .arr items => some ("[" ++ (Json.arr (items.take shownSession)).literal ++ "] " ++ message)
    | _ => none

/-- The record as a coloured line. -/
def toLine? (now : Clock) (r : LogRecord) : Option String := do
  let message ← r.text?
  let message ← withSession? (Json.fieldOrNull "session_id" r.extra) message
  let head := colour r.level ++ now.timeText ++ " [" ++ padLeft 8 ' ' r.level.name ++ "]"
    ++ Style.reset
  let tail := (r.failure.map (fun f => "\n" ++ f.line)).getD ""
  return head ++ " " ++ r.loggerName ++ ": " ++ message ++ tail

/-! ## Objects -/

/-- The named values that an object shows, in this order. -/
def shownExtras : List String :=
  ["duration_ms", "contract", "snapshot_id", "tx_hash", "hotspot_count"]

/-- The named values of a record that are there. -/
def extrasOf (r : LogRecord) (names : List String) : List (String × Json) :=
  names.filterMap (fun name => (r.extra.lookup name).map (fun value => (name, value)))

/-- The record as a JSON object. -/
def toObject? (now : Clock) (r : LogRecord) : Option String := do
  let message ← r.text?
  let place :=
    if r.path.isPresent then
      [("module", .str r.module), ("function", r.function), ("line", r.line)]
    else []
  let failure :=
    match r.failure with
    | none => []
    | some f =>
      [("exception", Json.obj
        [("type", .str f.kind), ("message", .str f.text), ("traceback", .str f.line)])]
  let head : List (String × Json) :=
    [ ("timestamp", .str now.isoText), ("level", .str r.level.name), ("logger", .str r.loggerName),
      ("message", .str message) ]
  (Json.renderWithin Json.Layout.spaced
    (.obj (head ++ place ++ r.extrasOf ["session_id"] ++ failure
      ++ r.extrasOf shownExtras))).toOption

/-- The record in a format. -/
def write? (format : LogFormat) (now : Clock) (r : LogRecord) : Option String :=
  match format with
  | .lines => r.toLine? now
  | .objects => r.toObject? now

end LogRecord

/-- A log: the level from which records are written, and how. -/
structure Log where
  level : LogLevel
  format : LogFormat
  deriving DecidableEq, Repr

namespace Log

/-- The log for where the program runs and a level. -/
def setUp (deployment level : String) : Except Fault Log :=
  (LogLevel.ofSetting level).map (fun level => ⟨level, LogFormat.forDeployment deployment⟩)

/-- Whether a log takes a record: one with a level, and with none below that of the log. -/
def takes (log : Log) (r : LogRecord) : Bool :=
  r.level ≠ .notSet && log.level.rank ≤ r.level.rank

/-- The text of records in a log, each with a line end behind it. A record with a reserved name among its
    values is a fault, whether the log takes it or not. -/
def write (log : Log) (now : Clock) (records : List LogRecord) : Except Fault String :=
  match records.findSome? LogRecord.reserved? with
  | some name => .error (.reservedName name)
  | none =>
    .ok (String.join
      (((records.filter log.takes).filterMap (LogRecord.write? log.format now)).map (· ++ "\n")))

end Log

end EvmScope
