import EvmScope.CommandLine.Execution
import Std.Time.DateTime.Timestamp

set_option autoImplicit false

/-! # The program

Finds the environment, the files and the time for a call of the program, and prints and writes what the
call leads to. -/

namespace EvmScope.CommandLine

/-- What a path leads to. -/
def findFile (path : String) : IO FileState := do
  try
    return .content (← IO.FS.readBinFile path)
  catch
    | .noFileOrDirectory _ _ _ => return .missing
    | .inappropriateType _ _ _ => return .missing
    | .invalidArgument _ _ _ => return .badPath
    | _ => return .unreadable

/-- The variables of the environment among some names. -/
def findVariables (names : List String) : IO (List (String × String)) :=
  names.filterMapM (fun name => do
    let value ← IO.getEnv name
    return value.map (fun text => (name, text)))

/-- The time now. -/
def findTime : IO Clock := do
  let now ← Std.Time.Timestamp.now
  return .ofMillis now.toMillisecondsSinceUnixEpoch.val.toNat

/-- What a call of the program finds, apart from the time that an analysis takes. -/
def findWorld (words : List String) : IO World := do
  let paths :=
    match Invocation.read words with
    | .ok invocation => invocation.inputs
    | .error _ => []
  let files ← paths.mapM (fun path => do
    let file ← findFile path
    return (path, file))
  let settingsFile ← findFile ".env"
  return {
    environment := ← findVariables (Settings.wantedVariables settingsFile.text?)
    settingsFile := settingsFile
    file := fun path => (files.lookup path).getD .missing
    now := ← findTime
    elapsed := 0 }

/-- Write the file of an outcome, if it has one. -/
def writeOutcome (o : Outcome) : IO Outcome := do
  match o.file with
  | none => return o
  | some (path, text) =>
    try
      IO.FS.writeFile path text
      return o
    catch _ => return o.writeFailed

/-- The outcome of a call that is told how many milliseconds it takes; an outcome with an exit status is
    made a second time, with the time that the first one took. -/
def timed (call : Nat → Outcome) : IO Outcome := do
  let started ← IO.monoMsNow
  let first := call 0
  match first.status with
  | .error _ => return first
  | .ok _ =>
    let finished ← IO.monoMsNow
    return call (finished - started)

end EvmScope.CommandLine

open EvmScope.CommandLine in
/-- Call the program. -/
def main (words : List String) : IO UInt32 := do
  let world ← findWorld words
  let planned ← timed (fun elapsed => execute { world with elapsed := elapsed } words)
  let outcome ← writeOutcome planned
  IO.print outcome.output
  IO.eprint outcome.notes
  match outcome.status with
  | .ok status => return status.toUInt32
  | .error fault =>
    IO.eprint (faultLines fault)
    return 1
